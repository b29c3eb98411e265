import Offside.Text.CodeRanges

/-!
# White space

The Unicode property White_Space, which decides what may be cut from the end of a displayed line.
It is wider than the blanks that may stand between two tokens.
-/

namespace Offside.Text

/-- The code points with the property White_Space. -/
def blankRanges : CodeRanges :=
  [(0x9, 0xD), (0x20, 0x20), (0x85, 0x85), (0xA0, 0xA0), (0x1680, 0x1680), (0x2000, 0x200A),
   (0x2028, 0x2029), (0x202F, 0x202F), (0x205F, 0x205F), (0x3000, 0x3000)]

/-- White space in the sense of Unicode: a character that is seen only as a gap or a line end. -/
def isBlank (c : Char) : Bool := blankRanges.has c

/-- The text without the white space at its end. -/
def trimEnd (text : List Char) : List Char := (text.reverse.dropWhile isBlank).reverse

end Offside.Text
