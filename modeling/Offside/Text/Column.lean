/-!
# Columns of a listing

A field is filled up with spaces to its width. A text that is already as wide is left as it is, so
a field never loses characters.
-/

namespace Offside.Text

/-- The text consisting of `n` spaces. -/
def spaces (n : Nat) : String := String.ofList (List.replicate n ' ')

/-- The text with spaces before it, at least `width` characters long. -/
def flushRight (width : Nat) (text : String) : String := spaces (width - text.length) ++ text

/-- The text with spaces after it, at least `width` characters long. -/
def flushLeft (width : Nat) (text : String) : String := text ++ spaces (width - text.length)

example : flushRight 5 "12" = "   12" ∧ flushLeft 5 "12" = "12   " := by decide

end Offside.Text
