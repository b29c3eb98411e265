import Offside.Source.Position

/-!
# Lines of a displayed source

For display a source is cut at every line terminator that Unicode knows, and not only at `\n`. Each
line keeps its terminator, so the lines put together are the source again. A terminator at the very
end starts no further line.
-/

namespace Offside

/-- A character that ends a displayed line. -/
def isLineEnd (c : Char) : Bool :=
  c == '\n' || c == '\r' || c == '\x0b' || c == '\x0c' || c == '\u0085' || c == '\u2028'
    || c == '\u2029'

/-- The lines of a text, each with its terminator. -/
def linesOf : List Char → List (List Char)
  | [] => []
  | '\r' :: '\n' :: text => ['\r', '\n'] :: linesOf text
  | c :: text =>
    if isLineEnd c then [c] :: linesOf text
    else match linesOf text with
      | [] => [[c]]
      | line :: more => (c :: line) :: more

/-- No character is lost when a text is cut into lines. -/
theorem flatten_linesOf (text : List Char) : (linesOf text).flatten = text := by
  fun_induction linesOf text <;> simp_all

/-- A line in its place. -/
structure Line where
  /-- Counted from one. -/
  number : Nat
  /-- The number of characters before the line. -/
  start : Nat
  /-- The characters of the line and its terminator. -/
  text : List Char
deriving Repr, DecidableEq

namespace Line

/-- Among lines of which the first has the given number and start, the last one that begins at or
before the character `offset`. -/
def find (number start offset : Nat) : List (List Char) → Line
  | [] => ⟨number, start, []⟩
  | [line] => ⟨number, start, line⟩
  | line :: next :: more =>
    if start + line.length ≤ offset then
      find (number + 1) (start + line.length) offset (next :: more)
    else ⟨number, start, line⟩

/-- The line that holds the character `offset` of a text. The end of the text belongs to the last
line, also when that line is terminated, and an empty text has one empty line. -/
def holding (offset : Nat) (text : List Char) : Line := find 1 0 offset (linesOf text)

/-- The position of the character `offset` if it is in this line. -/
def position (line : Line) (offset : Nat) : Position := ⟨line.number, offset - line.start + 1⟩

end Line

end Offside
