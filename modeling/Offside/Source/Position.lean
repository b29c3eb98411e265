import Offside.Source.Span

/-!
# Lines and columns

A reader finds a place by its line and by its column within the line, both counted from one. Lines
end at `\n` only, and columns count characters. A byte offset inside a character stands for the
character after it, and an offset past the end stands for the end.
-/

namespace Offside

/-- A place in a source as a reader counts it. -/
structure Position where
  line : Nat
  column : Nat
deriving Repr, DecidableEq, Inhabited

namespace Position

/-- Where a source begins. -/
def first : Position := ⟨1, 1⟩

/-- The position after a character that stands at `p`. -/
def after (p : Position) (c : Char) : Position :=
  if c = '\n' then ⟨p.line + 1, 1⟩ else ⟨p.line, p.column + 1⟩

/-- The position reached from `p` over those characters of the text that begin within its first
`bytes` bytes. -/
def walk (p : Position) : (bytes : Nat) → List Char → Position
  | 0, _ => p
  | _ + 1, [] => p
  | bytes + 1, c :: text => (p.after c).walk (bytes + 1 - c.utf8Size) text

/-- The position of a byte offset. -/
def ofOffset (source : String) (offset : Nat) : Position := first.walk offset source.toList

/-- A position as it is shown. -/
def shown (p : Position) : String := s!"{p.line}:{p.column}"

example : ofOffset "ab\ncd" 4 = ⟨2, 2⟩ := by decide

end Position

end Offside
