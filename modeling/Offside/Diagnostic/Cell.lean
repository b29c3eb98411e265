import Offside.Text.Blank
import Offside.Text.Width

/-!
# The cells of a shown line

A line of the source is shown with its blanks as spaces. Each character has a cell of one or more
columns, or of none, and the signs below a line are laid out in the same cells.
-/

namespace Offside.Diagnostic

/-- The number of columns that the character at an index of a line takes. A tab reaches to the next
multiple of four, counted in characters. -/
def cellWidth (index : Nat) (c : Char) : Nat :=
  if c = '\t' then (index / 4 + 1) * 4 - index
  else if Text.isBlank c then 1
  else Text.displayWidth c

/-- The characters of a line as they are shown, from the one at `index` on: blanks as spaces. -/
def shownFrom (index : Nat) : List Char → List Char
  | [] => []
  | c :: text =>
    (if Text.isBlank c then List.replicate (cellWidth index c) ' ' else [c])
      ++ shownFrom (index + 1) text

/-- As many cells of a line as asked for, from the one at `index` on, each with its width. Behind
the characters of the line a cell is one column wide. -/
def cellsFrom (index : Nat) : (count : Nat) → List Char → List (Nat × Nat)
  | 0, _ => []
  | count + 1, [] => (index, 1) :: cellsFrom (index + 1) count []
  | count + 1, c :: text => (index, cellWidth index c) :: cellsFrom (index + 1) count text

/-- A row of signs under cells: for each cell the sign of its first column, and the sign of its
other columns. -/
def row (signs : Nat → Char × Char) (cells : List (Nat × Nat)) : List Char :=
  cells.flatMap fun (index, width) =>
    match width with
    | 0 => []
    | columns + 1 => (signs index).1 :: List.replicate columns (signs index).2

end Offside.Diagnostic
