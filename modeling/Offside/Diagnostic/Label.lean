import Offside.Diagnostic.Cell
import Offside.Source.Line
import Offside.Text.Column

/-!
# A label on a line

The characters to blame in a line are marked below it, and the message is tied on in the middle of
them.
-/

namespace Offside.Diagnostic

/-- A label on a line, counted in characters from where the line begins. -/
structure Label where
  /-- The first character to blame. -/
  start : Nat
  /-- The character behind the last one to blame. -/
  stop : Nat
  /-- The character under which the message is tied on. -/
  knot : Nat

namespace Label

/-- Whether the character at an index is to blame. -/
def covers (label : Label) (index : Nat) : Bool :=
  decide (label.start ≤ index) && decide (index < label.stop)

/-- What stands under a character to mark it: once the first sign, and the second for the other
columns of the character. -/
def mark (label : Label) (index : Nat) : Char × Char :=
  match decide (index = label.knot), label.covers index with
  | true, true => ('┬', '─')
  | true, false => ('│', ' ')
  | false, true => ('─', '─')
  | false, false => (' ', ' ')

/-- What stands below that to lead to the message. -/
def lead (label : Label) (index : Nat) : Char × Char :=
  if index < label.knot then (' ', ' ')
  else if index = label.knot then ('╰', '─')
  else ('─', '─')

/-- The rows that show a line of the source, its marks and the message. A label that runs out of the
line leaves one empty row. -/
def shown (label : Label) (line : Line) (margin message : String) : String :=
  if label.stop > line.text.length then s!"{margin}│ \n"
  else
    let text := Text.trimEnd line.text
    let cells := cellsFrom 0 (label.stop + 2) text
    s!" {line.number} │ {String.ofList (shownFrom 0 text)}\n"
      ++ s!"{margin}│ {String.ofList (row label.mark cells)}\n"
      ++ s!"{margin}│ {String.ofList (row label.lead cells)} {message}\n"

end Label

end Offside.Diagnostic
