import Offside.Diagnostic.Cell
import Offside.Source.Line
import Offside.Text.Column

/-!
# A label over several lines

Characters to blame that begin in one line and end in a later one are not marked one by one. A
bracket to the left of the source points to the first and to the last of their lines, and carries
the message at its foot. The lines between are left out.
-/

namespace Offside.Diagnostic

/-- A label that begins in one line and ends in a later one. -/
structure Bracket where
  first : Line
  last : Line
  /-- The first character to blame, counted from where the first line begins. -/
  start : Nat
  /-- The character behind the last one to blame, counted from where the last line begins. -/
  stop : Nat

namespace Bracket

/-- Whether the last line holds all that is to blame in it. Otherwise the label runs out of the
source, and the bracket stays open: neither the last line nor the message is shown. -/
def closed (bracket : Bracket) : Bool := decide (bracket.stop ≤ bracket.last.text.length)

/-- Whether lines are left out behind the first. -/
def skips (bracket : Bracket) : Bool :=
  !bracket.closed || decide (bracket.first.number + 1 < bracket.last.number)

/-- What stands in place of the bracket beside the note. It is empty, but for a bracket that begins
with the second line of the source: its bar is drawn on. -/
def rail (bracket : Bracket) : String :=
  if bracket.first.number = 2 ∧ bracket.start = 0 then "│   " else "    "

/-- A line that the bracket points to with the arrow `arrow`, with its number in so many digits. -/
def pointed (digits : Nat) (arrow : String) (line : Line) : String :=
  let number := Text.flushRight digits (toString line.number)
  s!" {number} │ {arrow} {String.ofList (shownFrom 0 (Text.trimEnd line.text))}\n"

/-- The rows below the last line, with the foot of the bracket and the message. The foot reaches two
columns beyond the line and its terminator. -/
def foot (bracket : Bracket) (margin message : String) : String :=
  let cells := cellsFrom 0 (bracket.last.text.length + 2) (Text.trimEnd bracket.last.text)
  let gap := row (fun _ => (' ', ' ')) cells
  let lead := row (fun _ => ('─', '─')) cells
  s!"{margin}│ │   {String.ofList gap}\n"
    ++ s!"{margin}│ ╰───{String.ofList lead} {message}\n"

/-- The rows that show the lines, the bracket and the message. -/
def shown (bracket : Bracket) (digits : Nat) (message : String) : String :=
  let margin := Text.spaces (digits + 2)
  pointed digits "╭─▶" bracket.first
    ++ (if bracket.skips then s!"{margin}┆ ┆   \n" else "")
    ++ (if bracket.closed then
          pointed digits "├─▶" bracket.last ++ bracket.foot margin message
        else "")

end Bracket

end Offside.Diagnostic
