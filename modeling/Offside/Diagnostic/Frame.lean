import Offside.Error
import Offside.Source.Line
import Offside.Source.Position
import Offside.Text.Column
import Offside.Diagnostic.Label
import Offside.Diagnostic.Bracket

/-!
# Showing an error in its source

An error is shown under its title in a frame: the line of the source that it is in, a label under
the characters to blame, and the place as a reader counts it.

The two ways of counting do not mix well. The span of an error is in bytes, and the place in the
last line of the frame is found by bytes. The label takes the same two numbers for character
offsets. So behind characters that take several bytes it stands too far to the right: it may point
into a later line or over several, and where it runs out of its line only the frame is left, and
where it runs out of the source only the title.
-/

namespace Offside

namespace Diagnostic

/-- The first line of a note and the lines after it. A line ends at a newline, and at the carriage
return before it if there is one. -/
def noteLines : List Char → List Char × List (List Char)
  | [] => ([], [])
  | '\r' :: '\n' :: note =>
    let (line, more) := noteLines note
    ([], line :: more)
  | '\n' :: note =>
    let (line, more) := noteLines note
    ([], line :: more)
  | c :: note =>
    let (line, more) := noteLines note
    (c :: line, more)

/-- A note behind the margin, its lines below each other. -/
def annotated (margin note : String) : String :=
  let (line, more) := noteLines note.toList
  s!"{margin}Note: {String.ofList line}\n"
    ++ String.join (more.map fun line => s!"{margin}      {String.ofList line}\n")

/-- The frame around what is shown of a text, with a label from the character `start` to the
character `stop`. -/
def frame (text : List Char) (start stop : Nat) (message place : String) : String :=
  let first := Line.holding start text
  let last := Line.holding (max start (stop - 1)) text
  let digits := (toString last.number).length
  let margin := Text.spaces (digits + 2)
  let (rows, rail) :=
    if first.number = last.number then
      let label : Label :=
        ⟨start - first.start, stop - first.start, (start + stop) / 2 - first.start⟩
      (label.shown first margin message, "")
    else
      let bracket : Bracket := ⟨first, last, start - first.start, stop - last.start⟩
      (bracket.shown digits message, bracket.rail)
  s!"{margin}╭─[ <unknown>:{(first.position start).shown} ]\n"
    ++ s!"{margin}│\n"
    ++ rows
    ++ s!"{margin}│ {rail}\n"
    ++ annotated s!"{margin}│ {rail}" s!"at {place}"
    ++ String.ofList (List.replicate (digits + 2) '─') ++ "╯\n"

/-- The span of a diagnostic as far as it lies within the source. -/
def extent (d : Diagnostic) (source : String) : Span :=
  let stop := min d.span.stop source.utf8ByteSize
  ⟨min d.span.start stop, stop⟩

/-- Whether a span is one of characters of the text too, its end included. -/
def reaches (text : List Char) (span : Span) : Bool :=
  decide (span.start ≤ text.length)
    && (decide (span.stop ≤ span.start) || decide (span.stop ≤ text.length + 1))

/-- The diagnostic as it is shown for a source of the given name. -/
def render (d : Diagnostic) (source filename : String) : String :=
  let text := source.toList
  let span := d.extent source
  let place := s!"{filename}:{(Position.ofOffset source span.start).shown}"
  s!"Error: {d.stage.title}\n"
    ++ (if reaches text span then
          frame text span.start span.stop d.message place
        else "")

end Diagnostic

/-- The error as it is shown for a source of the given name. -/
def Error.render (error : Error) (source filename : String) : String :=
  match error.diagnostic? with
  | some diagnostic => diagnostic.render source filename
  | none => error.display

end Offside
