import Offside.Session.Run

/-!
# Compiling a program

A program is the blank lines before its first statement and its statements up to the end of the
input. A session may be told to compile its program any number of times: it writes the preamble of
the target once more each time and goes on where it stands.
-/

namespace Offside.Session

/-- Writes the preamble of the target. -/
def writePreamble (s : Session) : Session :=
  { s with draft := s.target.preamble.foldl Draft.writeHeader s.draft }

/-- Tells that the program has been compiled. -/
def noteFinished (s : Session) : Session :=
  s.note (.finished s.statements s.target.language s.scope.size)

/-- Compiles the program from where the session stands. -/
def program (s : Session) : Outcome :=
  match s.writePreamble.run [.phrase .blankLines, .phrase .statements] with
  | .done s => .done s.noteFinished
  | .halted error s => .halted error s

end Offside.Session
