import Offside.Session.Program
import Offside.Sink

/-!
# Compiling a source

Three ways to compile a whole source to Python: for the code, for the code and the log, and into a
sink. They agree on which sources are compiled, and a sink is left alone unless the whole source has
been compiled.
-/

namespace Offside

/-- The number of spaces that make up one level of the margin unless another is asked for. -/
def defaultWidth : Nat := 4

/-- The code written for a source, and the log. -/
def compileLogged (source : String) (width : Nat) : Except Error String × List Event :=
  match Session.start source width .python with
  | .error (error, log) => (.error error, log.toList)
  | .ok s => match s.program with
    | .done s => (.ok s.draft.code, s.log.toList)
    | .halted error s => (.error error, s.log.toList)

/-- The code written for a source. -/
def compile (source : String) (width : Nat) : Except Error String :=
  (compileLogged source width).1

/-- Hands the code of a session to a sink, as far as it is written. -/
def Session.commit (s : Session) (sink : Sink) : Except Error Unit × Sink :=
  sink.commit s.draft.code

/-- Compiles a source and hands the code to a sink. -/
def compileInto (source : String) (width : Nat) (sink : Sink) : Except Error Unit × Sink :=
  match Session.start source width .python with
  | .error (error, _) => (.error error, sink)
  | .ok s => match s.program with
    | .done s => s.commit sink
    | .halted error _ => (.error error, sink)

end Offside
