import Offside.Text.Column

/-!
# Records of the log

What happens while a program is compiled can be followed in the log. Each record has a level and the
name of the part of the program that it comes from.
-/

namespace Offside.Log

/-- How much of a concern a record is, the least first. -/
inductive Level where
  | trace
  | debug
  | info
deriving Repr, DecidableEq

/-- The name of a level. -/
def Level.name : Level → String
  | .trace => "TRACE"
  | .debug => "DEBUG"
  | .info => "INFO"

/-- The parts of the program that tell something. -/
inductive Origin where
  | lexer
  | scope
  | session
  | commandLine
deriving Repr, DecidableEq

/-- The name under which a part tells something. -/
def Origin.name : Origin → String
  | .lexer => "teeny::lexer::scanner"
  | .scope => "teeny::translator::registry"
  | .session => "teeny::translator::translator"
  | .commandLine => "teeny"

/-- Something that was told. -/
structure Record where
  level : Level
  origin : Origin
  text : String
deriving Repr, DecidableEq

/-- A text with the lines after its first one indented. -/
def hanging (text : String) : String :=
  String.ofList (text.toList.flatMap fun c => if c = '\n' then ['\n', ' ', ' ', ' ', ' '] else [c])

/-- A record as it is shown. -/
def Record.shown (record : Record) : String :=
  s!"[{Text.flushLeft 5 record.level.name} {record.origin.name}] {hanging record.text}\n"

/-- How many levels are shown: none, all but the traces, or all. -/
inductive Verbosity where
  | quiet
  | debugging
  | tracing
deriving Repr, DecidableEq

/-- Whether records of a level are shown. -/
def Verbosity.shows : Verbosity → Level → Bool
  | .quiet, _ => false
  | .debugging, level => level != .trace
  | .tracing, _ => true

/-- The records that are shown, one after the other. -/
def shown (verbosity : Verbosity) (records : List Record) : String :=
  String.join <| (records.filter fun record => verbosity.shows record.level).map Record.shown

end Offside.Log
