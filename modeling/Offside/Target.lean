/-!
# The language that is written

A program is compiled by writing fragments of the target language between its own names, numbers
and operators. What the fragments are is all that is known of the language; each one brings its own
spaces with it. That its blocks are laid out by indentation is taken for granted.
-/

namespace Offside

/-- The places that a target language fills in its own way. -/
inductive Fragment where
  | printOpen | printClose
  | ifOpen | whileOpen | functionOpen
  /-- Ends the first line of a block statement. -/
  | blockOpen
  | elseLine
  | assign
  /-- Reads a number from the input. -/
  | readNumber
  | returnOpen
  | and | or | not
  /-- Stands in for the statements of an empty block. -/
  | emptyBody
deriving Repr, DecidableEq

/-- A language that programs are compiled to. -/
structure Target where
  /-- The name of the language. -/
  language : String
  /-- The extension of its files, without the point. -/
  extension : String
  /-- The lines that come before all statements. -/
  preamble : List String
  /-- The spelling of each fragment. -/
  spelling : Fragment → String
  /-- The literal for a text that holds no quotes and nothing to escape. -/
  quote : String → String

/-- The spelling of the fragments in Python. -/
def pythonSpelling : Fragment → String
  | .printOpen => "print("
  | .printClose => ")"
  | .ifOpen => "if "
  | .whileOpen => "while "
  | .functionOpen => "def "
  | .blockOpen => ":"
  | .elseLine => "else:"
  | .assign => " = "
  | .readNumber => "float(input())"
  | .returnOpen => "return "
  | .and => " and "
  | .or => " or "
  | .not => "not "
  | .emptyBody => "pass"

/-- Python, to which programs are compiled unless another target is given. -/
def Target.python : Target where
  language := "Python"
  extension := "py"
  preamble := ["import sys"]
  spelling := pythonSpelling
  quote text := "\"" ++ text ++ "\""

end Offside
