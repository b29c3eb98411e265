import Offside.Token.Fault
import Offside.Scheme.Demand

/-!
# Errors

Compiling a program ends at the first error. An error is found in reading the words of the source,
in their order, or in handing the finished code over. The first two have a place in the source.
-/

namespace Offside

/-- Why code or a source could not be handed over. -/
inductive IoFault where
  | notFound
  | notDirectory
  | isDirectory
  | nameTooLong
  | notUnicode
  /-- The destination has no room for all of the code. -/
  | bufferFull
  | other (message : String)
deriving Repr, DecidableEq

/-- The message of a fault. -/
def IoFault.message : IoFault → String
  | .notFound => "No such file or directory (os error 2)"
  | .notDirectory => "Not a directory (os error 20)"
  | .isDirectory => "Is a directory (os error 21)"
  | .nameTooLong => "File name too long (os error 36)"
  | .notUnicode => "stream did not contain valid UTF-8"
  | .bufferFull => "failed to write whole buffer"
  | .other message => message

/-- The stages at which a source may turn out to be wrong. -/
inductive Stage where
  | lexing
  | parsing
deriving Repr, DecidableEq

/-- How an error of a stage is announced. -/
def Stage.title : Stage → String
  | .lexing => "Lexing error"
  | .parsing => "Syntax error"

/-- An error, with its place in the source if it has one. -/
inductive Error where
  | lexical (fault : LexicalFault) (span : Span)
  | grammatical (fault : GrammarFault) (span : Span)
  | io (fault : IoFault)
deriving Repr, DecidableEq

/-- What is told about a wrong source. -/
structure Diagnostic where
  stage : Stage
  message : String
  /-- The bytes of the source that are to blame. -/
  span : Span
deriving Repr, DecidableEq

/-- The message behind the announcement. -/
def Diagnostic.display (d : Diagnostic) : String := s!"{d.stage.title}: {d.message}"

namespace Error

/-- What the error says about the source, if it is one of the source. -/
def diagnostic? : Error → Option Diagnostic
  | .lexical fault span => some ⟨.lexing, fault.message, span⟩
  | .grammatical fault span => some ⟨.parsing, fault.message, span⟩
  | .io _ => none

/-- What is wrong. -/
def message : Error → String
  | .lexical fault _ => fault.message
  | .grammatical fault _ => fault.message
  | .io fault => fault.message

/-- The bytes of the source that are to blame. -/
def span? (error : Error) : Option Span := error.diagnostic?.map (·.span)

/-- The message behind the announcement. -/
def display (error : Error) : String :=
  match error.diagnostic? with
  | some diagnostic => diagnostic.display
  | none => s!"IO error: {error.message}"

end Error

end Offside
