import Offside.CommandLine.Plan

/-!
# The program

Carries out the plan for its arguments on the files of the machine.
-/

namespace Offside.CommandLine

/-- The fault that an error of the machine stands for. -/
def faultOf : IO.Error → IoFault
  | .noFileOrDirectory .. => .notFound
  | .inappropriateType _ code _ => if code = 21 then .isDirectory else .notDirectory
  | error@(.invalidArgument _ code _) => if code = 36 then .nameTooLong else .other (toString error)
  | error => .other (toString error)

/-- Reads the text in a file. -/
def readText (path : String) : IO (Except IoFault String) := do
  try
    let bytes ← IO.FS.readBinFile path
    match String.fromUTF8? bytes with
    | some text => return .ok text
    | none => return .error .notUnicode
  catch error => return .error (faultOf error)

/-- Writes a text to a file. -/
def writeText (path code : String) : IO (Except IoFault Unit) := do
  try
    IO.FS.writeFile path code
    return .ok ()
  catch error => return .error (faultOf error)

/-- Carries out a plan on the files of the machine. -/
def Plan.perform : Plan → IO Response
  | .finish response => return response
  | .read path next => do (next (← readText path)).perform
  | .write path code next => do (next (← writeText path code)).perform

end Offside.CommandLine

/-- Answers the arguments. -/
def main (arguments : List String) : IO UInt32 := do
  let response ← (Offside.CommandLine.planFor arguments).perform
  IO.eprint response.messages
  IO.print response.output
  return response.exitCode.toUInt32
