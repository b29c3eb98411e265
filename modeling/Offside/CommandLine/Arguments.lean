import Offside.CommandLine.Invocation
import Offside.Compile

/-!
# Reading the arguments

Options may stand before and behind the source file. A long option takes its value behind `=` or
from the next argument, a short one from the rest of its argument, with or without `=`, or from the
next argument. Short options without a value may be joined. A value that is taken from the next
argument must not look like an option itself, and behind `--` nothing is an option any more.

Only `-v` may be given more than once. It may also stand before the name of the command; if it
stands in both places, those behind the name count.
-/

namespace Offside.CommandLine

/-- An argument by its form. -/
inductive Argument where
  | plain (text : String)
  | long (name : List Char) (value? : Option String)
  | short (letters : List Char)
  /-- The end of the options. -/
  | separator
deriving Repr, DecidableEq

/-- The form of an argument. A single `-` is not an option. -/
def Argument.of (text : String) : Argument :=
  match text.toList with
  | ['-', '-'] => .separator
  | '-' :: '-' :: option =>
    match option.dropWhile (· != '=') with
    | [] => .long option none
    | _ :: value => .long (option.takeWhile (· != '=')) (some (String.ofList value))
  | '-' :: c :: letters => .short (c :: letters)
  | _ => .plain text

/-- The number that digits stand for, after an optional plus sign, if it fits into a word of the
machine. -/
def readWidth? (text : String) : Option Nat :=
  let digits := match text.toList with
    | '+' :: digits => digits
    | digits => digits
  if digits ≠ [] ∧ digits.all Char.isDigit then
    let number := digits.foldl (fun n c => 10 * n + (c.toNat - '0'.toNat)) 0
    if number < UInt64.size then some number else none
  else none

/-- The names of the commands. -/
inductive Form where
  | compile
  | check
  | tokens
deriving Repr, DecidableEq

/-- The command with this name. -/
def Form.ofName? : String → Option Form
  | "compile" => some .compile
  | "check" => some .check
  | "tokens" => some .tokens
  | _ => none

/-- The options that take a value. -/
inductive Setting where
  | output
  | width
deriving Repr, DecidableEq

/-- What has been read of the arguments behind the name of a command. -/
structure Reader where
  source? : Option String := none
  output? : Option String := none
  toOutput : Bool := false
  width? : Option Nat := none
  verbose : Nat := 0
  /-- An option that has yet to get its value. -/
  waiting? : Option Setting := none
  /-- Whether the end of the options has been passed. -/
  optionsEnded : Bool := false

namespace Reader

/-- Takes the name of the source file. -/
def takeSource (r : Reader) (name : String) : Option Reader :=
  if r.source?.isSome ∨ name = "" then none else some { r with source? := some name }

/-- Takes the value of an option. -/
def takeValue (r : Reader) (setting : Setting) (value : String) : Option Reader :=
  match setting with
  | .output =>
    if r.output?.isSome ∨ value = "" then none else some { r with output? := some value }
  | .width =>
    if r.width?.isSome then none
    else (readWidth? value).map fun width => { r with width? := some width }

/-- Takes the value of an option if it is there, and waits for it otherwise. -/
def takeSetting (r : Reader) (setting : Setting) : Option String → Option Reader
  | some value => r.takeValue setting value
  | none => some { r with waiting? := some setting }

/-- Takes a long option. -/
def takeLong (form : Form) (r : Reader) (name : List Char) (value? : Option String) :
    Option Reader :=
  match form, String.ofList name, value? with
  | _, "verbose", none => some { r with verbose := r.verbose + 1 }
  | .compile, "stdout", none => if r.toOutput then none else some { r with toOutput := true }
  | .compile, "output", value? => r.takeSetting .output value?
  | .compile, "indent", value? => r.takeSetting .width value?
  | _, _, _ => none

/-- Takes short options. -/
def takeShort (form : Form) (r : Reader) : List Char → Option Reader
  | [] => some r
  | 'v' :: letters => takeShort form { r with verbose := r.verbose + 1 } letters
  | 'o' :: letters =>
    if form = .compile then
      r.takeSetting .output <| match letters with
        | [] => none
        | '=' :: value => some (String.ofList value)
        | value => some (String.ofList value)
    else none
  | _ => none

/-- Takes one argument. -/
def take (form : Form) (r : Reader) (text : String) : Option Reader :=
  if r.optionsEnded then r.takeSource text
  else match r.waiting?, Argument.of text with
    | some setting, .plain value => { r with waiting? := none }.takeValue setting value
    | some _, _ => none
    | none, .plain name => r.takeSource name
    | none, .long name value? => r.takeLong form name value?
    | none, .short letters => r.takeShort form letters
    | none, .separator => some { r with optionsEnded := true }

/-- The command that has been read, if nothing is missing and nothing contradicts. -/
def command? (form : Form) (r : Reader) : Option Command :=
  match r.source?, r.waiting? with
  | some source, none =>
    match form, r.toOutput, r.output? with
    | .check, _, _ => some (.check source)
    | .tokens, _, _ => some (.tokens source)
    | .compile, true, some _ => none
    | .compile, true, none => some (.compile source .output (r.width?.getD defaultWidth))
    | .compile, false, some path =>
      some (.compile source (.file path) (r.width?.getD defaultWidth))
    | .compile, false, none => some (.compile source .default (r.width?.getD defaultWidth))
  | _, _ => none

end Reader

/-- How much is told for a number of `-v`. -/
def verbosity : Nat → Log.Verbosity
  | 0 => .quiet
  | 1 => .debugging
  | _ => .tracing

/-- Reads short options before the name of a command: the number of `-v`, or none if the version is
asked for. -/
def readLeading? : List Char → Option (Option Nat)
  | [] => some (some 0)
  | 'v' :: letters => (readLeading? letters).map (·.map (· + 1))
  | 'V' :: _ => some none
  | _ => none

/-- Reads the arguments behind the name of a command. -/
def readCommand? (leading : Nat) (form : Form) (arguments : List String) : Option Request :=
  (arguments.foldlM (Reader.take form) {}).bind fun r =>
    (r.command? form).map (.run (verbosity (if r.verbose = 0 then leading else r.verbose)))

/-- Reads the arguments, after `leading` times `-v`. -/
def readArguments? (leading : Nat) : List String → Option Request
  | [] => none
  | text :: arguments =>
    match Argument.of text with
    | .plain name => (Form.ofName? name).bind fun form => readCommand? leading form arguments
    | .long name none =>
      match String.ofList name with
      | "verbose" => readArguments? (leading + 1) arguments
      | "version" => some .version
      | _ => none
    | .short letters =>
      match readLeading? letters with
      | some (some more) => readArguments? (leading + more) arguments
      | some none => some .version
      | none => none
    | _ => none

/-- The request that the arguments stand for, if they are understood. -/
def Request.ofArguments? (arguments : List String) : Option Request := readArguments? 0 arguments

end Offside.CommandLine
