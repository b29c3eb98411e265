import Offside.CommandLine.Arguments
import Offside.Diagnostic.Frame
import Offside.Token.Listing

/-!
# Doing what is asked for

What a command does with files is a plan: to read a file, to write a file, or to finish, where what
comes next depends on how reading or writing went. A plan can be carried out on a tree of files or
on the files of the machine, and is the same in both cases. All that is printed is printed at the
end.

A source is compiled as a whole before anything is written, so that a command that fails leaves all
files as they are.
-/

namespace Offside.CommandLine

/-- What a command leaves behind. -/
structure Response where
  /-- Zero if the command was carried out. -/
  exitCode : Nat
  output : String
  /-- Records of the log, and what is wrong. -/
  messages : String
deriving Repr, DecidableEq

/-- What is to be done with files. -/
inductive Plan where
  | finish (response : Response)
  | read (path : String) (next : Except IoFault String → Plan)
  | write (path code : String) (next : Except IoFault Unit → Plan)

/-- Carries out a plan on a tree of files. -/
def Plan.carryOut (tree : FileTree) : Plan → Response × FileTree
  | .finish response => (response, tree)
  | .read path next => (next (tree.readText path)).carryOut tree
  | .write path code next =>
    match tree.write path code.toUTF8 with
    | .ok tree => (next (.ok ())).carryOut tree
    | .error fault => (next (.error fault)).carryOut tree

/-- The name of the program. -/
def programName : String := "teeny"

/-- The version of the program. -/
def programVersion : String := "0.1.0"

/-! ## The log of a command -/

/-- Tells that a name has been declared. -/
def declaredRecord (entry : String × NameKind) : Log.Record :=
  ⟨.debug, .commandLine, s!"declared {entry.2.description} '{entry.1}'"⟩

/-- Tells that a file is going to be written. -/
def writingRecord (path code : String) : Log.Record :=
  ⟨.debug, .commandLine, s!"writing {code.utf8ByteSize} bytes to {path}"⟩

/-- Tells how much code a source would be compiled to. -/
def generatedRecord (target : Target) (code : String) : Log.Record :=
  ⟨.info, .commandLine, s!"{code.utf8ByteSize} bytes of {target.language} generated"⟩

/-! ## The commands -/

/-- The last name of a path. -/
def lastName (path : String) : List Char :=
  (path.toList.reverse.takeWhile (· != '/')).reverse

/-- A name without its extension. A point at the front of a name begins no extension. -/
def stem (name : List Char) : List Char :=
  match name.reverse.dropWhile (· != '.') with
  | _ :: c :: front => (c :: front).reverse
  | _ => name

/-- The file that the code for a source goes to unless another is asked for. -/
def defaultPath (source : String) (target : Target) : String :=
  s!"{String.ofList (stem (lastName source))}.{target.extension}"

/-- Reads a source and goes on with it. -/
def withSource (path : String) (next : String → Plan) : Plan :=
  .read path fun
    | .ok source => next source
    | .error fault => .finish ⟨1, "", s!"Error reading file '{path}': {fault.message}\n"⟩

/-- Writes compiled code and tells how that went. -/
def save (path code messages : String) : Plan :=
  .write path code fun
    | .ok () => .finish ⟨0, s!"Generated: {path} ({code.utf8ByteSize} bytes)\n", messages⟩
    | .error fault =>
      .finish ⟨1, "", s!"{messages}Error writing '{path}': {(Error.io fault).display}\n"⟩

/-- The plan to compile a source. -/
def compilePlan (verbosity : Log.Verbosity) (path : String) (destination : Destination)
    (width : Nat) : Plan :=
  withSource path fun source =>
    let told (events : Array Event) (more : List Log.Record) : String :=
      Log.shown verbosity (events.toList.map Event.record ++ more)
    match Session.start source width .python with
    | .error (error, log) => .finish ⟨1, "", told log [] ++ error.render source path⟩
    | .ok s => match s.program with
      | .halted error s => .finish ⟨1, "", told s.log [] ++ error.render source path⟩
      | .done s =>
        let code := s.draft.code
        let declared := s.scope.entries.map declaredRecord
        let saveTo (path : String) : Plan :=
          save path code (told s.log (declared ++ [writingRecord path code]))
        match destination with
        | .output => .finish ⟨0, code, told s.log declared⟩
        | .file path => saveTo path
        | .default => saveTo (defaultPath path s.target)

/-- The plan to check a source, that is, to compile it and throw the code away. -/
def checkPlan (verbosity : Log.Verbosity) (path : String) : Plan :=
  withSource path fun source =>
    let told (events : List Event) (more : List Log.Record) : String :=
      Log.shown verbosity (events.map Event.record ++ more)
    match compileLogged source defaultWidth with
    | (.ok code, log) =>
      .finish ⟨0, s!"OK: {path}\n", told log [generatedRecord .python code]⟩
    | (.error error, log) => .finish ⟨1, "", told log [] ++ error.render source path⟩

/-- The plan to list the tokens of a source. -/
def tokensPlan (verbosity : Log.Verbosity) (path : String) : Plan :=
  withSource path fun source =>
    let (tokens, error?) := (Lexer.start source).readAll
    let told := Log.shown verbosity ((tokens.filterMap Event.ofToken?).map Event.record)
    match error? with
    | none => .finish ⟨0, Token.listing tokens, told⟩
    | some error => .finish ⟨1, "", told ++ error.render source path⟩

/-- The plan of a command. -/
def Command.plan (verbosity : Log.Verbosity) : Command → Plan
  | .compile source destination width => compilePlan verbosity source destination width
  | .check source => checkPlan verbosity source
  | .tokens source => tokensPlan verbosity source

/-- How the program is called. -/
def usage : String :=
  s!"Usage: {programName} [-v] compile FILE [-o OUTPUT | --stdout] [--indent N]\n"
    ++ s!"       {programName} [-v] check FILE\n"
    ++ s!"       {programName} [-v] tokens FILE\n"

/-- The plan for arguments. Arguments that are not understood are answered with exit code two. -/
def planFor (arguments : List String) : Plan :=
  match Request.ofArguments? arguments with
  | none => .finish ⟨2, "", usage⟩
  | some .version => .finish ⟨0, s!"{programName} {programVersion}\n", ""⟩
  | some (.run verbosity command) => command.plan verbosity

end Offside.CommandLine
