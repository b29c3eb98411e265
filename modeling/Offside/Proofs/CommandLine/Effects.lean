import Mathlib
import Offside.Proofs.CommandLine.Understood
import Offside.Proofs.Session.Monotone
import Offside.Proofs.Sink.Handover

/-!
# What a command does

A command reads its source, and all that can go wrong with the source goes wrong
before anything is written. So apart from its messages a command does one of two
things: it is carried out, or it ends with an exit code other than zero, prints
nothing and leaves the files as they are. `Command.effect` says which, and what
it is that a command does, in terms of compiling a source and writing a file; no
log enters into it. The plans have these effects however much is told.

The commands come to the code in different ways, and check a source with a width
of their own. But which sources are compiled depends on their tokens only, so the
commands agree.
-/

namespace Offside.CommandLine

variable {tree : FileTree} {file path source code : String} {width : Nat} {flags : Nat}

/-! ## Effects -/

/-- What a command does, but for its messages. -/
structure Effect where
  exitCode : Nat
  output : String
  files : FileTree

/-- A command that fails prints nothing and leaves the files as they are. -/
def Effect.failure (tree : FileTree) : Effect := ⟨1, "", tree⟩

/-- The effect of carrying out a plan. -/
def Plan.effect (plan : Plan) (tree : FileTree) : Effect :=
  ⟨(plan.carryOut tree).1.exitCode, (plan.carryOut tree).1.output, (plan.carryOut tree).2⟩

/-- What is printed when code has been written to a file. -/
def savedNote (path code : String) : String :=
  s!"Generated: {path} ({code.utf8ByteSize} bytes)\n"

/-- The effect of writing code to a file. -/
def saveEffect (path code : String) (tree : FileTree) : Effect :=
  match tree.write path code.toUTF8 with
  | .ok after => ⟨0, savedNote path code, after⟩
  | .error _ => .failure tree

/-- The effect of handing over the code for the source in a file. -/
def Destination.effect (file code : String) (tree : FileTree) : Destination → Effect
  | .output => ⟨0, code, tree⟩
  | .file path => saveEffect path code tree
  | .default => saveEffect (defaultPath file .python) code tree

/-- The effect of a command on a source that has been read. -/
def Command.effectOn (source : String) (tree : FileTree) : Command → Effect
  | .compile file destination width => match Offside.compile source width with
    | .ok code => destination.effect file code tree
    | .error _ => .failure tree
  | .check file => match Offside.compile source defaultWidth with
    | .ok _ => ⟨0, s!"OK: {file}\n", tree⟩
    | .error _ => .failure tree
  | .tokens _ => match Lexer.tokens source with
    | .ok listed => ⟨0, Token.listing listed, tree⟩
    | .error _ => .failure tree

/-- The file that holds the source of a command. -/
def Command.sourceFile : Command → String
  | .compile file _ _ | .check file | .tokens file => file

/-- The effect of a command. -/
def Command.effect (command : Command) (tree : FileTree) : Effect :=
  match tree.readText command.sourceFile with
  | .ok source => command.effectOn source tree
  | .error _ => .failure tree

/-! ## Plans have these effects -/

theorem effect_withSource (file : String) (next : String → Plan) (tree : FileTree) :
    (withSource file next).effect tree = match tree.readText file with
      | .ok source => (next source).effect tree
      | .error _ => .failure tree := by
  unfold withSource Plan.effect
  rw [Plan.carryOut]
  cases tree.readText file <;> rfl

theorem effect_save (path code messages : String) (tree : FileTree) :
    (save path code messages).effect tree = saveEffect path code tree := by
  unfold save saveEffect Plan.effect
  rw [Plan.carryOut]
  cases tree.write path code.toUTF8 <;> rfl

theorem effect_compilePlan (verbosity : Log.Verbosity) (file : String) (destination : Destination)
    (width : Nat) (tree : FileTree) :
    (compilePlan verbosity file destination width).effect tree =
      (Command.compile file destination width).effect tree := by
  refine (effect_withSource file _ tree).trans ?_
  unfold Command.effect Command.effectOn Command.sourceFile
  cases tree.readText file with
  | error fault => rfl
  | ok source =>
    dsimp only
    unfold compile compileLogged
    cases started : Session.start source width .python with
    | error failure => rfl
    | ok s =>
      have target := s.target_program
      rw [(Session.start_eq_ok started).2.2.2.2] at target
      dsimp only
      cases done : s.program with
      | halted error s' => rfl
      | done s' =>
        rw [done] at target
        change s'.target = .python at target
        cases destination with
        | output => rfl
        | file path => exact effect_save path _ _ tree
        | default =>
          dsimp only [Destination.effect]
          rw [target]
          exact effect_save _ _ _ tree

theorem effect_checkPlan (verbosity : Log.Verbosity) (file : String) (tree : FileTree) :
    (checkPlan verbosity file).effect tree = (Command.check file).effect tree := by
  refine (effect_withSource file _ tree).trans ?_
  unfold Command.effect Command.effectOn Command.sourceFile compile
  cases tree.readText file with
  | error fault => rfl
  | ok source =>
    dsimp only
    rcases compileLogged source defaultWidth with ⟨_ | code, log⟩ <;> rfl

theorem effect_tokensPlan (verbosity : Log.Verbosity) (file : String) (tree : FileTree) :
    (tokensPlan verbosity file).effect tree = (Command.tokens file).effect tree := by
  refine (effect_withSource file _ tree).trans ?_
  unfold Command.effect Command.effectOn Command.sourceFile Lexer.tokens
  cases tree.readText file with
  | error fault => rfl
  | ok source =>
    dsimp only
    rcases (Lexer.start source).readAll with ⟨tokens, _ | error⟩ <;> rfl

/-- How much is told makes no difference to what is done. -/
theorem effect_plan (verbosity : Log.Verbosity) (command : Command) (tree : FileTree) :
    (command.plan verbosity).effect tree = command.effect tree := by
  cases command with
  | compile file destination width => exact effect_compilePlan verbosity file destination width tree
  | check file => exact effect_checkPlan verbosity file tree
  | tokens file => exact effect_tokensPlan verbosity file tree

/-- The effect of arguments is known from the command that they ask for. -/
theorem effect_planFor (arguments : List String) (tree : FileTree) :
    (planFor arguments).effect tree =
      match (Request.ofArguments? arguments).map Request.command? with
      | none => ⟨2, "", tree⟩
      | some none => ⟨0, s!"{programName} {programVersion}\n", tree⟩
      | some (some command) => command.effect tree := by
  unfold planFor
  rcases Request.ofArguments? arguments with _ | _ | ⟨verbosity, command⟩
  · rfl
  · rfl
  · exact effect_plan verbosity command tree

theorem effect_planFor_of_eq {arguments : List String} {command : Command}
    (read : (Request.ofArguments? arguments).map Request.command? = some (some command)) :
    (planFor arguments).effect tree = command.effect tree := by
  rw [effect_planFor, read]

/-! ## All or nothing -/

/-- What the program does when it is called with these arguments, and with so many flags before and
behind them. -/
def called (before behind : Nat) (arguments : List String) (tree : FileTree) : Effect :=
  (planFor (withFlags before behind arguments)).effect tree

end Offside.CommandLine
