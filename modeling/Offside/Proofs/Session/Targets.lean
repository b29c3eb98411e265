import Mathlib
import Offside.Proofs.Session.Balance
import Offside.Proofs.Session.Lockstep

/-!
# What does not depend on the target

The same source can be compiled to different targets, and with different
margins. The two sessions then write different code, but nothing of it is looked
at again: the header and the body of a draft are only added to, and what a
target spells and how wide a level is go nowhere else. So the sessions stay in
parallel, whatever has been written so far and in which way the calls before
have ended. They accept the same sources, and tell the same errors.
-/

namespace Offside

namespace Session

variable {s t : Session}

/-- The sessions are in the same state but for their targets, and for the code and what is told of
it. -/
structure Parallel (s t : Session) : Prop where
  /-- The window, the names declared so far, and whether statements belong to a function. -/
  outlook : t.toOutlook = s.toOutlook
  lexer : t.lexer = s.lexer
  statements : t.statements = s.statements
  depth : t.draft.depth = s.draft.depth
  lineOpen : t.draft.lineOpen = s.draft.lineOpen

namespace Parallel

theorem shift (parallel : s.Parallel t) : s.shift.Both Parallel t.shift := by
  obtain ⟨outlook, lexer, statements, depth, lineOpen⟩ := parallel
  unfold Session.shift
  rw [lexer]
  split
  · exact .halted ⟨outlook, rfl, statements, depth, lineOpen⟩
  · refine .done ⟨?_, rfl, statements, depth, lineOpen⟩
    rw [outlook]

theorem declare (parallel : s.Parallel t) (name : String) (kind : NameKind) :
    (s.declare name kind).Parallel (t.declare name kind) := by
  obtain ⟨outlook, lexer, statements, depth, lineOpen⟩ := parallel
  unfold Session.declare
  rw [outlook]
  split
  · exact ⟨congrArg (fun o => { o with scope := s.scope.declare name kind }) outlook, lexer,
      statements, depth, lineOpen⟩
  · split
    · exact ⟨outlook, lexer, statements, depth, lineOpen⟩
    · exact ⟨outlook, lexer, statements, depth, lineOpen⟩

theorem write (parallel : s.Parallel t) (piece piece' : String) :
    (s.write piece).Parallel (t.write piece') where
  outlook := parallel.outlook
  lexer := parallel.lexer
  statements := parallel.statements
  depth := by
    show (t.draft.write piece').depth = (s.draft.write piece).depth
    rw [Draft.depth_write, Draft.depth_write, parallel.depth]
  lineOpen := by
    show (t.draft.write piece').lineOpen = (s.draft.write piece).lineOpen
    rw [Draft.lineOpen_write, Draft.lineOpen_write]

theorem writeLine (parallel : s.Parallel t) (piece piece' : String) :
    (s.writeLine piece).Parallel (t.writeLine piece') :=
  ⟨parallel.outlook, parallel.lexer, parallel.statements, (parallel.write piece piece').depth, rfl⟩

theorem silent (parallel : s.Parallel t) {symbol : Symbol} (silent : symbol.isSilent = true) :
    (s.step symbol).Both Parallel (t.step symbol) := by
  have ⟨outlook, lexer, statements, depth, lineOpen⟩ := parallel
  cases symbol with
  | expect terminal => cases silent
  | declare role => cases silent
  | phrase phrase => cases silent
  | write | writeText => exact .proceed (parallel.write _ _)
  | writeLine | endLine => exact .proceed (parallel.writeLine _ _)
  | indent => exact .proceed ⟨outlook, lexer, statements, congrArg (· + 1) depth, lineOpen⟩
  | dedent => exact .proceed ⟨outlook, lexer, statements, congrArg (· - 1) depth, lineOpen⟩
  | setInFunction inFunction =>
    exact .proceed ⟨congrArg (fun o => { o with inFunction }) outlook, lexer, statements, depth,
      lineOpen⟩
  | countStatement =>
    exact .proceed ⟨outlook, lexer, congrArg (· + 1) statements, depth, lineOpen⟩
  | noteBlock | noteVariableCall =>
    exact .proceed ⟨outlook, lexer, statements, depth, lineOpen⟩

theorem writePreamble (parallel : s.Parallel t) : s.writePreamble.Parallel t.writePreamble := by
  obtain ⟨depth, -, lineOpen⟩ := s.draft_writePreamble
  obtain ⟨depth', -, lineOpen'⟩ := t.draft_writePreamble
  exact ⟨parallel.outlook, parallel.lexer, parallel.statements,
    depth'.trans (parallel.depth.trans depth.symm),
    lineOpen'.trans (parallel.lineOpen.trans lineOpen.symm)⟩

end Parallel

theorem bisimulation_parallel : Bisimulation Parallel where
  outlook parallel := parallel.outlook
  shift parallel := parallel.shift
  declare parallel := parallel.declare
  copy parallel := parallel.write _ _
  silent parallel _ silent := parallel.silent silent
  writePreamble parallel := parallel.writePreamble
  noteFinished parallel :=
    ⟨parallel.outlook, parallel.lexer, parallel.statements, parallel.depth, parallel.lineOpen⟩

end Session

/-- Whatever the targets and the widths of a level, two sessions on one source both begin or fail to
with the same error, each call ends in the same way and with the same error for both, and they are
in the same state before and after it but for the code that they have written. -/
theorem sessions_parallel (source : String) (width width' : Nat) (target target' : Target) :
    match Session.start source width target, Session.start source width' target' with
    | .error (error, log), .error (error', log') => error' = error ∧ log' = log
    | .ok first, .ok first' => ∀ calls,
      (first.afterCalls calls).Parallel (first'.afterCalls calls) ∧
        (first.afterCalls calls).program.Both Session.Parallel (first'.afterCalls calls).program
    | _, _ => False := by
  unfold Session.start
  cases (Lexer.start source).next with
  | mk answer lexer =>
    cases answer with
    | error error => exact ⟨rfl, rfl⟩
    | ok current =>
      dsimp only
      cases lexer.next with
      | mk answer' lexer' =>
        cases answer' with
        | error error => exact ⟨rfl, rfl⟩
        | ok lookahead =>
          intro calls
          refine ⟨Session.bisimulation_parallel.afterCalls ?begun calls,
            Session.bisimulation_parallel.program
              (Session.bisimulation_parallel.afterCalls ?begun calls)⟩
          exact ⟨rfl, rfl, rfl, rfl, rfl⟩

end Offside
