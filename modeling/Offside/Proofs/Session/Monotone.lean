import Mathlib
import Offside.Proofs.Lexing.Longest
import Offside.Proofs.Render.Code
import Offside.Proofs.Session.Balance
import Offside.Proofs.Session.Resumed

/-!
# What a session never takes back

A session is not undone when a run ends with an error: the next call goes on
with the names, with the half of a line and with the depth that the last one has
left. `Session.Continues` says what a run does to a session in any case. It
holds of every step, also of the one that finds an error, so it holds of runs
without a look at how they end.

A call that ends without an error ends at the end of the input. From there the
window does not move, and no phrase of a program writes anything, so every later
call does nothing but write the preamble once more.
-/

namespace Offside

/-- The lines of the preamble, written a number of times. -/
def Target.preambles (target : Target) (times : Nat) : String :=
  String.join ((List.replicate times target.preamble).flatten.map (· ++ "\n"))

theorem Target.preambles_succ (target : Target) (times : Nat) :
    target.preambles (times + 1) =
      target.preambles times ++ String.join (target.preamble.map (· ++ "\n")) := by
  simp [preambles, List.replicate_succ']

/-! ## Scopes -/

theorem Scope.entries_declare (scope : Scope) (name : String) (kind : NameKind) :
    scope.entries <+: (scope.declare name kind).entries := by
  unfold declare
  split
  · exact List.prefix_append _ _
  · exact List.prefix_refl _

/-- A name has the kind with which it has been declared first. -/
theorem Scope.kind?_of_prefix {scope scope' : Scope} (grown : scope.entries <+: scope'.entries)
    {name : String} {kind : NameKind} (known : scope.kind? name = some kind) :
    scope'.kind? name = some kind := by
  obtain ⟨added, whole⟩ := grown
  rw [kind?] at known
  rw [kind?, ← whole, List.lookup_append, known, Option.some_or]

/-! ## Steps and runs -/

/-- The session that a step leaves behind. -/
def Move.session : Move → Session
  | .proceed _ s | .halt _ s => s

@[simp] theorem Outcome.session_before (outcome : Outcome) (symbols : List Symbol) :
    (outcome.before symbols).session = outcome.session := by
  cases outcome <;> rfl

namespace Session

variable {s mid s' : Session}

/-- A session that goes before another one: nothing of what it has written to the body, declared or
read is taken back there. -/
structure Precedes (s s' : Session) : Prop where
  body : s'.draft.Extends s.draft.body
  scope : s.scope.entries <+: s'.scope.entries
  position : s.lexer.position ≤ s'.lexer.position

/-- A session that has gone on from another one within a call. -/
structure Continues (s s' : Session) : Prop extends s.Precedes s' where
  header : s'.draft.header = s.draft.header
  target : s'.target = s.target

theorem Precedes.refl (s : Session) : s.Precedes s where
  body := .refl s.draft
  scope := List.prefix_refl _
  position := Nat.le_refl _

theorem Precedes.trans (precedes : s.Precedes mid) (precedes' : mid.Precedes s') :
    s.Precedes s' where
  body := by
    obtain ⟨added, same⟩ := precedes.body
    obtain ⟨added', same'⟩ := precedes'.body
    exact ⟨added ++ added', by rw [same', same, String.append_assoc]⟩
  scope := precedes.scope.trans precedes'.scope
  position := Nat.le_trans precedes.position precedes'.position

namespace Continues

theorem refl (s : Session) : s.Continues s := ⟨.refl s, rfl, rfl⟩

theorem trans (continues_ : s.Continues mid) (continues' : mid.Continues s') : s.Continues s' where
  toPrecedes := continues_.toPrecedes.trans continues'.toPrecedes
  header := continues'.header.trans continues_.header
  target := continues'.target.trans continues_.target

theorem shift (s : Session) : s.Continues s.shift.session := by
  obtain ⟨passed, -, position⟩ := s.lexer.next_suffix
  unfold Session.shift
  split
  all_goals
    next answer =>
      rw [answer] at position
      exact ⟨⟨.refl s.draft, List.prefix_refl _, Nat.le.intro position.symm⟩, rfl, rfl⟩

theorem declare (s : Session) (name : String) (kind : NameKind) :
    s.Continues (s.declare name kind) := by
  obtain ⟨-, -, lexer, target, work, scope⟩ := s.declare_stays name kind
  have draft : (s.declare name kind).draft = s.draft := congrArg Work.draft work
  refine ⟨⟨?_, ?_, ?_⟩, ?_, target⟩
  · rw [draft]
    exact .refl s.draft
  · rw [scope]
    exact s.scope.entries_declare name kind
  · rw [lexer]
  · rw [draft]

theorem write (s : Session) (piece : String) : s.Continues (s.write piece) where
  body := (Draft.Extends.refl s.draft).write piece
  scope := List.prefix_refl _
  position := Nat.le_refl _
  header := by
    show (s.draft.write piece).header = s.draft.header
    unfold Draft.write
    split <;> rfl
  target := rfl

theorem writeLine (s : Session) (piece : String) : s.Continues (s.writeLine piece) :=
  ⟨⟨(Draft.Extends.refl s.draft).writeLine piece, List.prefix_refl _, Nat.le_refl _⟩,
    (write s piece).header, rfl⟩

/-- One step takes nothing back, whether it goes on or finds an error. -/
theorem step (s : Session) (symbol : Symbol) : s.Continues (s.step symbol).session := by
  cases symbol with
  | expect terminal =>
    simp only [Session.step, expect]
    split
    · rw [Outcome.session_before]
      exact shift s
    · exact refl s
  | declare role =>
    simp only [Session.step, expectName]
    split
    · have shifts := shift s
      split
      · next s' shifted =>
        rw [shifted] at shifts
        exact shifts.trans (declare s' _ _)
      · next error s' shifted =>
        rw [shifted] at shifts
        exact shifts
    · exact refl s
  | phrase phrase =>
    simp only [Session.step]
    cases s.predict phrase with
    | derive symbols => exact refl s
    | take symbols =>
      rw [follow, Outcome.session_before]
      exact shift s
    | copy symbols =>
      rw [follow, Outcome.session_before]
      exact (write s _).trans (shift _)
    | refuse fault => exact refl s
  | write fragment => exact write s _
  | writeText text => exact write s _
  | writeLine fragment => exact writeLine s _
  | endLine => exact writeLine s _
  | _ => exact ⟨⟨.refl s.draft, List.prefix_refl _, Nat.le_refl _⟩, rfl, rfl⟩

theorem run (s : Session) (symbols : List Symbol) : s.Continues (s.run symbols).session := by
  fun_induction Session.run s symbols with
  | case1 s => exact refl s
  | case2 s symbol rest error s' moved =>
    have steps := step s symbol
    rw [moved] at steps
    exact steps
  | case3 s symbol rest more s' moved _ ih =>
    have steps := step s symbol
    rw [moved] at steps
    exact steps.trans ih

/-- A call takes nothing back behind the preamble with which it begins. -/
theorem program (s : Session) : s.writePreamble.Continues s.program.session := by
  have runs := run s.writePreamble [.phrase .blankLines, .phrase .statements]
  unfold Session.program
  split
  all_goals
    next ended =>
      rw [ended] at runs
      exact ⟨⟨runs.body, runs.scope, runs.position⟩, runs.header, runs.target⟩

end Continues

/-! ## Calls -/

theorem precedes_program (s : Session) : s.Precedes s.program.session := by
  obtain ⟨⟨body, scope, position⟩, -, -⟩ := Continues.program s
  rw [s.draft_writePreamble.2.1] at body
  exact ⟨body, scope, position⟩

theorem target_program (s : Session) : s.program.session.target = s.target :=
  (Continues.program s).target

theorem header_program (s : Session) : s.program.session.draft.header =
    s.draft.header ++ String.join (s.target.preamble.map (· ++ "\n")) := by
  rw [(Continues.program s).header, writePreamble, writeHeader_foldl]

theorem precedes_afterCalls (s : Session) {calls later : Nat} (le : calls ≤ later) :
    (s.afterCalls calls).Precedes (s.afterCalls later) := by
  induction le with
  | refl => exact .refl _
  | step le ih => exact ih.trans (precedes_program _)

theorem target_afterCalls (s : Session) (calls : Nat) :
    (s.afterCalls calls).target = s.target := by
  induction calls with
  | zero => rfl
  | succ calls ih => exact (target_program _).trans ih

theorem header_afterCalls (s : Session) (calls : Nat) :
    (s.afterCalls calls).draft.header = s.draft.header ++ s.target.preambles calls := by
  induction calls with
  | zero => exact String.append_empty.symm
  | succ calls ih =>
    rw [afterCalls, header_program, ih, target_afterCalls, Target.preambles_succ,
      String.append_assoc]

/-! ## The end of a program -/

/-- The sessions differ at most in their headers and in what is told of them. -/
def Rests (s s' : Session) : Prop :=
  ∃ header log, s' = { s with draft := { s.draft with header }, log }

theorem Rests.refl (s : Session) : s.Rests s := ⟨s.draft.header, s.log, rfl⟩

theorem Rests.trans (rests : s.Rests mid) (rests' : mid.Rests s') : s.Rests s' := by
  obtain ⟨header, log, rfl⟩ := rests
  obtain ⟨header', log', rfl⟩ := rests'
  exact ⟨header', log', rfl⟩

theorem current_of_program_done (done : s.program = .done s') :
    s'.current.kind = .endOfInput := by
  unfold Session.program at done
  split at done
  · next mid ended =>
    cases done
    obtain ⟨leaves, reaches⟩ := reaches_of_run_done ended
    exact reaches.endOfInput
  · cases done

/-- At the end of the input there is nothing left to compile. -/
theorem program_of_last (last : s.current.kind = .endOfInput) :
    s.program = .done s.writePreamble.noteFinished := by
  have blank : s.writePreamble.step (.phrase .blankLines) = .proceed [] s.writePreamble :=
    congrArg (follow _) (if_neg (by show s.current.kind ≠ .newline; rw [last]; nofun))
  have statements : s.writePreamble.step (.phrase .statements) = .proceed [] s.writePreamble :=
    congrArg (follow _) (if_pos last)
  rw [Session.program, run_cons_of_proceed blank, List.nil_append,
    run_cons_of_proceed statements, List.nil_append, run_nil]

theorem rests_program (s : Session) : s.Rests s.writePreamble.noteFinished := by
  have header := writeHeader_foldl s.target.preamble s.draft
  exact ⟨s.writePreamble.draft.header, s.writePreamble.noteFinished.log, by
    rw [noteFinished, writePreamble, header]
    rfl⟩

/-- Behind a call that has ended without an error all calls do, and find the session as that one has
left it. -/
theorem rests_afterCalls (done : s.program = .done s') (further : Nat) :
    ∃ t, (s.afterCalls further).program = .done t ∧ s'.Rests t := by
  induction further with
  | zero => exact ⟨s', done, .refl s'⟩
  | succ further ih =>
    obtain ⟨t, done', rests⟩ := ih
    rw [afterCalls, done']
    exact ⟨_, program_of_last (current_of_program_done done'), rests.trans (rests_program t)⟩

end Session

/-- Calls only add to a session, in whichever way they end: its header is the preamble once for each
of them, its body and its names grow, no name changes its kind, and the lexer does not go back.
Behind a call that has ended without an error, every further call does so too, and changes nothing
but the header and what is told. -/
theorem calls_monotone {source : String} {width : Nat} {target : Target} {first : Session}
    (started : Session.start source width target = .ok first) (calls : Nat) :
    (first.afterCalls calls).draft.header = target.preambles calls ∧
    (∀ later, calls ≤ later → (first.afterCalls calls).Precedes (first.afterCalls later) ∧
      ∀ name kind, (first.afterCalls calls).scope.kind? name = some kind →
        (first.afterCalls later).scope.kind? name = some kind) ∧
    ∀ s', (first.afterCalls calls).program = .done s' → ∀ later, calls ≤ later →
      ∃ t, (first.afterCalls later).program = .done t ∧ s'.Rests t ∧
        t.draft.code = target.preambles (later + 1) ++ s'.draft.body := by
  obtain ⟨-, -, -, draft, same⟩ := Session.start_eq_ok started
  have header (calls : Nat) : (first.afterCalls calls).draft.header = target.preambles calls := by
    rw [first.header_afterCalls, draft, same, String.empty_append]
  refine ⟨header calls, fun later le => ?_, fun s' done later le => ?_⟩
  · have precedes := first.precedes_afterCalls le
    exact ⟨precedes, fun _ _ => Scope.kind?_of_prefix precedes.scope⟩
  · obtain ⟨further, rfl⟩ := Nat.exists_eq_add_of_le le
    obtain ⟨t, done', rests⟩ := Session.rests_afterCalls done further
    rw [← first.afterCalls_add] at done'
    refine ⟨t, done', rests, ?_⟩
    have header := header (calls + further + 1)
    rw [Session.afterCalls, done'] at header
    obtain ⟨_, log, rfl⟩ := rests
    exact congrArg (· ++ s'.draft.body) header

/-- The first of these calls ends with an error in the middle of a statement, and the second one
without any. All that comes behind it is the preamble. -/
theorem calls_monotone_passed : ∃ first error s s',
    Session.start "PRINT 1 @\n" 4 .python = .ok first ∧ first.program = .halted error s ∧
      s.program = .done s' ∧ ∀ later, 1 ≤ later → ∃ t,
        (first.afterCalls later).program = .done t ∧ s'.Rests t ∧
          t.draft.code = Target.python.preambles (later + 1) ++ "print(1)\n" := by
  obtain ⟨first, error, s, s', started, halted, done, body⟩ := @exists_done_again "PRINT 1 @\n" 4
    .python _ (fun s' => some s'.draft.body) "print(1)\n" (by cbv)
  have second : (first.afterCalls 1).program = .done s' := by
    rw [Session.afterCalls, Session.afterCalls, halted]
    exact done
  obtain ⟨-, -, rests⟩ := calls_monotone started 1
  rw [← Option.some.inj body]
  exact ⟨first, error, s, s', started, halted, done, rests s' second⟩

end Offside
