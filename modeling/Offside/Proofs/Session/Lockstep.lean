import Offside.Proofs.Session.Calls

/-!
# Two sessions in lockstep

What a step does is decided by the outlook of its session and by the next answer
of its lexer, and by nothing else. So two sessions that have the outlook in
common and are related in a way that moving the window, writing and telling
things do not undo take the same steps: a step puts the same symbols in front of
both, or ends both runs with the same error. `Session.Bisimulation` lists what
is asked of such a relation, symbol by symbol, and what follows for steps, runs
and calls is shown here once for all of them.
-/

namespace Offside

/-- Runs that end in the same way, and in sessions that are related. -/
inductive Outcome.Both (related : Session → Session → Prop) : Outcome → Outcome → Prop where
  | done {s t : Session} (h : related s t) : Both related (.done s) (.done t)
  | halted {s t : Session} {error : Error} (h : related s t) :
    Both related (.halted error s) (.halted error t)

/-- Steps that lead to the same symbols or to the same error, and to sessions that are related. -/
inductive Move.Both (related : Session → Session → Prop) : Move → Move → Prop where
  | proceed {s t : Session} {symbols : List Symbol} (h : related s t) :
    Both related (.proceed symbols s) (.proceed symbols t)
  | halt {s t : Session} {error : Error} (h : related s t) :
    Both related (.halt error s) (.halt error t)

section

variable {related : Session → Session → Prop} {o o' : Outcome}

theorem Outcome.Both.before (both : o.Both related o') (symbols : List Symbol) :
    (o.before symbols).Both related (o'.before symbols) := by
  cases both with
  | done h => exact .proceed h
  | halted h => exact .halt h

theorem Outcome.Both.session (both : o.Both related o') : related o.session o'.session := by
  cases both with
  | done h | halted h => exact h

theorem Outcome.Both.done_iff (both : o.Both related o') :
    (∃ s, o = .done s) ↔ ∃ s, o' = .done s := by
  cases both with
  | done h => exact ⟨fun _ => ⟨_, rfl⟩, fun _ => ⟨_, rfl⟩⟩
  | halted h =>
    constructor
    all_goals
      intro ends
      obtain ⟨s, ended⟩ := ends
      cases ended

end

namespace Session

/-- A relation between sessions that have the outlook in common, and that is undone by nothing that
happens in a step or between two runs. -/
structure Bisimulation (related : Session → Session → Prop) : Prop where
  outlook {s t : Session} (h : related s t) : t.toOutlook = s.toOutlook
  shift {s t : Session} (h : related s t) : s.shift.Both related t.shift
  declare {s t : Session} (h : related s t) (name : String) (kind : NameKind) :
    related (s.declare name kind) (t.declare name kind)
  copy {s t : Session} (h : related s t) :
    related (s.write s.currentText) (t.write t.currentText)
  silent {s t : Session} (h : related s t) {symbol : Symbol} (silent : symbol.isSilent = true) :
    (s.step symbol).Both related (t.step symbol)
  writePreamble {s t : Session} (h : related s t) : related s.writePreamble t.writePreamble
  noteFinished {s t : Session} (h : related s t) : related s.noteFinished t.noteFinished

namespace Bisimulation

variable {related : Session → Session → Prop} {s t : Session}

theorem refuse (bisimulation : Bisimulation related) (h : related s t) (fault : GrammarFault) :
    ((s.refuse fault).before []).Both related ((t.refuse fault).before []) := by
  have span : t.current.span = s.current.span := by rw [bisimulation.outlook h]
  show Move.Both related (.halt (.grammatical fault s.current.span) s)
    (.halt (.grammatical fault t.current.span) t)
  rw [span]
  exact .halt h

theorem step (bisimulation : Bisimulation related) (h : related s t) (symbol : Symbol) :
    (s.step symbol).Both related (t.step symbol) := by
  cases symbol with
  | expect terminal =>
    simp only [Session.step, expect, bisimulation.outlook h]
    split
    · exact (bisimulation.shift h).before []
    · exact bisimulation.refuse h _
  | declare role =>
    simp only [Session.step, expectName, bisimulation.outlook h]
    split
    · have shifts := bisimulation.shift h
      generalize s.shift = outcome, t.shift = outcome' at shifts ⊢
      cases shifts with
      | done h => exact .proceed (bisimulation.declare h _ _)
      | halted h => exact .halt h
    · exact bisimulation.refuse h _
  | phrase phrase =>
    simp only [Session.step, bisimulation.outlook h]
    cases s.predict phrase with
    | derive symbols => exact .proceed h
    | take symbols => exact (bisimulation.shift h).before symbols
    | copy symbols => exact (bisimulation.shift (bisimulation.copy h)).before symbols
    | refuse fault => exact bisimulation.refuse h fault
  | _ => exact bisimulation.silent h rfl

theorem run (bisimulation : Bisimulation related) (h : related s t) (symbols : List Symbol) :
    (s.run symbols).Both related (t.run symbols) := by
  fun_induction Session.run s symbols generalizing t with
  | case1 s =>
    rw [run_nil]
    exact .done h
  | case2 s symbol rest error s' moved =>
    have steps := bisimulation.step h symbol
    rw [moved] at steps
    generalize moved' : t.step symbol = move at steps
    cases steps with
    | halt h' =>
      rw [run_cons_of_halt moved']
      exact .halted h'
  | case3 s symbol rest more s' moved _ ih =>
    have steps := bisimulation.step h symbol
    rw [moved] at steps
    generalize moved' : t.step symbol = move at steps
    cases steps with
    | proceed h' =>
      rw [run_cons_of_proceed moved']
      exact ih h'

/-- What the one run comes to, the other comes to with the same symbols. -/
theorem comesTo {s' : Session} {symbols symbols' : List Symbol}
    (bisimulation : Bisimulation related) (h : related s t)
    (comes : s.ComesTo symbols s' symbols') :
    ∃ t', t.ComesTo symbols t' symbols' ∧ related s' t' := by
  induction comes generalizing t with
  | here s symbols => exact ⟨t, .here t symbols, h⟩
  | @step s mid s' symbol more rest symbols stepped comes ih =>
    have steps := bisimulation.step h symbol
    rw [stepped] at steps
    generalize stepped' : t.step symbol = move at steps
    cases steps with
    | proceed h' =>
      obtain ⟨t', comes', related'⟩ := ih h'
      exact ⟨t', .step stepped' comes', related'⟩

theorem program (bisimulation : Bisimulation related) (h : related s t) :
    s.program.Both related t.program := by
  have runs := bisimulation.run (bisimulation.writePreamble h)
    [.phrase .blankLines, .phrase .statements]
  unfold Session.program
  generalize s.writePreamble.run _ = outcome, t.writePreamble.run _ = outcome' at runs ⊢
  cases runs with
  | done h => exact .done (bisimulation.noteFinished h)
  | halted h => exact .halted h

theorem afterCalls (bisimulation : Bisimulation related) (h : related s t) (calls : Nat) :
    related (s.afterCalls calls) (t.afterCalls calls) := by
  induction calls with
  | zero => exact h
  | succ calls ih => exact (bisimulation.program ih).session

end Bisimulation

end Session

end Offside
