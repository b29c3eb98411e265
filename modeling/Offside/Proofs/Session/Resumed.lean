import Mathlib
import Offside.Proofs.Lexing.Faulty
import Offside.Proofs.Session.Lockstep

/-!
# Calls after an error

A call that has ended with an error does not keep the next one from ending
without any. It leaves the session at the token that was refused, or at the two
tokens before a faulty word, and the next call takes what it finds there for a
program of its own: with the names declared by then, and in the body of a
function if the error was found in one. So what the session has before it tells
whether a call ends without an error, and an error is final if it leaves the
session at a token with which no program begins.

What a session has before it need not be what any lexer delivers from one place
of the source: behind a faulty word the window still shows the two tokens before
it. But a session does not look at its lexer, it only asks it for the next
token. So the lexer may be replaced by another one that goes on in the same way,
and there is one, with blanks in the place of the faulty word, from which the
window is delivered.
-/

namespace Offside

/-! ## Sessions whose lexers go on in the same way -/

/-- The sessions differ at most in their lexers, and these go on in the same way. -/
def Session.Alike (s t : Session) : Prop :=
  ∃ lexer : Lexer, t = { s with lexer } ∧ lexer.next = s.lexer.next

namespace Session

variable {s t u : Session}

theorem Alike.refl (s : Session) : s.Alike s := ⟨s.lexer, rfl, rfl⟩

theorem Alike.trans (alike : s.Alike t) (alike' : t.Alike u) : s.Alike u := by
  obtain ⟨lexer, rfl, same⟩ := alike
  obtain ⟨lexer', rfl, same'⟩ := alike'
  exact ⟨lexer', rfl, same'.trans same⟩

theorem Alike.toOutlook (alike : s.Alike t) : t.toOutlook = s.toOutlook := by
  obtain ⟨lexer, rfl, -⟩ := alike
  rfl

theorem Alike.shift (alike : s.Alike t) : s.shift.Both Alike t.shift := by
  obtain ⟨lexer, rfl, same⟩ := alike
  unfold Session.shift
  simp only [same]
  split
  · exact .halted (.refl _)
  · exact .done (.refl _)

theorem Alike.declare (alike : s.Alike t) (name : String) (kind : NameKind) :
    (s.declare name kind).Alike (t.declare name kind) := by
  obtain ⟨lexer, rfl, same⟩ := alike
  unfold Session.declare
  dsimp only
  split
  · exact ⟨lexer, rfl, same⟩
  · split <;> exact ⟨lexer, rfl, same⟩

theorem Alike.silent (alike : s.Alike t) {symbol : Symbol} (silent : symbol.isSilent = true) :
    (s.step symbol).Both Alike (t.step symbol) := by
  obtain ⟨lexer, rfl, same⟩ := alike
  cases symbol with
  | expect terminal => cases silent
  | declare role => cases silent
  | phrase phrase => cases silent
  | _ => exact .proceed ⟨lexer, rfl, same⟩

theorem bisimulation_alike : Bisimulation Alike where
  outlook alike := alike.toOutlook
  shift alike := alike.shift
  declare alike := alike.declare
  copy := by
    rintro s _ ⟨lexer, rfl, same⟩
    exact ⟨lexer, rfl, same⟩
  silent alike _ silent := alike.silent silent
  writePreamble := by
    rintro s _ ⟨lexer, rfl, same⟩
    exact ⟨lexer, rfl, same⟩
  noteFinished := by
    rintro s _ ⟨lexer, rfl, same⟩
    exact ⟨lexer, rfl, same⟩

theorem Alike.program (alike : s.Alike t) : s.program.Both Alike t.program :=
  bisimulation_alike.program alike

/-! ## The window of a session that goes on -/

/-- The tokens that a session has before it, and the error that keeps it from the last one: those of
its window, and what its lexer delivers behind them. -/
def ahead (s : Session) : List Token × Option Error :=
  if s.current.kind = .endOfInput then ([s.current], none)
  else if s.lookahead.kind = .endOfInput then ([s.current, s.lookahead], none)
  else (s.current :: s.lookahead :: s.lexer.readAll.1, s.lexer.readAll.2)

/-- But for the way in which its lexer has come to where it is, the window is delivered from some
place. -/
def Placed (s : Session) : Prop := ∃ (t : Session) (lexer : Lexer), s.Alike t ∧ t.At lexer

variable {s' : Session} {lexer : Lexer} {error : Error}

theorem At.readAll_eq (at_ : s.At lexer) : lexer.readAll = s.ahead := by
  obtain ⟨mid, answer, answer'⟩ := at_
  unfold ahead
  split
  · next last => exact Lexer.readAll_of_last answer last
  · next more =>
    rw [Lexer.readAll_of_more answer more]
    split
    · next last => rw [Lexer.readAll_of_last answer' last]
    · next more' => rw [Lexer.readAll_of_more answer' more']

theorem Alike.ahead (alike : s.Alike t) : s.ahead = t.ahead := by
  obtain ⟨lexer, rfl, same⟩ := alike
  unfold Session.ahead
  dsimp only
  rw [Lexer.readAll_of_next_eq same]

/-- An error leaves the window in a place: what has been passed over might have been blanks. -/
theorem placed_of_stops (at_ : s.At lexer) (stops : s.Stops error s') : s'.Placed := by
  rcases stops.lexer with same | faulty
  · obtain ⟨mid, first, second⟩ := at_
    refine ⟨s', lexer, .refl s', mid, ?_, ?_⟩
    · rw [stops.current]
      exact first
    · rw [stops.lookahead, same]
      exact second
  · obtain ⟨more, more'⟩ := at_.more_of_faulty faulty
    obtain ⟨mid, first, second⟩ := at_
    have further := @Lexer.position_lt_next s.lexer (by rw [faulty]; nofun)
    rw [faulty] at further
    obtain ⟨text, blanks⟩ := Lexer.exists_blanks further
    -- The tokens of the window end where they did, the second one at the first of the blanks.
    obtain ⟨mid', second', here, head⟩ := @Lexer.exists_next _ _ ⟨' ' :: text, s.lexer.position⟩ _
      second more' (Word.stopsAt_blank _ text) rfl
    have stopsAt : StopsAt s.current.word.goesOn mid'.rest := by
      obtain ⟨gap, rest, split, reads⟩ := Lexer.exists_split first more
      exact fun c is => reads.stopsAt c (head ▸ is)
    obtain ⟨lexer', first', -, -⟩ := Lexer.exists_next first more stopsAt here
    refine ⟨{ s' with lexer := ⟨' ' :: text, s.lexer.position⟩ }, lexer', ⟨_, rfl, blanks⟩,
      mid', ?_, ?_⟩
    · rw [show s'.current = s.current from stops.current]
      exact first'
    · rw [show s'.lookahead = s.lookahead from stops.lookahead]
      exact second'

theorem placed_of_at (at_ : s.At lexer) : s.program.session.Placed := by
  cases ended : s.program with
  | done s' =>
    unfold Session.program at ended
    split at ended
    · next mid done =>
      cases ended
      obtain ⟨leaves, reaches⟩ := reaches_of_run_done done
      obtain ⟨-, behind, -, at_', -⟩ := reaches.place at_
      exact ⟨_, behind, .refl _, at_'⟩
    · cases ended
  | halted error s' =>
    obtain ⟨leaves, mid, symbol, rest, reaches, stepped⟩ := reaches_of_program_halted ended
    obtain ⟨-, behind, -, at_', -⟩ := reaches.place at_
    exact placed_of_stops at_' (stops_of_step stepped)

/-- Every call leaves the window in a place. -/
theorem Placed.program (placed : s.Placed) : s.program.session.Placed := by
  obtain ⟨t, lexer, alike, at_⟩ := placed
  obtain ⟨t', lexer', alike', at_'⟩ := placed_of_at at_
  exact ⟨t', lexer', alike.program.session.trans alike', at_'⟩

theorem Placed.afterCalls (placed : s.Placed) (calls : Nat) : (s.afterCalls calls).Placed := by
  induction calls with
  | zero => exact placed
  | succ calls ih => exact ih.program

theorem Placed.writePreamble (placed : s.Placed) : s.writePreamble.Placed := by
  obtain ⟨t, lexer, alike, at_⟩ := placed
  exact ⟨t.writePreamble, lexer, bisimulation_alike.writePreamble alike, at_⟩

/-- And so does every step within a call. -/
theorem Placed.comesTo (placed : s.Placed) {symbols symbols' : List Symbol}
    (comes : s.ComesTo symbols s' symbols') : s'.Placed := by
  obtain ⟨t, lexer, alike, at_⟩ := placed
  obtain ⟨t', comes', alike'⟩ := bisimulation_alike.comesTo alike comes
  obtain ⟨leaves, reaches⟩ := comes'.reaches
  obtain ⟨-, behind, -, at_', -⟩ := reaches.place at_
  exact ⟨t', behind, alike', at_'⟩

/-! ## One call -/

/-- What the session has before it is a program that can be compiled here. -/
def HoldsProgram (s : Session) : Prop :=
  ∃ tokens, s.ahead = (tokens, none) ∧ ∃ program : Tree .program, program.Spells tokens ∧
    Resolved s.scope program.leaves ∧ program.ReturnsBelong s.inFunction

theorem At.done_iff_holdsProgram (at_ : s.At lexer) :
    (∃ s', s.program = .done s') ↔ s.HoldsProgram := by
  constructor
  · intro ends
    obtain ⟨s', done⟩ := ends
    obtain ⟨tokens, read, program, spells, resolved, belongs, -⟩ := spells_of_done at_ done
    exact ⟨tokens, at_.readAll_eq.symm.trans read, program, spells, resolved, belongs⟩
  · intro holds
    obtain ⟨tokens, read, program, spells, resolved, belongs⟩ := holds
    exact done_of_spells at_ (at_.readAll_eq.trans read) spells resolved belongs

theorem Placed.done_iff_holdsProgram (placed : s.Placed) :
    (∃ s', s.program = .done s') ↔ s.HoldsProgram := by
  obtain ⟨t, lexer, alike, at_⟩ := placed
  rw [alike.program.done_iff, at_.done_iff_holdsProgram, HoldsProgram, HoldsProgram, alike.ahead,
    alike.toOutlook]

/-- An error of the grammar leaves the session at the token that it is about. -/
theorem Placed.span_eq (placed : s.Placed) {fault : GrammarFault} {span : Span}
    (halted : s.program = .halted (.grammatical fault span) s') : s'.current.span = span := by
  obtain ⟨t, lexer, alike, at_⟩ := placed
  have ends := alike.program
  rw [halted] at ends
  generalize halted' : t.program = outcome at ends
  cases ends with
  | @halted _ t' _ alike' =>
    rw [← show t'.current.span = s'.current.span by rw [alike'.toOutlook]]
    obtain ⟨leaves, mid, symbol, rest, reaches, stepped⟩ := reaches_of_program_halted halted'
    obtain ⟨-, behind, -, at_', -⟩ := reaches.place at_
    rcases refuses_or_takes_of_step stepped with ⟨rfl, -, _, error⟩ | ⟨leaf, more, work, -, faulty⟩
    · exact (Error.grammatical.inj error).2.symm
    · obtain ⟨_, _, lexical⟩ := Lexer.lexical_of_readAll (congrArg Prod.snd (faulty behind at_'))
      cases lexical

end Session

/-! ## Errors that are final -/

/-- Whether a program may begin with the token at hand. -/
def Outlook.beginsProgram (o : Outlook) : Bool :=
  match o.current.kind with
  | .newline | .endOfInput => true
  | .keyword .return => o.inFunction
  | kind => kind.beginsCommand

theorem Outlook.refuses_of_not_beginsProgram {o : Outlook} (no : o.beginsProgram = false) :
    ∃ fault, o.statement = .refuse fault := by
  unfold statement
  unfold beginsProgram at no
  split <;> simp_all [Token.Kind.beginsCommand]

namespace Session

variable {s s' : Session} {error : Error}

/-- A token with which no program begins is refused, and stays where it is. -/
theorem program_of_not_beginsProgram (no : s.beginsProgram = false) :
    ∃ error, s.program = .halted error s.writePreamble := by
  obtain ⟨fault, refused⟩ := Outlook.refuses_of_not_beginsProgram no
  have newline : s.current.kind ≠ .newline := by
    intro is
    simp [Outlook.beginsProgram, is] at no
  have last : s.current.kind ≠ .endOfInput := by
    intro is
    simp [Outlook.beginsProgram, is] at no
  have first : s.writePreamble.step (.phrase .blankLines) = .proceed [] s.writePreamble :=
    congrArg (follow _) (if_neg newline)
  have second : s.writePreamble.step (.phrase .statements) =
      .halt (.grammatical fault s.current.span) s.writePreamble := by
    have predicted : s.predict .statements = .refuse fault := by
      simp only [Outlook.predict, if_neg last, Outlook.wholeStatement, refused,
        Prediction.followedBy]
    exact congrArg (follow s.writePreamble) predicted
  refine ⟨.grammatical fault s.current.span, ?_⟩
  rw [Session.program, run_cons_of_proceed first, List.nil_append, run_cons_of_halt second]

theorem not_beginsProgram_afterCalls (no : s.beginsProgram = false) (calls : Nat) :
    (s.afterCalls calls).beginsProgram = false := by
  induction calls with
  | zero => exact no
  | succ calls ih =>
    obtain ⟨error, halted⟩ := program_of_not_beginsProgram ih
    rw [afterCalls, halted]
    exact ih

end Session

/-- What is evaluated behind a first call that ends with an error. -/
theorem exists_halted {source : String} {width : Nat} {target : Target} {α : Type}
    {behind : Error → Session → Option α} {value : α}
    (evaluated : (match Session.start source width target with
      | .error _ => none
      | .ok first => match first.program with
        | .done _ => none
        | .halted error s => behind error s) = some value) :
    ∃ first error s, Session.start source width target = .ok first ∧
      first.program = .halted error s ∧ behind error s = some value := by
  split at evaluated
  · cases evaluated
  · next first started =>
    split at evaluated
    · cases evaluated
    · next error s halted => exact ⟨first, error, s, started, halted, evaluated⟩

/-- What is evaluated behind a first call that ends without an error. -/
theorem exists_done {source : String} {width : Nat} {target : Target} {α : Type}
    {behind : Session → Option α} {value : α}
    (evaluated : (match Session.start source width target with
      | .error _ => none
      | .ok first => match first.program with
        | .done s => behind s
        | .halted _ _ => none) = some value) :
    ∃ first s, Session.start source width target = .ok first ∧
      first.program = .done s ∧ behind s = some value := by
  split at evaluated
  · cases evaluated
  · next first started =>
    split at evaluated
    · next s done => exact ⟨first, s, started, done, evaluated⟩
    · cases evaluated

/-- What is evaluated behind a second call that ends without an error. -/
theorem exists_done_again {source : String} {width : Nat} {target : Target} {α : Type}
    {behind : Session → Option α} {value : α}
    (evaluated : (match Session.start source width target with
      | .error _ => none
      | .ok first => match first.program with
        | .done _ => none
        | .halted _ s => match s.program with
          | .done s' => behind s'
          | .halted _ _ => none) = some value) :
    ∃ first error s s', Session.start source width target = .ok first ∧
      first.program = .halted error s ∧ s.program = .done s' ∧ behind s' = some value := by
  obtain ⟨first, error, s, started, halted, again⟩ := exists_halted evaluated
  split at again
  · next s' done => exact ⟨first, error, s, s', started, halted, done, again⟩
  · cases again

/-- However many calls there have been, and with whatever errors: what the session has before it
tells whether the next call ends without an error. An error of the grammar leaves the session at the
token that it is about. And behind an error that leaves it at a token with which no program begins,
every call ends with an error. -/
theorem later_call_done_iff {source : String} {width : Nat} {target : Target} {first : Session}
    (started : Session.start source width target = .ok first) (calls : Nat) :
    ((∃ s', (first.afterCalls calls).program = .done s') ↔
      (first.afterCalls calls).HoldsProgram) ∧
    ∀ error s', (first.afterCalls calls).program = .halted error s' →
      (∀ fault span, error = .grammatical fault span → s'.current.span = span) ∧
      (s'.beginsProgram = false → ∀ later, calls ≤ later →
        ∃ error' s'', (first.afterCalls later).program = .halted error' s'') := by
  have at_ := (Session.start_eq_ok started).1
  have placed : (first.afterCalls calls).Placed :=
    Session.Placed.afterCalls ⟨_, _, .refl _, at_⟩ calls
  refine ⟨placed.done_iff_holdsProgram, fun error s' halted => ⟨fun fault span same => ?_,
    fun no later le => ?_⟩⟩
  · subst same
    exact placed.span_eq halted
  · obtain ⟨further, rfl⟩ := Nat.exists_eq_add_of_le le
    cases further with
    | zero => exact ⟨error, s', halted⟩
    | succ further =>
      have next : first.afterCalls (calls + 1) = s' := by
        rw [Session.afterCalls, halted]
        rfl
      rw [Nat.add_comm further, ← Nat.add_assoc, Session.afterCalls_add, next]
      obtain ⟨error', halted'⟩ := Session.program_of_not_beginsProgram
        (Session.not_beginsProgram_afterCalls no further)
      exact ⟨error', _, halted'⟩

/-- A character that belongs to no word is passed over by the call that finds it, and what is left
is a program. A word that begins no statement is found by every call. -/
theorem later_call_done_iff_passed :
    (∃ first error s, Session.start "PRINT 1 @\n" 4 .python = .ok first ∧
      first.program = .halted error s ∧ (first.afterCalls 1).HoldsProgram) ∧
    ∃ first, Session.start "THEN\n" 4 .python = .ok first ∧
      ∀ later, ∃ error s, (first.afterCalls later).program = .halted error s := by
  constructor
  · obtain ⟨first, error, s, started, halted, again⟩ := @exists_halted "PRINT 1 @\n" 4 .python _
      (fun _ s => match s.program with
        | .done s' => some s'.draft.code
        | .halted _ _ => none) "import sys\nimport sys\nprint(1)\n" (by cbv)
    split at again
    · next s' done =>
      refine ⟨first, error, s, started, halted, (later_call_done_iff started 1).1.1 ⟨s', ?_⟩⟩
      rw [Session.afterCalls, Session.afterCalls, halted]
      exact done
    · cases again
  · obtain ⟨first, error, s, started, halted, begins⟩ := @exists_halted "THEN\n" 4 .python _
      (fun _ s => some s.beginsProgram) false (by cbv)
    exact ⟨first, started, fun later => ((later_call_done_iff started 0).2 error s halted).2
      (Option.some.inj begins) later (Nat.zero_le later)⟩

/-- An open block keeps the first call from its end, but not the second one, which begins at the end
of the input. -/
theorem program_done_after_error : ∃ first s s',
    Session.start "WHILE 1 == 1 REPEAT\n" 4 .python = .ok first ∧
      first.program = .halted (.grammatical (.unmet (.blockEnd .loop)
        ⟨.endOfInput, "", ⟨21, 21⟩⟩) ⟨21, 21⟩) s ∧
      s.program = .done s' ∧ s'.draft.code = "import sys\nimport sys\nwhile 1==1:\n" := by
  obtain ⟨first, error, s, started, halted, again⟩ := @exists_halted "WHILE 1 == 1 REPEAT\n" 4
    .python _ (fun error s => match s.program with
      | .done s' => some (error, s'.draft.code)
      | .halted _ _ => none)
    (.grammatical (.unmet (.blockEnd .loop) ⟨.endOfInput, "", ⟨21, 21⟩⟩) ⟨21, 21⟩,
      "import sys\nimport sys\nwhile 1==1:\n") (by cbv)
  split at again
  · next s' done =>
    obtain ⟨rfl, code⟩ := Prod.mk.inj (Option.some.inj again)
    exact ⟨first, s, s', started, halted, done, code⟩
  · cases again

end Offside
