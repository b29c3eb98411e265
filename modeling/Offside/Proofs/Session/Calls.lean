import Offside.Proofs.Session.Accepts

/-!
# Sessions that are called again

A session can be told to compile its program any number of times, also when a
call before has ended with an error: it goes on from where that call has left
it. So what is to hold of all calls has to hold of a session in any state, and
is shown of the points that a run comes to.

A call that ends with an error leaves the session as it is at the point where
the error is found. Nothing has changed there but for two things: a token may
have been written that could not be taken, and a faulty word has been passed
over.
-/

namespace Offside

/-- The session that a run leaves behind. -/
def Outcome.session : Outcome → Session
  | .done s | .halted _ s => s

namespace Session

variable {s mid s' : Session} {symbol : Symbol} {symbols symbols' : List Symbol} {error : Error}

/-- The session after a number of calls, each of them with or without an error. -/
def afterCalls (s : Session) : Nat → Session
  | 0 => s
  | calls + 1 => (s.afterCalls calls).program.session

theorem afterCalls_add (s : Session) (calls further : Nat) :
    s.afterCalls (calls + further) = (s.afterCalls calls).afterCalls further := by
  induction further with
  | zero => rfl
  | succ further ih => exact congrArg (fun s => s.program.session) ih

/-! ## Points of a run -/

/-- A run comes to this session with these symbols still to come. -/
inductive ComesTo : Session → List Symbol → Session → List Symbol → Prop where
  | here (s : Session) (symbols : List Symbol) : ComesTo s symbols s symbols
  | step {s mid s' : Session} {symbol : Symbol} {more rest symbols : List Symbol}
      (stepped : s.step symbol = .proceed more mid)
      (comes : ComesTo mid (more ++ rest) s' symbols) : ComesTo s (symbol :: rest) s' symbols

/-- The point of a run after a number of steps, if the run goes on for as long. -/
def pointAfter (s : Session) (symbols : List Symbol) : Nat → Option (Session × List Symbol)
  | 0 => some (s, symbols)
  | steps + 1 =>
    match symbols with
    | [] => none
    | symbol :: rest =>
      match s.step symbol with
      | .proceed more mid => mid.pointAfter (more ++ rest) steps
      | .halt _ _ => none

/-- A run comes to its points, and to nothing else. -/
theorem comesTo_iff : ComesTo s symbols s' symbols' ↔
    ∃ steps, s.pointAfter symbols steps = some (s', symbols') := by
  constructor
  · intro comes
    induction comes with
    | here s symbols => exact ⟨0, rfl⟩
    | step stepped comes ih =>
      obtain ⟨steps, point⟩ := ih
      refine ⟨steps + 1, ?_⟩
      rw [pointAfter, stepped]
      exact point
  · rintro ⟨steps, point⟩
    induction steps generalizing s symbols with
    | zero =>
      cases point
      exact .here _ _
    | succ steps ih =>
      unfold pointAfter at point
      split at point
      · cases point
      · split at point
        · next more mid stepped => exact .step stepped (ih point)
        · cases point

/-- From each of its points on a run is the run of the symbols that are still to come there. -/
theorem ComesTo.run_eq (comes : ComesTo s symbols s' symbols') :
    s.run symbols = s'.run symbols' := by
  induction comes with
  | here s symbols => rfl
  | step stepped comes ih => rw [run_cons_of_proceed stepped, ih]

theorem ComesTo.reaches (comes : ComesTo s symbols s' symbols') :
    ∃ leaves, Reaches s symbols leaves s' symbols' := by
  induction comes with
  | here s symbols => exact ⟨[], .here s symbols⟩
  | step stepped comes ih =>
    obtain ⟨leaves, moves⟩ := moves_of_step stepped
    obtain ⟨leaves', reaches⟩ := ih
    exact ⟨leaves ++ leaves', .move moves reaches⟩

/-! ## Where a run stops -/

/-- A session in which a step has found an error. -/
structure Stops (s : Session) (error : Error) (s' : Session) : Prop where
  current : s'.current = s.current
  lookahead : s'.lookahead = s.lookahead
  scope : s'.scope = s.scope
  inFunction : s'.inFunction = s.inFunction
  depth : s'.draft.depth = s.draft.depth
  lexer : s'.lexer = s.lexer ∨ s.lexer.next = (.error error, s'.lexer)

theorem stops_of_shift (h : s.shift = .halted error s') : s.Stops error s' := by
  unfold shift at h
  split at h
  · next answer =>
    cases h
    exact ⟨rfl, rfl, rfl, rfl, rfl, .inr answer⟩
  · cases h

theorem stops_of_refuse (fault : GrammarFault)
    (h : (s.refuse fault).before [] = .halt error s') : s.Stops error s' := by
  cases h
  exact ⟨rfl, rfl, rfl, rfl, rfl, .inl rfl⟩

theorem stops_of_step (h : s.step symbol = .halt error s') : s.Stops error s' := by
  cases symbol with
  | expect terminal =>
    simp only [step, expect] at h
    split at h
    · exact stops_of_shift (halt_of_before h)
    · exact stops_of_refuse _ h
  | declare role =>
    simp only [step, expectName] at h
    split at h
    · split at h
      · cases h
      · next shifted =>
        cases h
        exact stops_of_shift shifted
    · exact stops_of_refuse _ h
  | phrase phrase =>
    simp only [step] at h
    cases predicted : s.predict phrase with
    | derive symbols =>
      rw [predicted] at h
      cases h
    | take symbols =>
      rw [predicted] at h
      exact stops_of_shift (halt_of_before h)
    | copy symbols =>
      rw [predicted] at h
      -- The token has been written by now, which changes neither the window nor the depth.
      have stops := stops_of_shift (halt_of_before h)
      exact ⟨stops.current, stops.lookahead, stops.scope, stops.inFunction,
        stops.depth.trans (s.draft.depth_write _), stops.lexer⟩
    | refuse fault =>
      rw [predicted] at h
      exact stops_of_refuse fault h
  | _ => cases h

end Session

end Offside
