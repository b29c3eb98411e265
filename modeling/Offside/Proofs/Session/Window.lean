import Offside.Proofs.Lexing.Tokens
import Offside.Session.Program

/-!
# The window of a session

A session looks at two tokens, and its lexer stands behind the second of them.
`Session.At` goes back to the place before the first: from there the lexer
delivers the token at hand and then the one behind it. Moving the window on is
moving that place on by one token, and what is still to be read of the source
is what the lexer would deliver from it.
-/

namespace Offside.Session

/-- From this place the lexer delivers the two tokens of the window. -/
def At (s : Session) (lexer : Lexer) : Prop :=
  ∃ mid, lexer.next = (.ok s.current, mid) ∧ mid.next = (.ok s.lookahead, s.lexer)

variable {s s' : Session} {lexer : Lexer} {error : Error}

theorem At.proper (h : s.At lexer) : s.current.word.Proper := by
  obtain ⟨mid, next, -⟩ := h
  exact (Lexer.next_ok next).1

/-- What the window shows is what comes first in the source. -/
theorem At.readAll_eq_cons (h : s.At lexer) :
    ∃ behind, lexer.readAll.1 = s.current :: behind ∧
      (s.current.kind ≠ .endOfInput → ∃ further, behind = s.lookahead :: further) := by
  obtain ⟨mid, next, next'⟩ := h
  by_cases last : s.current.kind = .endOfInput
  · exact ⟨[], by rw [Lexer.readAll_of_last next last], fun more => absurd last more⟩
  · refine ⟨mid.readAll.1, by rw [Lexer.readAll_of_more next last], fun _ => ?_⟩
    by_cases last' : s.lookahead.kind = .endOfInput
    · exact ⟨[], by rw [Lexer.readAll_of_last next' last']⟩
    · exact ⟨s.lexer.readAll.1, by rw [Lexer.readAll_of_more next' last']⟩

/-! ## Moving the window -/

/-- Moving the window leaves everything else as it was. -/
theorem shift_done (h : s.shift = .done s') :
    s'.current = s.lookahead ∧ s'.scope = s.scope ∧ s'.inFunction = s.inFunction ∧
      s'.draft = s.draft ∧ s'.target = s.target ∧ s'.statements = s.statements := by
  unfold shift at h
  split at h
  · cases h
  · cases h
    exact ⟨rfl, rfl, rfl, rfl, rfl, rfl⟩

theorem At.shift_done (h : s.At lexer) (more : s.current.kind ≠ .endOfInput)
    (shifted : s.shift = .done s') :
    ∃ behind, lexer.Delivers [s.current] behind ∧ s'.At behind := by
  obtain ⟨mid, next, next'⟩ := h
  refine ⟨mid, ⟨mid, next, more, rfl⟩, ?_⟩
  unfold shift at shifted
  split at shifted
  · cases shifted
  · next token behind answer =>
    cases shifted
    exact ⟨s.lexer, next', answer⟩

/-- The end of the input is followed by itself, so it is not in the window if what follows is
faulty. -/
theorem At.more_of_faulty {behind : Lexer} (h : s.At lexer)
    (faulty : s.lexer.next = (.error error, behind)) :
    s.current.kind ≠ .endOfInput ∧ s.lookahead.kind ≠ .endOfInput := by
  obtain ⟨mid, next, next'⟩ := h
  have more' : s.lookahead.kind ≠ .endOfInput := by
    intro last
    have again := (Lexer.next_ok next').2 last
    rw [faulty] at again
    cases again
  refine ⟨fun last => ?_, more'⟩
  have again := (Lexer.next_ok next).2 last
  rw [next'] at again
  have same := Except.ok.inj (Prod.mk.inj again).1
  exact more' (by rw [same]; exact last)

/-- If the window cannot be moved, the token behind it is faulty, and the source ends with it. -/
theorem At.shift_halted (h : s.At lexer) (shifted : s.shift = .halted error s') :
    lexer.readAll = ([s.current, s.lookahead], some error) ∧
      s'.current = s.current ∧ s'.lookahead = s.lookahead := by
  unfold shift at shifted
  split at shifted
  · next error' behind answer =>
    cases shifted
    obtain ⟨more, more'⟩ := h.more_of_faulty answer
    obtain ⟨mid, next, next'⟩ := h
    rw [Lexer.readAll_of_more next more, Lexer.readAll_of_more next' more',
      Lexer.readAll_of_error answer]
    exact ⟨rfl, rfl, rfl⟩
  · cases shifted

/-! ## The beginning of a session -/

variable {source : String} {width : Nat} {target : Target}

/-- A session begins at the beginning of its source, with nothing declared and nothing written. -/
theorem start_eq_ok (h : start source width target = .ok s) :
    s.At (Lexer.start source) ∧ s.scope = .empty ∧ s.inFunction = false ∧
      s.draft = ⟨width, "", "", 0, false⟩ ∧ s.target = target := by
  unfold start at h
  split at h
  · cases h
  · next current mid answer =>
    split at h
    · cases h
    · next lookahead behind answer' =>
      cases h
      exact ⟨⟨mid, answer, answer'⟩, rfl, rfl, rfl, rfl⟩

/-- A session begins unless one of the first two tokens is faulty. -/
theorem start_eq_error {log : Array Event} (h : start source width target = .error (error, log)) :
    (Lexer.start source).readAll.2 = some error := by
  unfold start at h
  split at h
  · next answer =>
    cases h
    rw [Lexer.readAll_of_error answer]
  · next current mid answer =>
    split at h
    · next answer' =>
      cases h
      have more : current.kind ≠ .endOfInput := by
        intro last
        have again := (Lexer.next_ok answer).2 last
        rw [answer'] at again
        cases again
      rw [Lexer.readAll_of_more answer more, Lexer.readAll_of_error answer']
    · cases h

/-- On a source that has tokens a session begins. -/
theorem exists_start {tokens : List Token} (read : Lexer.tokens source = .ok tokens) (width : Nat)
    (target : Target) : ∃ s, start source width target = .ok s := by
  cases started : start source width target with
  | error failure =>
    obtain ⟨error, log⟩ := failure
    have faulty := start_eq_error started
    rw [Lexer.tokens_eq_ok_iff.1 read] at faulty
    cases faulty
  | ok s => exact ⟨s, rfl⟩

end Offside.Session
