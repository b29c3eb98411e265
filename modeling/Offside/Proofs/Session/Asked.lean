import Offside.Proofs.Session.Calls

/-!
# What is asked of the lexer

A step asks the lexer for a token if it takes the token at hand, and otherwise
the lexer has no part in it. The end of the input is never taken, so with the
end of the input at hand nothing is asked any more. Each token that is asked for
comes into the window behind the others, and what leaves the window at the front
is not the end of the input. So an end of the input that has been asked for
stays in the window, and there is room for two.
-/

namespace Offside

/-- The move, with another lexer in the session that it leads to. -/
def Move.withLexer (lexer : Lexer) : Move → Move
  | .proceed more s => .proceed more { s with lexer }
  | .halt error s => .halt error { s with lexer }

namespace Session

variable {s mid s' : Session} {symbol : Symbol} {symbols symbols' more rest : List Symbol}
  {error : Error}

/-- Whether dealing with the symbol asks the lexer for a token. -/
def asks (s : Session) : Symbol → Bool
  | .expect terminal => decide (s.current.kind = terminal.kind)
  | .declare _ => decide (s.current.kind = .identifier)
  | .phrase phrase => (s.predict phrase).takesToken
  | _ => false

theorem asks_iff : s.asks symbol = true ↔ ∃ leaf more work, s.Takes symbol leaf more work := by
  constructor
  · intro asks
    cases symbol with
    | expect terminal => exact ⟨_, _, _, .expect (of_decide_eq_true asks)⟩
    | declare role => exact ⟨_, _, _, .declare (of_decide_eq_true asks)⟩
    | phrase phrase =>
      rw [Session.asks] at asks
      cases predicted : s.predict phrase with
      | take symbols => exact ⟨_, _, _, .take predicted⟩
      | copy symbols => exact ⟨_, _, _, .copy predicted⟩
      | _ =>
        rw [predicted] at asks
        cases asks
    | _ => cases asks
  · rintro ⟨leaf, more, work, takes⟩
    cases takes with
    | expect met => exact decide_eq_true met
    | declare met => exact decide_eq_true met
    | take predicted | copy predicted =>
      rw [Session.asks, predicted]
      rfl

/-- With the end of the input at hand nothing is asked. -/
theorem asks_of_endOfInput (last : s.current.kind = .endOfInput) (symbol : Symbol) :
    s.asks symbol = false := by
  refine Bool.eq_false_iff.2 fun asks => ?_
  obtain ⟨leaf, more, work, takes⟩ := asks_iff.1 asks
  exact takes.kind_ne_endOfInput last

/-- A step that asks for nothing is the same with any lexer. -/
theorem step_withLexer (quiet : s.asks symbol = false) (lexer : Lexer) :
    Session.step { s with lexer } symbol = (s.step symbol).withLexer lexer := by
  cases symbol with
  | expect terminal =>
    have unmet := of_decide_eq_false quiet
    simp only [Session.step, expect, if_neg unmet]
    rfl
  | declare role =>
    have unmet := of_decide_eq_false quiet
    simp only [Session.step, expectName, if_neg unmet]
    rfl
  | phrase phrase =>
    rw [Session.asks] at quiet
    simp only [Session.step]
    cases predicted : s.predict phrase with
    | take symbols | copy symbols =>
      rw [predicted] at quiet
      cases quiet
    | derive symbols => rfl
    | refuse fault => rfl
  | _ => rfl

/-! ## One step -/

/-- The window has moved on to the next answer of the lexer. -/
structure Refills (s s' : Session) : Prop where
  current : s'.current = s.lookahead
  answer : s.lexer.next = (.ok s'.lookahead, s'.lexer)

/-- Nothing has been asked. -/
structure Idles (s s' : Session) : Prop where
  current : s'.current = s.current
  lookahead : s'.lookahead = s.lookahead
  lexer : s'.lexer = s.lexer

theorem refills_of_shift (h : s.shift = .done s') : s.Refills s' := by
  unfold shift at h
  split at h
  · cases h
  · next answer =>
    cases h
    exact ⟨rfl, answer⟩

theorem faulty_of_shift (h : s.shift = .halted error s') :
    s.lexer.next.1 = .error error := by
  unfold shift at h
  split at h
  · next answer =>
    cases h
    rw [answer]
  · cases h

/-- What becomes of a session whose window a symbol has moved on: a name is declared. -/
def settle (s mid : Session) : Symbol → Session
  | .declare role => mid.declare s.current.text role.kind
  | _ => mid

/-- A step that asks for a token moves the window on. All it does before is to write, and all it
does behind it is to declare a name. -/
theorem step_of_asks (asks : s.asks symbol = true) : ∃ draft more,
    s.step symbol = match Session.shift { s with draft } with
      | .done mid => .proceed more (s.settle mid symbol)
      | .halted error s' => .halt error s' := by
  cases symbol with
  | expect terminal =>
    refine ⟨s.draft, [], ?_⟩
    simp only [Session.step, expect, if_pos (of_decide_eq_true asks)]
    rfl
  | declare role =>
    refine ⟨s.draft, declaration role s.current.text, ?_⟩
    simp only [Session.step, expectName, if_pos (of_decide_eq_true asks)]
    rfl
  | phrase phrase =>
    rw [Session.asks] at asks
    simp only [Session.step]
    cases predicted : s.predict phrase with
    | take symbols => exact ⟨s.draft, symbols, rfl⟩
    | copy symbols => exact ⟨(s.write s.currentText).draft, symbols, rfl⟩
    | _ =>
      rw [predicted] at asks
      cases asks
  | _ => cases asks

theorem shift_of_asks_proceed (asks : s.asks symbol = true)
    (h : s.step symbol = .proceed more s') :
    ∃ draft mid, Session.shift { s with draft } = .done mid ∧ s' = s.settle mid symbol := by
  obtain ⟨draft, symbols, stepped⟩ := step_of_asks asks
  rw [h] at stepped
  cases shifted : Session.shift { s with draft } with
  | done mid =>
    rw [shifted] at stepped
    cases stepped
    exact ⟨draft, mid, shifted, rfl⟩
  | halted error s' =>
    rw [shifted] at stepped
    cases stepped

theorem shift_of_asks_halt (asks : s.asks symbol = true) (h : s.step symbol = .halt error s') :
    ∃ draft, Session.shift { s with draft } = .halted error s' := by
  obtain ⟨draft, symbols, stepped⟩ := step_of_asks asks
  rw [h] at stepped
  cases shifted : Session.shift { s with draft } with
  | done mid =>
    rw [shifted] at stepped
    cases stepped
  | halted error s' =>
    rw [shifted] at stepped
    cases stepped
    exact ⟨draft, shifted⟩

/-- Declaring a name leaves the window alone. -/
theorem settle_stays (s mid : Session) (symbol : Symbol) :
    (s.settle mid symbol).current = mid.current ∧
      (s.settle mid symbol).lookahead = mid.lookahead ∧
      (s.settle mid symbol).lexer = mid.lexer := by
  cases symbol with
  | declare role =>
    obtain ⟨current, lookahead, lexer, -⟩ := mid.declare_stays s.current.text role.kind
    exact ⟨current, lookahead, lexer⟩
  | _ => exact ⟨rfl, rfl, rfl⟩

/-- A step that asks for a token gets it into the window. -/
theorem refills_of_step (asks : s.asks symbol = true) (h : s.step symbol = .proceed more s') :
    s.Refills s' := by
  obtain ⟨draft, mid, shifted, rfl⟩ := shift_of_asks_proceed asks h
  obtain ⟨current, lookahead, lexer⟩ := s.settle_stays mid symbol
  have refills := refills_of_shift shifted
  exact ⟨current.trans refills.current, by rw [lookahead, lexer]; exact refills.answer⟩

/-- A step that asks for a token and ends the run has got the error for an answer. -/
theorem faulty_of_step (asks : s.asks symbol = true) (h : s.step symbol = .halt error s') :
    s.lexer.next.1 = .error error := by
  obtain ⟨draft, shifted⟩ := shift_of_asks_halt asks h
  have faulty := faulty_of_shift shifted
  exact faulty

/-- A step that asks for nothing derives a phrase or is silent. -/
theorem derives_or_silent (quiet : s.asks symbol = false) (h : s.step symbol = .proceed more s') :
    (∃ phrase, symbol = .phrase phrase ∧ s' = s) ∨ symbol.isSilent = true := by
  obtain ⟨leaves, moves⟩ := moves_of_step h
  cases moves with
  | derive => exact .inl ⟨_, rfl, rfl⟩
  | take takes => exact absurd (asks_iff.2 ⟨_, _, _, takes⟩) (by rw [quiet]; decide)
  | perform silent => exact .inr silent

theorem idles_of_step (quiet : s.asks symbol = false) (h : s.step symbol = .proceed more s') :
    s.Idles s' := by
  obtain ⟨leaves, moves⟩ := moves_of_step h
  cases moves with
  | derive => exact ⟨rfl, rfl, rfl⟩
  | take takes => exact absurd (asks_iff.2 ⟨_, _, _, takes⟩) (by rw [quiet]; decide)
  | perform _ stays => exact ⟨stays.current, stays.lookahead, stays.lexer⟩

/-! ## The answers of a run -/

/-- The answers of the lexer to what is asked in dealing with a symbol. -/
def answersTo (s : Session) (symbol : Symbol) : List (Except Error Token) :=
  if s.asks symbol then [s.lexer.next.1] else []

/-- The answers of the lexer to what is asked in dealing with all symbols. -/
def answers (s : Session) (symbols : List Symbol) : List (Except Error Token) :=
  match symbols with
  | [] => []
  | symbol :: rest =>
    match moved : s.step symbol with
    | .halt _ _ => s.answersTo symbol
    | .proceed more s' =>
      have := lex_of_lowers rest (step_lowers moved)
      s.answersTo symbol ++ s'.answers (more ++ rest)
termination_by (s.unread, stackWeight symbols)
decreasing_by exact this

theorem answers_cons_of_proceed (h : s.step symbol = .proceed more s') (rest : List Symbol) :
    s.answers (symbol :: rest) = s.answersTo symbol ++ s'.answers (more ++ rest) := by
  rw [answers]
  split
  · next halted =>
    rw [h] at halted
    cases halted
  · next moved =>
    rw [h] at moved
    cases moved
    rfl

theorem answers_cons_of_halt (h : s.step symbol = .halt error s') (rest : List Symbol) :
    s.answers (symbol :: rest) = s.answersTo symbol := by
  rw [answers]
  split
  · rfl
  · next moved =>
    rw [h] at moved
    cases moved

/-- The window has moved on by as many tokens as have come into it, and the end of the input has not
left it. -/
def Shifts (s : Session) (tokens : List Token) (s' : Session) : Prop :=
  ∃ passed : List Token, passed.length = tokens.length ∧
    (∀ token ∈ passed, token.kind ≠ .endOfInput) ∧
    s.current :: s.lookahead :: tokens = passed ++ [s'.current, s'.lookahead]

theorem Shifts.refl (s : Session) : s.Shifts [] s := ⟨[], rfl, nofun, rfl⟩

theorem Shifts.trans {tokens tokens' : List Token} (shifts : s.Shifts tokens mid)
    (shifts' : mid.Shifts tokens' s') : s.Shifts (tokens ++ tokens') s' := by
  obtain ⟨passed, length, more, same⟩ := shifts
  obtain ⟨passed', length', more', same'⟩ := shifts'
  refine ⟨passed ++ passed', by rw [List.length_append, List.length_append, length, length'],
    fun token member => (List.mem_append.1 member).elim (more token) (more' token), ?_⟩
  calc s.current :: s.lookahead :: (tokens ++ tokens')
      = (s.current :: s.lookahead :: tokens) ++ tokens' := rfl
    _ = passed ++ ([mid.current, mid.lookahead] ++ tokens') := by
        rw [same, List.append_assoc]
    _ = passed ++ passed' ++ [s'.current, s'.lookahead] := by
        rw [List.append_assoc, ← same']
        rfl

theorem Idles.shifts (idles : s.Idles s') : s.Shifts [] s' :=
  ⟨[], rfl, nofun, by rw [idles.current, idles.lookahead]; rfl⟩

theorem Refills.shifts (refills : s.Refills s') (more : s.current.kind ≠ .endOfInput) :
    s.Shifts [s'.lookahead] s' :=
  ⟨[s.current], rfl, by simpa using more, by rw [refills.current]; rfl⟩

/-- What a step asks for comes into the window, and without a question the symbols become
lighter. -/
theorem shifts_of_step (h : s.step symbol = .proceed more s') : ∃ tokens : List Token,
    s.answersTo symbol = tokens.map .ok ∧ s.Shifts tokens s' ∧
      (tokens = [] → stackWeight more < symbol.weight) := by
  unfold answersTo
  split
  · next asks =>
    obtain ⟨leaf, more', work, takes⟩ := asks_iff.1 asks
    have refills := refills_of_step asks h
    exact ⟨[s'.lookahead], by rw [refills.answer]; rfl, refills.shifts takes.kind_ne_endOfInput,
      nofun⟩
  · next quiet =>
    have idles := idles_of_step (Bool.eq_false_iff.2 quiet) h
    refine ⟨[], rfl, idles.shifts, fun _ => ?_⟩
    rcases step_lowers h with less | ⟨-, lighter⟩
    · have same : s'.unread = s.unread := by
        rw [unread, unread, idles.current, idles.lookahead, idles.lexer]
      omega
    · exact lighter

/-- What is asked up to a point of a run has come into the window there. If nothing was asked, the
symbols have become lighter, unless the point is the first. -/
theorem ComesTo.shifts (comes : ComesTo s symbols s' symbols') : ∃ tokens : List Token,
    s.answers symbols = tokens.map .ok ++ s'.answers symbols' ∧ s.Shifts tokens s' ∧
      (tokens = [] → symbols' = symbols ∨ stackWeight symbols' < stackWeight symbols) := by
  induction comes with
  | here s symbols => exact ⟨[], rfl, .refl s, fun _ => .inl rfl⟩
  | @step s mid s' symbol more rest symbols' stepped comes ih =>
    obtain ⟨tokens, answers, shifts, lighter⟩ := ih
    obtain ⟨asked, answers', shifts', lighter'⟩ := shifts_of_step stepped
    refine ⟨asked ++ tokens, ?_, shifts'.trans shifts, fun none => .inr ?_⟩
    · rw [answers_cons_of_proceed stepped, answers', answers, List.map_append, List.append_assoc]
    · obtain ⟨rfl, rfl⟩ := List.append_eq_nil_iff.1 none
      have less := lighter' rfl
      have split := stackWeight_append more rest
      rw [stackWeight]
      rcases lighter rfl with same | lighter
      · rw [same]
        omega
      · omega

/-! ## Ends of the input -/

/-- Whether an answer is the end of the input. -/
def isEnd : Except Error Token → Bool
  | .ok token => decide (token.kind = .endOfInput)
  | .error _ => false

/-- How often the window shows the end of the input. -/
def ends (s : Session) : Nat := [s.current, s.lookahead].countP (decide <| ·.kind = .endOfInput)

theorem ends_le_two (s : Session) : s.ends ≤ 2 := List.countP_le_length

theorem countP_map_ok (tokens : List Token) :
    (tokens.map Except.ok).countP isEnd = tokens.countP (decide <| ·.kind = .endOfInput) := by
  rw [List.countP_map]
  rfl

/-- The ends of the input that have been asked for are in the window. -/
theorem Shifts.ends {tokens : List Token} (shifts : s.Shifts tokens s') :
    s'.ends = s.ends + tokens.countP (decide <| ·.kind = .endOfInput) := by
  obtain ⟨passed, -, more, same⟩ := shifts
  have none : passed.countP (decide <| ·.kind = .endOfInput) = 0 :=
    List.countP_eq_zero.2 fun token member => by simpa using more token member
  have whole := congrArg (List.countP (decide <| ·.kind = .endOfInput)) same
  rw [List.countP_append, none, Nat.zero_add] at whole
  rw [Session.ends, ← whole, Session.ends, ← List.countP_append]
  rfl

theorem ends_of_halt (h : s.step symbol = .halt error s') :
    (s.answersTo symbol).countP isEnd = 0 ∧ s'.ends = s.ends := by
  have stops := stops_of_step h
  refine ⟨?_, by rw [Session.ends, Session.ends, stops.current, stops.lookahead]⟩
  unfold answersTo
  split
  · next asks =>
    rw [faulty_of_step asks h]
    rfl
  · rfl

theorem ends_of_run (s : Session) (symbols : List Symbol) :
    (s.run symbols).session.ends = s.ends + (s.answers symbols).countP isEnd := by
  fun_induction run s symbols with
  | case1 s =>
    rw [answers]
    rfl
  | case2 s symbol rest error s' moved =>
    obtain ⟨none, same⟩ := ends_of_halt moved
    rw [answers_cons_of_halt moved, none]
    exact same
  | case3 s symbol rest more s' moved _ ih =>
    obtain ⟨tokens, answers, shifts, -⟩ := shifts_of_step moved
    rw [ih, answers_cons_of_proceed moved, List.countP_append, answers, countP_map_ok, shifts.ends,
      Nat.add_assoc]

/-- The answers of the lexer in one call. -/
def programAnswers (s : Session) : List (Except Error Token) :=
  s.writePreamble.answers programSymbols

theorem ends_of_program (s : Session) :
    s.program.session.ends = s.ends + s.programAnswers.countP isEnd := by
  have run := ends_of_run s.writePreamble programSymbols
  have begins : s.writePreamble.ends = s.ends := rfl
  rw [begins] at run
  unfold programAnswers
  rw [← run]
  unfold program programSymbols
  cases s.writePreamble.run _ with
  | done s' => rfl
  | halted error s' => rfl

/-- The answers of the lexer in a number of calls. -/
def answersIn (s : Session) (calls : Nat) : List (Except Error Token) :=
  (List.range calls).flatMap fun call => (s.afterCalls call).programAnswers

/-- The ends of the input that calls ask for stay in the window. -/
theorem ends_afterCalls (s : Session) (calls : Nat) :
    (s.afterCalls calls).ends = s.ends + (s.answersIn calls).countP isEnd := by
  induction calls with
  | zero => rfl
  | succ calls ih =>
    have answers : s.answersIn (calls + 1) =
        s.answersIn calls ++ (s.afterCalls calls).programAnswers := by
      rw [answersIn, List.range_succ, List.flatMap_append, List.flatMap_singleton]
      rfl
    rw [answers, List.countP_append, ← Nat.add_assoc, ← ih]
    exact ends_of_program _

end Session

end Offside
