import Offside.Proofs.Session.Asked

/-!
# Every call returns

A call deals with its symbols one by one, and a step that takes a token puts
only so many symbols in their place. So the number of steps is bounded by the
number of tokens, whatever the calls before have come to, and a machine that
counts its steps comes to the same end as the run.

The loops of the grammar are phrases that come again behind what they add. Such
a phrase takes a token at once, or is over, so it never comes again without a
token having come into the window.
-/

namespace Offside

/-! ## Steps are bounded -/

theorem Symbol.weight_pos (symbol : Symbol) : 0 < symbol.weight := by
  cases symbol with
  | phrase phrase => cases phrase <;> exact Nat.zero_lt_succ _
  | _ => exact Nat.zero_lt_one

/-- The symbols of the prediction weigh at most so much. -/
def Prediction.AtMost (bound : Nat) : Prediction → Prop
  | .derive symbols | .take symbols | .copy symbols => stackWeight symbols ≤ bound
  | .refuse _ => True

theorem Prediction.AtMost.followedBy {prediction : Prediction} {bound bound' : Nat}
    {more : List Symbol} (atMost : prediction.AtMost bound)
    (le : bound + stackWeight more ≤ bound') :
    (prediction.followedBy more).AtMost bound' := by
  cases prediction with
  | refuse fault => trivial
  | _ =>
    refine Nat.le_trans ?_ le
    rw [stackWeight_append]
    exact Nat.add_le_add_right atMost _

theorem Prediction.AtMost.mono {prediction : Prediction} {bound bound' : Nat}
    (atMost : prediction.AtMost bound) (le : bound ≤ bound') : prediction.AtMost bound' := by
  cases prediction with
  | refuse fault => trivial
  | _ => exact Nat.le_trans atMost le

namespace Outlook

theorem statement_atMost (o : Outlook) : o.statement.AtMost 28 := by
  unfold statement
  split <;> (try split) <;>
    simp [Prediction.AtMost, stackWeight, Symbol.weight, Phrase.weight, lineEnd]

theorem wholeStatement_atMost (o : Outlook) : o.wholeStatement.AtMost 31 :=
  o.statement_atMost.followedBy (by decide)

theorem blockStatement_atMost (o : Outlook) (block : Block) :
    (o.blockStatement block).AtMost 32 := by
  unfold blockStatement
  split
  · trivial
  · exact o.wholeStatement_atMost.followedBy (Nat.le_refl 32)

theorem operand_atMost (o : Outlook) : o.operand.AtMost 2 := by
  unfold operand
  split
  · exact Nat.zero_le 2
  · split <;> simp [Prediction.AtMost, stackWeight, Symbol.weight, Phrase.weight]
  · trivial

theorem predict_atMost (o : Outlook) (phrase : Phrase) : (o.predict phrase).AtMost 32 := by
  cases phrase with
  | statement => exact o.wholeStatement_atMost.mono (by decide)
  | primary => exact o.operand_atMost.mono (by decide)
  | statements =>
    simp only [predict]
    split
    · exact Nat.zero_le _
    · exact o.wholeStatement_atMost.followedBy (by decide)
  | blockBody block | moreStatements block =>
    simp only [predict]
    split
    · simp [Prediction.AtMost, stackWeight, Symbol.weight]
    · exact o.blockStatement_atMost block
  | conjunct =>
    simp only [predict]
    split <;> simp [Prediction.AtMost, stackWeight, Symbol.weight, Phrase.weight]
  | block | condition | conjunction | comparison | expression | term =>
    simp [predict, Prediction.AtMost, stackWeight, Symbol.weight, Phrase.weight]
  | _ =>
    simp only [predict]
    split <;> simp [Prediction.AtMost, stackWeight, Symbol.weight, Phrase.weight, lineEnd]

end Outlook

namespace Session

variable {s s' : Session} {symbol : Symbol} {symbols more rest : List Symbol} {error : Error}

theorem Takes.weight_le {leaf : Leaf} {work : Work} (takes : s.Takes symbol leaf more work) :
    stackWeight more ≤ 32 := by
  cases takes with
  | expect => exact Nat.zero_le 32
  | @declare role met => cases role <;> simp [declaration, stackWeight, Symbol.weight]
  | @take phrase symbols predicted =>
    have atMost := s.toOutlook.predict_atMost phrase
    rwa [predicted] at atMost
  | @copy phrase symbols predicted =>
    have atMost := s.toOutlook.predict_atMost phrase
    rwa [predicted] at atMost

/-- A token pays for the symbols that are put in place of the one that takes it. -/
theorem potential_lt_of_step (h : s.step symbol = .proceed more s') :
    stackWeight more + 32 * s'.unread < symbol.weight + 32 * s.unread := by
  have positive := symbol.weight_pos
  rcases step_lowers h with less | ⟨same, lighter⟩
  · obtain ⟨leaves, moves⟩ := moves_of_step h
    cases moves with
    | derive => exact absurd less (Nat.lt_irrefl _)
    | take takes =>
      have le := takes.weight_le
      omega
    | perform _ stays =>
      rw [unread, unread, stays.current, stays.lookahead, stays.lexer] at less
      exact absurd less (Nat.lt_irrefl _)
  · omega

/-- Deals with symbols, but in no more steps than `steps`. -/
def runWithin : (steps : Nat) → (s : Session) → List Symbol → Option Outcome
  | _, s, [] => some (.done s)
  | 0, _, _ :: _ => none
  | steps + 1, s, symbol :: rest =>
    match s.step symbol with
    | .halt error s' => some (.halted error s')
    | .proceed more s' => runWithin steps s' (more ++ rest)

/-- With enough steps the run comes to its end. -/
theorem runWithin_eq {steps : Nat} (enough : stackWeight symbols + 32 * s.unread ≤ steps) :
    runWithin steps s symbols = some (s.run symbols) := by
  induction steps generalizing s symbols with
  | zero =>
    cases symbols with
    | nil =>
      rw [run_nil]
      rfl
    | cons symbol rest =>
      have positive := symbol.weight_pos
      rw [stackWeight] at enough
      omega
  | succ steps ih =>
    cases symbols with
    | nil =>
      rw [run_nil]
      rfl
    | cons symbol rest =>
      rw [runWithin]
      cases moved : s.step symbol with
      | halt error s' =>
        rw [run_cons_of_halt moved]
      | proceed more s' =>
        have paid := potential_lt_of_step moved
        rw [stackWeight] at enough
        rw [run_cons_of_proceed moved]
        refine ih ?_
        rw [stackWeight_append]
        omega

/-! ## What is left to be read -/

theorem unread_le_of_step (h : s.step symbol = .proceed more s') : s'.unread ≤ s.unread := by
  rcases step_lowers h with less | ⟨same, -⟩
  · exact Nat.le_of_lt less
  · exact Nat.le_of_eq same

theorem Stops.unread_le (stops : s.Stops error s') : s'.unread ≤ s.unread := by
  have lexer : s'.lexer.rest.length ≤ s.lexer.rest.length := by
    rcases stops.lexer with same | answer
    · exact Nat.le_of_eq (by rw [same])
    · have le := s.lexer.length_next_le
      rwa [answer] at le
  rw [unread, unread, stops.current, stops.lookahead]
  omega

theorem unread_run_le (s : Session) (symbols : List Symbol) :
    (s.run symbols).session.unread ≤ s.unread := by
  fun_induction run s symbols with
  | case1 s => exact Nat.le_refl _
  | case2 s symbol rest error s' moved => exact (stops_of_step moved).unread_le
  | case3 s symbol rest more s' moved _ ih => exact Nat.le_trans ih (unread_le_of_step moved)

theorem unread_program_le (s : Session) : s.program.session.unread ≤ s.unread := by
  have run := unread_run_le s.writePreamble programSymbols
  unfold program
  unfold programSymbols at run
  cases ran : s.writePreamble.run [.phrase .blankLines, .phrase .statements] with
  | done s' =>
    rw [ran] at run
    exact run
  | halted error s' =>
    rw [ran] at run
    exact run

theorem unread_afterCalls_le (s : Session) (calls : Nat) :
    (s.afterCalls calls).unread ≤ s.unread := by
  induction calls with
  | zero => exact Nat.le_refl _
  | succ calls ih => exact Nat.le_trans (unread_program_le _) ih

/-- A token that is not the end of the input has cost a character. -/
theorem load_add_le {lexer behind : Lexer} {token : Token}
    (answer : lexer.next = (.ok token, behind)) :
    token.load + behind.rest.length ≤ lexer.rest.length := by
  by_cases last : token.kind = .endOfInput
  · have le := lexer.length_next_le
    rw [answer] at le
    rw [Token.load, if_pos last, Nat.zero_add]
    exact le
  · have less := Lexer.length_next_lt_of_ok answer last
    rw [Token.load, if_neg last]
    omega

theorem unread_start_le {source : String} {width : Nat} {target : Target}
    (started : start source width target = .ok s) : s.unread ≤ 2 * (source.length + 1) := by
  obtain ⟨⟨mid, answer, answer'⟩, -⟩ := start_eq_ok started
  have first := load_add_le answer
  have second := load_add_le answer'
  have whole : (Lexer.start source).rest.length = source.length + 1 := by
    rw [Lexer.start, List.length_append, String.length_toList]
    rfl
  rw [unread]
  omega

/-- Compiles the program, but in no more steps than `steps`. -/
def programWithin (s : Session) (steps : Nat) : Option Outcome :=
  (runWithin steps s.writePreamble programSymbols).map fun
    | .done s => .done s.noteFinished
    | .halted error s => .halted error s

theorem programWithin_eq {steps : Nat} (enough : 2 + 32 * s.unread ≤ steps) :
    s.programWithin steps = some s.program := by
  have weight : stackWeight programSymbols = 2 := rfl
  have begins : s.writePreamble.unread = s.unread := rfl
  rw [programWithin, runWithin_eq (by rw [weight, begins]; exact enough), Option.map_some]
  unfold program programSymbols
  cases s.writePreamble.run [.phrase .blankLines, .phrase .statements] with
  | done s' => rfl
  | halted error s' => rfl

end Session

/-! ## Loops -/

/-- The phrase that stands for the rest of a loop once it has been gone through. -/
def Phrase.again? : Phrase → Option Phrase
  | .blankLines => some .blankLines
  | .statements => some .statements
  | .blockBody kind | .moreStatements kind => some (.moreStatements kind)
  | .parameters | .moreParameters => some .moreParameters
  | .moreConjunctions => some .moreConjunctions
  | .moreConjuncts => some .moreConjuncts
  | .rightSide | .moreRightSides => some .moreRightSides
  | .moreTerms => some .moreTerms
  | .moreFactors => some .moreFactors
  | .moreArguments => some .moreArguments
  | _ => none

/-- The prediction takes a token, or asks for one next, unless the loop is over. -/
def Prediction.Loops : Prediction → Prop
  | .derive symbols => symbols = [] ∨ symbols = [.writeLine .emptyBody] ∨
      symbols = [.declare .parameter, .phrase .moreParameters]
  | _ => True

theorem Prediction.Immediate.loops {kind : Token.Kind} {prediction : Prediction}
    (immediate : prediction.Immediate kind) : prediction.Loops := by
  cases prediction with
  | derive symbols => exact immediate.elim
  | _ => trivial

theorem Outlook.loops_predict (o : Outlook) {phrase next : Phrase}
    (again : phrase.again? = some next) : (o.predict phrase).Loops := by
  cases phrase with
  | statements =>
    simp only [predict]
    split
    · exact .inl rfl
    · exact (o.wholeStatement_immediate.followedBy _).loops
  | blockBody block =>
    simp only [predict]
    split
    · exact .inr (.inl rfl)
    · exact (o.blockStatement_immediate block).loops
  | moreStatements block =>
    simp only [predict]
    split
    · exact .inl rfl
    · exact (o.blockStatement_immediate block).loops
  | parameters =>
    simp only [predict]
    split
    · exact .inr (.inr rfl)
    · exact .inl rfl
  | blankLines | moreParameters | moreConjunctions | moreConjuncts | rightSide | moreRightSides
  | moreTerms | moreFactors | moreArguments =>
    simp only [predict]
    split
    · trivial
    · first
      | exact .inl rfl
      | trivial
  | _ => cases again

namespace Session

variable {s mid s' : Session} {symbol : Symbol} {symbols symbols' more rest : List Symbol}
  {phrase next : Phrase}

theorem ComesTo.answers_le (comes : ComesTo s symbols s' symbols') :
    (s'.answers symbols').length ≤ (s.answers symbols).length := by
  obtain ⟨tokens, answers, -⟩ := comes.shifts
  rw [answers, List.length_append]
  exact Nat.le_add_left _ _

theorem answers_lt_of_asks (asks : s.asks symbol = true) (h : s.step symbol = .proceed more mid)
    (comes : ComesTo mid (more ++ rest) s' symbols') :
    (s'.answers symbols').length < (s.answers (symbol :: rest)).length := by
  have le := comes.answers_le
  rw [answers_cons_of_proceed h, answersTo, if_pos asks, List.length_append, List.length_singleton]
  omega

theorem asks_of_declare {role : Role} (h : s.step (.declare role) = .proceed more s') :
    s.asks (.declare role) = true := by
  refine decide_eq_true (Decidable.byContradiction fun unmet => ?_)
  simp only [Session.step, expectName, if_neg unmet] at h
  cases h

/-- A loop that takes no token is over, or has its first name to ask for. -/
theorem answers_lt_of_derived {symbols : List Symbol}
    (loops : (Prediction.derive symbols).Loops)
    (comes : ComesTo s (symbols ++ rest) s' (.phrase next :: rest)) :
    (s'.answers (.phrase next :: rest)).length < (s.answers (symbols ++ rest)).length := by
  obtain ⟨tokens, answers, -, lighter⟩ := comes.shifts
  have heavy := (Symbol.phrase next).weight_pos
  cases tokens with
  | cons token tokens =>
    rw [answers, List.length_append, List.length_map, List.length_cons]
    omega
  | nil =>
    obtain rfl | rfl | rfl := loops
    · rcases lighter rfl with same | lighter
      · exact absurd (congrArg List.length same) (by simp)
      · rw [stackWeight, List.nil_append] at lighter
        omega
    · rcases lighter rfl with same | lighter
      · cases same
      · rw [List.singleton_append, stackWeight, stackWeight] at lighter
        exact absurd lighter (Nat.not_lt.2 (Nat.add_le_add_right heavy _))
    · cases comes with
      | step stepped comes => exact answers_lt_of_asks (asks_of_declare stepped) stepped comes

/-- A loop does not come again without a token having been asked for. -/
theorem answers_lt_of_again (again : phrase.again? = some next)
    (h : s.step (.phrase phrase) = .proceed more mid)
    (comes : ComesTo mid (more ++ rest) s' (.phrase next :: rest)) :
    (s'.answers (.phrase next :: rest)).length < (s.answers (.phrase phrase :: rest)).length := by
  by_cases asks : s.asks (.phrase phrase) = true
  · exact answers_lt_of_asks asks h comes
  · have loops := s.toOutlook.loops_predict again
    rw [answers_cons_of_proceed h, answersTo, if_neg asks, List.nil_append]
    rw [Session.asks] at asks
    simp only [Session.step] at h
    cases predicted : s.predict phrase with
    | derive symbols =>
      rw [predicted] at h loops
      cases h
      exact answers_lt_of_derived loops comes
    | refuse fault =>
      rw [predicted] at h
      cases h
    | _ =>
      rw [predicted] at asks
      exact absurd rfl asks

/-- Each time round a loop, tokens have come into the window. -/
theorem shifts_of_again (again : phrase.again? = some next)
    (h : s.step (.phrase phrase) = .proceed more mid)
    (comes : ComesTo mid (more ++ rest) s' (.phrase next :: rest)) : ∃ tokens : List Token,
      tokens ≠ [] ∧ s.answers (.phrase phrase :: rest) =
        tokens.map .ok ++ s'.answers (.phrase next :: rest) ∧ s.Shifts tokens s' := by
  obtain ⟨tokens, answers, shifts, -⟩ := (ComesTo.step h comes).shifts
  refine ⟨tokens, ?_, answers, shifts⟩
  rintro rfl
  have less := answers_lt_of_again again h comes
  rw [answers] at less
  exact absurd less (Nat.lt_irrefl _)

theorem asks_of_statement (h : s.step (.phrase .statement) = .proceed more s') :
    s.asks (.phrase .statement) = true := by
  have immediate := s.toOutlook.wholeStatement_immediate
  have predict : s.predict .statement = s.toOutlook.wholeStatement := rfl
  rw [Session.asks, predict]
  simp only [Session.step, predict] at h
  cases predicted : s.toOutlook.wholeStatement with
  | derive symbols =>
    rw [predicted] at immediate
    exact immediate.elim
  | refuse fault =>
    rw [predicted] at h
    cases h
  | _ => rfl

/-- A statement does not end without a token having come into the window. -/
theorem shifts_of_statement (comes : ComesTo s (.phrase .statement :: rest) s' rest) :
    ∃ tokens : List Token, tokens ≠ [] ∧ s.answers (.phrase .statement :: rest) =
      tokens.map .ok ++ s'.answers rest ∧ s.Shifts tokens s' := by
  obtain ⟨tokens, answers, shifts, lighter⟩ := comes.shifts
  refine ⟨tokens, ?_, answers, shifts⟩
  rintro rfl
  cases comes with
  | step stepped comes =>
    have less := answers_lt_of_asks (asks_of_statement stepped) stepped comes
    rw [answers] at less
    exact absurd less (Nat.lt_irrefl _)

end Session

variable {source : String} {width : Nat} {target : Target}

open Session

/-- Every call comes to its end, within a number of steps that is bounded by the length of the
source. No loop is gone through and no statement is dealt with without a token having come into the
window. A step that does not ask is the same with any lexer, with the end of the input at hand no
step asks, and all calls together are answered with the end of the input at most twice. -/
theorem program_comes_to_end {s : Session} (started : Session.start source width target = .ok s) :
    (∀ calls, (s.afterCalls calls).programWithin (2 + 64 * (source.length + 1)) =
      some (s.afterCalls calls).program) ∧
    (∀ (t mid t' : Session) phrase next more rest, phrase.again? = some next →
      t.step (.phrase phrase) = .proceed more mid →
      ComesTo mid (more ++ rest) t' (.phrase next :: rest) → ∃ tokens : List Token, tokens ≠ [] ∧
        t.answers (.phrase phrase :: rest) = tokens.map .ok ++ t'.answers (.phrase next :: rest) ∧
        t.Shifts tokens t') ∧
    (∀ (t t' : Session) rest, ComesTo t (.phrase .statement :: rest) t' rest →
      ∃ tokens : List Token, tokens ≠ [] ∧
        t.answers (.phrase .statement :: rest) = tokens.map .ok ++ t'.answers rest ∧
        t.Shifts tokens t') ∧
    (∀ (t : Session) symbol, t.asks symbol = false → ∀ lexer,
      Session.step { t with lexer } symbol = (t.step symbol).withLexer lexer) ∧
    (∀ t : Session, t.current.kind = .endOfInput → ∀ symbol, t.asks symbol = false) ∧
    ∀ calls, (s.answersIn calls).countP isEnd ≤ 2 := by
  refine ⟨fun calls => programWithin_eq ?_, fun t mid t' phrase next more rest => shifts_of_again,
    fun t t' rest => shifts_of_statement, fun t symbol => step_withLexer,
    fun t => asks_of_endOfInput, fun calls => ?_⟩
  · have le := Nat.le_trans (s.unread_afterCalls_le calls) (unread_start_le started)
    omega
  · have stays := s.ends_afterCalls calls
    have room := (s.afterCalls calls).ends_le_two
    omega

/-- Three calls on one statement, each of them within 514 steps. -/
theorem program_comes_to_end_print : ∃ s, Session.start "PRINT 1" 4 .python = .ok s ∧
    (∀ calls, (s.afterCalls calls).programWithin 514 = some (s.afterCalls calls).program) ∧
    (s.answersIn 3).countP isEnd ≤ 2 := by
  obtain ⟨s, started⟩ : ∃ s, Session.start "PRINT 1" 4 .python = .ok s := ⟨_, rfl⟩
  obtain ⟨returns, -, -, -, -, ends⟩ := program_comes_to_end started
  exact ⟨s, started, returns, ends 3⟩

end Offside
