import Offside.Session.Step

/-!
# Why a run ends

A step that takes a token leaves less to be read, and a step that takes none puts symbols of less
weight in the place of the one it deals with.

What is left to be read is measured by the characters behind the window, counted twice, and the
tokens in the window other than the end of the input. When the window moves on it loses a token,
and the token that comes in costs a character or is the end of the input; and nothing ever takes the
end of the input.
-/

namespace Offside

/-- The weight of a phrase is larger than the weight of any symbols it is said to consist of before
a token is taken. -/
def Phrase.weight : Phrase → Nat
  | .block _ => 4
  | .blockBody _ => 2
  | .printed => 9
  | .parameters => 3
  | .condition => 15
  | .conjunction => 13
  | .conjunct => 11
  | .comparison => 10
  | .expression => 8
  | .term => 6
  | .factor => 4
  | .primary => 3
  | .arguments => 10
  | _ => 1

/-- The weight of a symbol. -/
def Symbol.weight : Symbol → Nat
  | .phrase p => p.weight
  | _ => 1

/-- The weight of all symbols that are still to come. -/
def stackWeight : List Symbol → Nat
  | [] => 0
  | symbol :: symbols => symbol.weight + stackWeight symbols

theorem stackWeight_append (left right : List Symbol) :
    stackWeight (left ++ right) = stackWeight left + stackWeight right := by
  induction left with
  | nil => simp [stackWeight]
  | cons symbol left ih => simp [stackWeight, ih, Nat.add_assoc]

/-- Whether a token counts as unread while it is in the window. -/
def Token.load (token : Token) : Nat := if token.kind = .endOfInput then 0 else 1

/-- How much is left to be read. -/
def Session.unread (s : Session) : Nat :=
  2 * s.lexer.rest.length + s.current.load + s.lookahead.load

/-! ## Predictions weigh less and take no end of input -/

namespace Prediction

/-- A derivation weighs less than `weight`, and a token is taken only if there is one. -/
def Lighter (weight : Nat) (kind : Token.Kind) : Prediction → Prop
  | .derive symbols => stackWeight symbols < weight
  | .take _ | .copy _ => kind ≠ .endOfInput
  | .refuse _ => True

/-- A token is taken at once, if there is one. -/
def Immediate (kind : Token.Kind) : Prediction → Prop
  | .derive _ => False
  | .take _ | .copy _ => kind ≠ .endOfInput
  | .refuse _ => True

theorem Immediate.followedBy {kind : Token.Kind} {prediction : Prediction}
    (h : prediction.Immediate kind) (more : List Symbol) :
    (prediction.followedBy more).Immediate kind := by
  cases prediction <;> exact h

theorem Immediate.lighter {kind : Token.Kind} {prediction : Prediction}
    (h : prediction.Immediate kind) (weight : Nat) : prediction.Lighter weight kind := by
  cases prediction
  · exact h.elim
  all_goals exact h

end Prediction

namespace Outlook

theorem statement_immediate (o : Outlook) : o.statement.Immediate o.current.kind := by
  unfold statement
  split <;> (try split) <;> simp_all [Prediction.Immediate]

theorem wholeStatement_immediate (o : Outlook) : o.wholeStatement.Immediate o.current.kind :=
  o.statement_immediate.followedBy _

theorem blockStatement_immediate (o : Outlook) (block : Block) :
    (o.blockStatement block).Immediate o.current.kind := by
  unfold blockStatement
  split
  · trivial
  · exact o.wholeStatement_immediate.followedBy _

theorem operand_lighter (o : Outlook) : o.operand.Lighter 3 o.current.kind := by
  unfold operand
  split
  · next h => simp [Prediction.Lighter, h]
  · next h =>
    split <;> simp [Prediction.Lighter, stackWeight, Symbol.weight, Phrase.weight, h]
  · trivial

theorem predict_lighter (o : Outlook) (p : Phrase) :
    (o.predict p).Lighter p.weight o.current.kind := by
  cases p with
  | statement => exact o.wholeStatement_immediate.lighter _
  | primary => exact o.operand_lighter
  | statements =>
    simp only [predict]
    split
    · simp [Prediction.Lighter, stackWeight, Phrase.weight]
    · exact (o.wholeStatement_immediate.followedBy _).lighter _
  | blockBody block =>
    simp only [predict]
    split
    · simp [Prediction.Lighter, stackWeight, Phrase.weight, Symbol.weight]
    · exact (o.blockStatement_immediate block).lighter _
  | moreStatements block =>
    simp only [predict]
    split
    · simp [Prediction.Lighter, stackWeight, Phrase.weight]
    · exact (o.blockStatement_immediate block).lighter _
  | conjunct =>
    simp only [predict]
    split <;> simp_all [Prediction.Lighter, stackWeight, Phrase.weight, Symbol.weight]
  | block | condition | conjunction | comparison | expression | term =>
    simp [predict, Prediction.Lighter, stackWeight, Phrase.weight, Symbol.weight]
  | rightSide | moreRightSides | moreTerms | moreFactors | factor =>
    simp only [predict]
    split
    · next h =>
      intro last
      rw [last] at h
      exact absurd h (by decide)
    · simp [Prediction.Lighter, stackWeight, Phrase.weight, Symbol.weight]
  | blankLines | printed | elseBranch | parameters | moreParameters | moreConjunctions
  | moreConjuncts | call | arguments | moreArguments =>
    simp only [predict]
    split <;> simp_all [Prediction.Lighter, stackWeight, Phrase.weight, Symbol.weight]

end Outlook

/-! ## Steps -/

namespace Session

theorem unread_shift_lt {s s' : Session} (taken : s.current.kind ≠ .endOfInput)
    (h : s.shift = .done s') : s'.unread < s.unread := by
  unfold shift at h
  split at h
  · cases h
  · next token behind answer =>
    cases h
    have le := s.lexer.length_next_le
    rw [answer] at le
    simp only [unread, Token.load, if_neg taken]
    by_cases last : token.kind = .endOfInput
    · simp only [if_pos last] at le ⊢
      omega
    · have lt := Lexer.length_next_lt_of_ok answer last
      simp only [if_neg last]
      omega

/-- Every step takes a token, or leaves symbols that weigh less. -/
def Lowers (s : Session) (weight : Nat) (symbols : List Symbol) (s' : Session) : Prop :=
  s'.unread < s.unread ∨ s'.unread = s.unread ∧ stackWeight symbols < weight

theorem lowers_of_shift {s s' : Session} {symbols more : List Symbol} (weight : Nat)
    (taken : s.current.kind ≠ .endOfInput) (h : s.shift.before symbols = .proceed more s') :
    s.Lowers weight more s' := by
  cases shifted : s.shift with
  | done behind =>
    rw [shifted] at h
    cases h
    exact .inl (unread_shift_lt taken shifted)
  | halted error behind => rw [shifted] at h; cases h

theorem unread_declare (s : Session) (name : String) (kind : NameKind) :
    (s.declare name kind).unread = s.unread := by
  unfold declare
  split
  · rfl
  · split <;> rfl

theorem step_lowers {s s' : Session} {symbol : Symbol} {more : List Symbol}
    (h : s.step symbol = .proceed more s') : s.Lowers symbol.weight more s' := by
  cases symbol with
  | expect terminal =>
    simp only [step, expect] at h
    split at h
    · next asked =>
      refine lowers_of_shift _ ?_ h
      rw [asked]
      cases terminal <;> simp [Terminal.kind]
    · cases h
  | declare role =>
    simp only [step, expectName] at h
    split at h
    · next name =>
      split at h
      · next behind shifted =>
        cases h
        refine .inl ?_
        rw [unread_declare]
        exact unread_shift_lt (by rw [name]; simp) shifted
      · cases h
    · cases h
  | phrase p =>
    have lighter := s.predict_lighter p
    simp only [step, follow] at h
    split at h <;> rename_i predicted <;> rw [predicted] at lighter
    · cases h
      exact .inr ⟨rfl, lighter⟩
    · exact lowers_of_shift _ lighter h
    · exact @lowers_of_shift (s.write s.currentText) _ _ _ _ lighter h
    · cases h
  | write | writeLine | writeText | endLine | indent | dedent | setInFunction | countStatement
  | noteBlock | noteVariableCall =>
    cases h
    exact .inr ⟨rfl, Nat.zero_lt_one⟩

theorem lex_of_lowers {s s' : Session} {symbol : Symbol} {more : List Symbol}
    (rest : List Symbol) (h : s.Lowers symbol.weight more s') :
    Prod.Lex (· < ·) (· < ·) (s'.unread, stackWeight (more ++ rest))
      (s.unread, stackWeight (symbol :: rest)) := by
  rcases h with less | ⟨same, lighter⟩
  · exact .left _ _ less
  · rw [same]
    refine .right _ ?_
    rw [stackWeight_append, stackWeight]
    exact Nat.add_lt_add_right lighter _

end Session

end Offside
