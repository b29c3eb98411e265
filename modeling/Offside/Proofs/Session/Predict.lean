import Offside.Scheme.Predict

/-!
# What a prediction can be

Two facts about the table of predictions that a run depends on. The end of the
input is never taken, and a name is taken only after a look at the scope; and a
call is put in the place of an operand and nowhere else.
-/

namespace Offside

namespace Prediction

/-- Whether the prediction takes the token at hand. -/
def takesToken : Prediction → Bool
  | .take _ | .copy _ => true
  | .derive _ | .refuse _ => false

theorem takesToken_followedBy (prediction : Prediction) (more : List Symbol) :
    (prediction.followedBy more).takesToken = prediction.takesToken := by
  cases prediction <;> rfl

/-- Among the symbols of the prediction, none is a call. -/
def Plain : Prediction → Prop
  | .derive symbols | .take symbols | .copy symbols => .phrase .call ∉ symbols
  | .refuse _ => True

theorem Plain.followedBy {prediction : Prediction} {more : List Symbol} (h : prediction.Plain)
    (plain : .phrase .call ∉ more) : (prediction.followedBy more).Plain := by
  cases prediction with
  | refuse fault => trivial
  | _ =>
    intro member
    rcases List.mem_append.1 member with member | member
    · exact h member
    · exact plain member

end Prediction

namespace Outlook

variable {o : Outlook} {phrase : Phrase}

theorem takesToken_statement (h : o.statement.takesToken = true) :
    o.current.kind ≠ .endOfInput ∧ o.current.kind ≠ .identifier := by
  constructor <;> (intro is; simp [statement, is, Prediction.takesToken] at h)

theorem takesToken_blockStatement {block : Block}
    (h : (o.blockStatement block).takesToken = true) : o.statement.takesToken = true := by
  unfold blockStatement at h
  split at h
  · cases h
  · simpa only [wholeStatement, Prediction.takesToken_followedBy] using h

theorem takesToken_operand (h : o.operand.takesToken = true) : o.current.kind ≠ .endOfInput ∧
    (o.current.kind = .identifier → o.scope.declares o.current.text = true) := by
  constructor
  · intro last
    simp [operand, last, Prediction.takesToken] at h
  · intro is
    cases known : o.scope.kind? o.current.text with
    | none => simp [operand, is, known, Prediction.takesToken] at h
    | some kind => simp [Scope.declares, known]

/-- No prediction takes the end of the input, and a name is taken by an operand, where it has been
declared, or by a call. -/
theorem takesToken_predict (h : (o.predict phrase).takesToken = true) :
    o.current.kind ≠ .endOfInput ∧ (o.current.kind = .identifier →
      phrase = .call ∨ o.scope.declares o.current.text = true) := by
  cases phrase with
  | statements =>
    simp only [predict] at h
    split at h
    · cases h
    · rw [wholeStatement, Prediction.takesToken_followedBy, Prediction.takesToken_followedBy] at h
      exact ⟨(takesToken_statement h).1, fun is => absurd is (takesToken_statement h).2⟩
  | statement =>
    simp only [predict, wholeStatement, Prediction.takesToken_followedBy] at h
    exact ⟨(takesToken_statement h).1, fun is => absurd is (takesToken_statement h).2⟩
  | blockBody block =>
    simp only [predict] at h
    split at h
    · cases h
    · have h := takesToken_statement (takesToken_blockStatement h)
      exact ⟨h.1, fun is => absurd is h.2⟩
  | moreStatements block =>
    simp only [predict] at h
    split at h
    · cases h
    · have h := takesToken_statement (takesToken_blockStatement h)
      exact ⟨h.1, fun is => absurd is h.2⟩
  | conjunct =>
    simp only [predict] at h
    split at h
    · next is => simp [is]
    · next is => simp [is]
    · cases h
  | primary => exact ⟨(takesToken_operand h).1, fun is => .inr ((takesToken_operand h).2 is)⟩
  | call =>
    simp only [predict] at h
    split at h
    · next is => simp [is]
    · cases h
  | rightSide | moreRightSides | moreTerms | moreFactors | factor =>
    simp only [predict] at h
    split at h
    · next is =>
      constructor <;> (intro kind; rw [kind] at is; cases is)
    · cases h
  | blankLines | printed | elseBranch | moreParameters | moreConjunctions | moreConjuncts
  | moreArguments =>
    simp only [predict] at h
    split at h
    · next is => simp [is]
    · cases h
  | parameters | arguments =>
    simp only [predict] at h
    split at h <;> cases h
  | _ => cases h

theorem plain_statement : o.statement.Plain := by
  unfold statement
  split <;> first | (split <;> simp [Prediction.Plain]) | simp [Prediction.Plain, lineEnd]

theorem plain_wholeStatement : o.wholeStatement.Plain :=
  plain_statement.followedBy (by simp [lineEnd])

theorem plain_blockStatement {block : Block} : (o.blockStatement block).Plain := by
  unfold blockStatement
  split
  · trivial
  · exact plain_wholeStatement.followedBy (by simp)

theorem operand_ne_take {symbols : List Symbol} : o.operand ≠ .take symbols := by
  intro h
  unfold operand at h
  split at h <;> try cases h
  split at h <;> cases h

theorem eq_nil_of_operand_eq_copy {symbols : List Symbol} (h : o.operand = .copy symbols) :
    symbols = [] := by
  unfold operand at h
  split at h
  · cases h
    rfl
  · split at h <;> cases h
    rfl
  · cases h

/-- Only an operand is replaced by a call. -/
theorem plain_predict (h : phrase ≠ .primary) : (o.predict phrase).Plain := by
  cases phrase with
  | primary => exact absurd rfl h
  | statement => exact plain_wholeStatement
  | statements =>
    simp only [predict]
    split
    · simp [Prediction.Plain]
    · exact plain_wholeStatement.followedBy (by simp)
  | blockBody block | moreStatements block =>
    simp only [predict]
    split
    · simp [Prediction.Plain]
    · exact plain_blockStatement
  | condition | conjunction | comparison | expression | term | block block =>
    simp [predict, Prediction.Plain]
  | conjunct => simp only [predict]; split <;> simp [Prediction.Plain]
  | _ => simp only [predict]; split <;> simp [Prediction.Plain, lineEnd]

end Outlook

end Offside
