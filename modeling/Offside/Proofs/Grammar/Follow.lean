import Offside.Proofs.Grammar.Tree

/-!
# Where phrases begin and end

One word is enough to tell how a phrase goes on. Two tables make that precise:
with which kinds of word a tree of a category may begin, and which kinds may
stand behind it. A repetition ends because what may stand behind it never
begins one more round, so each table of ends adds to the one around it just
those words that begin a round there.
-/

namespace Offside

namespace Token.Kind

/-- The keywords with which a command begins. -/
def beginsCommand : Token.Kind → Bool
  | .keyword .print | .keyword .if | .keyword .while | .keyword .func | .keyword .let
  | .keyword .input | .keyword .return => true
  | _ => false

/-- What may stand behind the statements of a body. -/
def endsBody : Token.Kind → Bool
  | .endOfInput | .keyword .else | .keyword .endIf | .keyword .endWhile
  | .keyword .endFunc => true
  | _ => false

/-- The words with which an operand begins. -/
def beginsOperand : Token.Kind → Bool
  | .number | .identifier => true
  | _ => false

/-- The words with which an expression begins. -/
def beginsExpression (kind : Token.Kind) : Bool := kind.isSign || kind.beginsOperand

/-- The words with which a conjunct begins. -/
def beginsConjunct (kind : Token.Kind) : Bool :=
  kind == .keyword .not || kind == .openParen || kind.beginsExpression

/-- What may stand behind a condition. -/
def endsCondition : Token.Kind → Bool
  | .keyword .then | .keyword .repeat | .closeParen => true
  | _ => false

/-- What may stand behind the conjunctions of a condition. -/
def endsConjunction (kind : Token.Kind) : Bool := kind == .keyword .or || kind.endsCondition

/-- What may stand behind the comparisons of a condition. -/
def endsConjunct (kind : Token.Kind) : Bool := kind == .keyword .and || kind.endsConjunction

/-- What may stand behind an expression. -/
def endsExpression (kind : Token.Kind) : Bool :=
  kind.isComparison || kind == .newline || kind == .comma || kind.endsConjunct

/-- What may stand behind the terms of an expression. -/
def endsTerm (kind : Token.Kind) : Bool := kind.isSign || kind.endsExpression

/-- What may stand behind the factors of a term. -/
def endsFactor (kind : Token.Kind) : Bool := kind.isFactorOperator || kind.endsTerm

/-- The operators of expressions and comparisons. -/
def isOperator (kind : Token.Kind) : Bool :=
  kind.isComparison || kind.isSign || kind.isFactorOperator

variable {kind : Token.Kind}

theorem eq_of_isSign (h : kind.isSign = true) : kind = .plus ∨ kind = .minus := by
  cases kind <;> simp_all [isSign]

theorem eq_of_isFactorOperator (h : kind.isFactorOperator = true) :
    kind = .times ∨ kind = .divide := by
  cases kind <;> simp_all [isFactorOperator]

theorem eq_of_beginsOperand (h : kind.beginsOperand = true) :
    kind = .number ∨ kind = .identifier := by
  cases kind <;> simp_all [beginsOperand]

theorem isOperator_of_isComparison (h : kind.isComparison = true) : kind.isOperator = true := by
  simp [isOperator, h]

theorem isOperator_of_isSign (h : kind.isSign = true) : kind.isOperator = true := by
  simp [isOperator, h]

theorem isOperator_of_isFactorOperator (h : kind.isFactorOperator = true) :
    kind.isOperator = true := by
  simp [isOperator, h]

theorem hasText_of_isOperator (h : kind.isOperator = true) : kind.hasText = false := by
  cases kind <;> first | rfl | cases h

theorem endsExpression_of_endsConjunct (h : kind.endsConjunct = true) :
    kind.endsExpression = true := by simp [endsExpression, h]

theorem not_endsConjunct_of_isComparison (h : kind.isComparison = true) :
    kind.endsConjunct = false := by
  cases kind <;> first | rfl | cases h

theorem not_endsExpression_of_isSign (h : kind.isSign = true) : kind.endsExpression = false := by
  rcases eq_of_isSign h with rfl | rfl <;> rfl

theorem not_endsTerm_of_isFactorOperator (h : kind.isFactorOperator = true) :
    kind.endsTerm = false := by
  rcases eq_of_isFactorOperator h with rfl | rfl <;> rfl

theorem not_endsBody_of_beginsCommand (h : kind.beginsCommand = true) :
    kind.endsBody = false := by
  cases kind with
  | keyword word => cases word <;> first | rfl | cases h
  | _ => cases h

theorem not_beginsOperand_of_isSign (h : kind.isSign = true) : kind.beginsOperand = false := by
  rcases eq_of_isSign h with rfl | rfl <;> rfl

theorem beginsExpression_cases (h : kind.beginsExpression = true) :
    kind = .plus ∨ kind = .minus ∨ kind = .number ∨ kind = .identifier := by
  cases kind <;> simp_all [beginsExpression, isSign, beginsOperand]

end Token.Kind

/-- The kinds of word that may stand behind a tree of a category. -/
def Category.follows : Category → Token.Kind → Bool
  | .program, kind => kind == .endOfInput
  | .blankLines, kind | .statement, kind => kind != .newline
  | .statements, kind | .body, kind => kind.endsBody
  | .command, kind | .printed, kind => kind == .newline
  | .otherwise, kind => kind == .keyword .endIf
  | .parameters, kind | .moreParameters, kind => kind == .closeParen
  | .arguments, kind | .moreArguments, kind => kind == .closeParen
  | .condition, kind | .moreConjunctions, kind => kind.endsCondition
  | .conjunction, kind | .moreConjuncts, kind => kind.endsConjunction
  | .conjunct, kind | .comparison, kind | .rightSide, kind | .moreRightSides, kind =>
    kind.endsConjunct
  | .expression, kind | .moreTerms, kind => kind.endsExpression
  | .term, kind | .moreFactors, kind => kind.endsTerm
  | .factor, kind | .primary, kind => kind.endsFactor
  | .call, _ => true

/-- The kind of the first of some leaves, behind which the input ends. -/
def firstKind : List Leaf → Token.Kind
  | [] => .endOfInput
  | leaf :: _ => leaf.kind

@[simp] theorem firstKind_nil : firstKind [] = .endOfInput := rfl

@[simp] theorem firstKind_cons (leaf : Leaf) (leaves : List Leaf) :
    firstKind (leaf :: leaves) = leaf.kind := rfl

@[simp] theorem Leaf.kind_fixed (kind : Token.Kind) : (Leaf.fixed kind).kind = kind := rfl

/-! ## First words -/

namespace Tree

/-- The tree has a first word, and this is said of its kind. -/
def Begins {category : Category} (tree : Tree category) (p : Token.Kind → Bool) : Prop :=
  ∃ leaf leaves, tree.leaves = leaf :: leaves ∧ p leaf.kind = true

theorem Begins.first {category : Category} {tree : Tree category} {p : Token.Kind → Bool}
    (h : tree.Begins p) (behind : List Leaf) : p (firstKind (tree.leaves ++ behind)) = true := by
  obtain ⟨leaf, leaves, first, begins⟩ := h
  rw [first]
  exact begins

/-- A tree begins as its first part does. -/
theorem Begins.of_eq_append {category category' : Category} {tree : Tree category}
    {part : Tree category'} {p : Token.Kind → Bool} {leaves : List Leaf} (h : part.Begins p)
    (same : tree.leaves = part.leaves ++ leaves) : tree.Begins p := by
  obtain ⟨leaf, others, first, begins⟩ := h
  exact ⟨leaf, others ++ leaves, by rw [same, first]; rfl, begins⟩

theorem Begins.mono {category : Category} {tree : Tree category} {p q : Token.Kind → Bool}
    (h : tree.Begins p) (le : ∀ kind, p kind = true → q kind = true) : tree.Begins q := by
  obtain ⟨leaf, leaves, first, begins⟩ := h
  exact ⟨leaf, leaves, first, le _ begins⟩

theorem begins_command (tree : Tree .command) : tree.Begins Token.Kind.beginsCommand := by
  cases tree <;> exact ⟨_, _, rfl, rfl⟩

theorem begins_statement (tree : Tree .statement) : tree.Begins Token.Kind.beginsCommand := by
  cases tree with
  | statement command blank => exact command.begins_command.of_eq_append rfl

theorem begins_primary (tree : Tree .primary) : tree.Begins Token.Kind.beginsOperand := by
  cases tree with
  | number text => exact ⟨_, _, rfl, rfl⟩
  | read name => exact ⟨_, _, rfl, rfl⟩
  | called call => cases call; exact ⟨_, _, rfl, rfl⟩

theorem begins_factor (tree : Tree .factor) : tree.Begins Token.Kind.beginsExpression := by
  cases tree with
  | plain operand =>
    refine (operand.begins_primary.of_eq_append (List.append_nil _).symm).mono fun kind h => ?_
    simp [Token.Kind.beginsExpression, h]
  | signed sign signs operand =>
    exact ⟨_, _, rfl, by simp [Token.Kind.beginsExpression, signs]⟩

theorem begins_term (tree : Tree .term) : tree.Begins Token.Kind.beginsExpression := by
  cases tree with
  | term first others => exact first.begins_factor.of_eq_append rfl

theorem begins_expression (tree : Tree .expression) :
    tree.Begins Token.Kind.beginsExpression := by
  cases tree with
  | expression first others => exact first.begins_term.of_eq_append rfl

theorem begins_comparison (tree : Tree .comparison) :
    tree.Begins Token.Kind.beginsExpression := by
  cases tree with
  | comparison left right => exact left.begins_expression.of_eq_append rfl

theorem begins_conjunct (tree : Tree .conjunct) : tree.Begins Token.Kind.beginsConjunct := by
  cases tree with
  | not negated => exact ⟨_, _, rfl, rfl⟩
  | group test => exact ⟨_, _, rfl, rfl⟩
  | compared relation =>
    refine (relation.begins_comparison.of_eq_append (List.append_nil _).symm).mono fun kind h => ?_
    simp [Token.Kind.beginsConjunct, h]

theorem begins_condition (tree : Tree .condition) : tree.Begins Token.Kind.beginsConjunct := by
  cases tree with
  | condition first others =>
    cases first with
    | conjunction first further =>
      exact first.begins_conjunct.of_eq_append (List.append_assoc _ _ _)

theorem begins_rightSide (tree : Tree .rightSide) : tree.Begins Token.Kind.isComparison := by
  cases tree with
  | rightSide operator compares right others => exact ⟨_, _, rfl, compares⟩

/-! ## What stands behind a part -/

section

variable {behind : List Leaf}

theorem endsTerm_of_moreTerms (tree : Tree .moreTerms)
    (h : (firstKind behind).endsExpression = true) :
    (firstKind (tree.leaves ++ behind)).endsTerm = true := by
  cases tree with
  | lastTerm =>
    show (firstKind behind).endsTerm = true
    simp [Token.Kind.endsTerm, h]
  | nextTerm sign signs next others =>
    show sign.endsTerm = true
    simp [Token.Kind.endsTerm, signs]

theorem endsFactor_of_moreFactors (tree : Tree .moreFactors)
    (h : (firstKind behind).endsTerm = true) :
    (firstKind (tree.leaves ++ behind)).endsFactor = true := by
  cases tree with
  | lastFactor =>
    show (firstKind behind).endsFactor = true
    simp [Token.Kind.endsFactor, h]
  | nextFactor operator multiplies next others =>
    show operator.endsFactor = true
    simp [Token.Kind.endsFactor, multiplies]

theorem endsExpression_of_rightSide (tree : Tree .rightSide) :
    (firstKind (tree.leaves ++ behind)).endsExpression = true := by
  cases tree with
  | rightSide operator compares right others =>
    show operator.endsExpression = true
    simp [Token.Kind.endsExpression, compares]

theorem endsExpression_of_moreRightSides (tree : Tree .moreRightSides)
    (h : (firstKind behind).endsConjunct = true) :
    (firstKind (tree.leaves ++ behind)).endsExpression = true := by
  cases tree with
  | lastRightSide =>
    show (firstKind behind).endsExpression = true
    exact Token.Kind.endsExpression_of_endsConjunct h
  | nextRightSide next => exact endsExpression_of_rightSide next

theorem endsConjunct_of_moreConjuncts (tree : Tree .moreConjuncts)
    (h : (firstKind behind).endsConjunction = true) :
    (firstKind (tree.leaves ++ behind)).endsConjunct = true := by
  cases tree with
  | lastConjunct =>
    show (firstKind behind).endsConjunct = true
    simp [Token.Kind.endsConjunct, h]
  | nextConjunct next others => rfl

theorem endsConjunction_of_moreConjunctions (tree : Tree .moreConjunctions)
    (h : (firstKind behind).endsCondition = true) :
    (firstKind (tree.leaves ++ behind)).endsConjunction = true := by
  cases tree with
  | lastConjunction =>
    show (firstKind behind).endsConjunction = true
    simp [Token.Kind.endsConjunction, h]
  | nextConjunction next others => rfl

theorem endsExpression_of_moreArguments (tree : Tree .moreArguments)
    (h : firstKind behind = .closeParen) :
    (firstKind (tree.leaves ++ behind)).endsExpression = true := by
  cases tree with
  | lastArgument =>
    show (firstKind behind).endsExpression = true
    rw [h]
    rfl
  | nextArgument next others => rfl

theorem endsBody_of_otherwise (tree : Tree .otherwise) (others : List Leaf) :
    (firstKind (tree.leaves ++ .fixed (.keyword .endIf) :: others)).endsBody = true := by
  cases tree <;> rfl

/-- Statements begin on a line of their own, and so does what stands behind them. -/
theorem not_newline_of_statements (tree : Tree .statements)
    (h : (firstKind behind).endsBody = true) :
    firstKind (tree.leaves ++ behind) ≠ .newline := by
  intro newline
  cases tree with
  | noStatement =>
    have newline : firstKind behind = .newline := newline
    rw [newline] at h
    cases h
  | nextStatement first others =>
    have begins := first.begins_statement.first (others.leaves ++ behind)
    have newline : firstKind (first.leaves ++ others.leaves ++ behind) = .newline := newline
    rw [← List.append_assoc, newline] at begins
    cases begins

theorem not_newline_of_body (tree : Tree .body) (h : (firstKind behind).endsBody = true) :
    firstKind (tree.leaves ++ behind) ≠ .newline := by
  cases tree with
  | body statements => exact not_newline_of_statements statements h

end

end Tree

end Offside
