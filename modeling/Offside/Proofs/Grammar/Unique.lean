import Offside.Proofs.Grammar.Follow

/-!
# A text has one syntax tree

Two trees of a category that begin two equal texts are the same tree, as long as
what stands behind each of them may stand there. The induction goes over one of
the trees: where the other has the same production, their parts are compared
from left to right, and each part hands the texts behind it to the next one.
Where it has another production the first words differ; and where a repetition
ends in one tree and not in the other, the word that would begin one more round
is one that may not stand behind it.
-/

namespace Offside

/-- The leaves carry the same words. -/
def SameWords (left right : List Leaf) : Prop := left.map Leaf.word = right.map Leaf.word

namespace SameWords

variable {first second : Leaf} {left right : List Leaf}

theorem tail (h : SameWords (first :: left) (second :: right)) : SameWords left right :=
  (List.cons.inj h).2

theorem head (h : SameWords (first :: left) (second :: right)) : first.word = second.word :=
  (List.cons.inj h).1

theorem kind (h : SameWords (first :: left) (second :: right)) : first.kind = second.kind :=
  congrArg Word.kind h.head

theorem text (h : SameWords (first :: left) (second :: right)) :
    first.word.text = second.word.text :=
  congrArg Word.text h.head

theorem firstKind (h : SameWords left right) : firstKind left = firstKind right := by
  cases left with
  | nil =>
    cases right with
    | nil => rfl
    | cons second right => cases h
  | cons first left =>
    cases right with
    | nil => cases h
    | cons second right => exact h.kind

end SameWords

theorem blankLeaves_unique {count count' : Nat} {left right : List Leaf}
    (same : SameWords (blankLeaves count ++ left) (blankLeaves count' ++ right))
    (h : firstKind left ≠ .newline) (h' : firstKind right ≠ .newline) :
    count = count' ∧ SameWords left right := by
  induction count generalizing count' with
  | zero =>
    cases count' with
    | zero => exact ⟨rfl, same⟩
    | succ count' => exact absurd same.firstKind h
  | succ count ih =>
    cases count' with
    | zero => exact absurd same.firstKind.symm h'
    | succ count' =>
      obtain ⟨rfl, rest⟩ := ih same.tail
      exact ⟨rfl, rest⟩

theorem lineLeaves_unique {blank blank' : Nat} {left right : List Leaf}
    (same : SameWords (lineLeaves blank ++ left) (lineLeaves blank' ++ right))
    (h : firstKind left ≠ .newline) (h' : firstKind right ≠ .newline) :
    blank = blank' ∧ SameWords left right :=
  blankLeaves_unique same.tail h h'

/-- What may stand behind a tree is not the first word of one more round. -/
theorem not_follows {p : Token.Kind → Bool} {leaves : List Leaf} {kind : Token.Kind}
    (same : firstKind leaves = kind) (h : p (firstKind leaves) = true) (not : p kind = false) :
    False := by
  rw [same, not] at h
  cases h

namespace Tree

/-- A text that begins with a statement is not what stands behind the statements of a body. -/
theorem not_statements {first : Tree .statement} {left right : List Leaf}
    (same : SameWords left (first.leaves ++ right)) (h : (firstKind left).endsBody = true) :
    False := by
  have begins := first.begins_statement.first right
  rw [← same.firstKind] at begins
  rw [Token.Kind.not_endsBody_of_beginsCommand begins] at h
  cases h

/-- An expression begins neither like a negation nor like a group. -/
theorem not_begins_expression {tree : Tree .comparison} {right : List Leaf} {kind : Token.Kind}
    (same : firstKind (tree.leaves ++ right) = kind) (not : kind.beginsExpression = false) :
    False :=
  not_follows same (tree.begins_comparison.first right) not

/-- An operand does not begin with a sign. -/
theorem not_operand {kind sign : Token.Kind} (same : kind = sign) (signs : sign.isSign = true)
    (h : kind.beginsOperand = true) : False := by
  subst same
  rcases Token.Kind.eq_of_beginsOperand h with rfl | rfl <;> cases signs

/-- An argument does not begin with a parenthesis. -/
theorem not_argument {kind kind' : Token.Kind} (same : kind = kind')
    (closes : Category.arguments.follows kind = true) (h : kind'.beginsExpression = true) :
    False := by
  subst same
  rw [eq_of_beq closes] at h
  cases h

/-- A tree is known from its words, and so is where they end. -/
theorem unique_tree {category : Category} (tree : Tree category) :
    ∀ (other : Tree category) (behind behind' : List Leaf),
      SameWords (tree.leaves ++ behind) (other.leaves ++ behind') →
      category.follows (firstKind behind) = true → category.follows (firstKind behind') = true →
      tree = other ∧ SameWords behind behind' := by
  induction tree with
  | program blank statements ih =>
    intro other behind behind' same h h'
    cases other with
    | program blank' statements' =>
      have ends : (firstKind behind).endsBody = true := by rw [eq_of_beq h]; rfl
      have ends' : (firstKind behind').endsBody = true := by rw [eq_of_beq h']; rfl
      simp only [leaves, List.append_assoc] at same
      obtain ⟨rfl, rest⟩ := blankLeaves_unique same (not_newline_of_statements statements ends)
        (not_newline_of_statements statements' ends')
      obtain ⟨rfl, rest'⟩ := ih _ _ _ rest ends ends'
      exact ⟨rfl, rest'⟩
  | blankLines count =>
    intro other behind behind' same h h'
    cases other with
    | blankLines count' =>
      obtain ⟨rfl, rest⟩ := blankLeaves_unique same (by simpa [Category.follows] using h)
        (by simpa [Category.follows] using h')
      exact ⟨rfl, rest⟩
  | noStatement =>
    intro other behind behind' same h h'
    cases other with
    | noStatement => exact ⟨rfl, same⟩
    | nextStatement first others =>
      simp only [leaves, List.append_assoc] at same
      exact (not_statements same h).elim
  | nextStatement first others ih ih' =>
    intro other behind behind' same h h'
    cases other with
    | noStatement =>
      simp only [leaves, List.append_assoc] at same
      exact (not_statements (Eq.symm same) h').elim
    | nextStatement first' others' =>
      simp only [leaves, List.append_assoc] at same
      obtain ⟨rfl, rest⟩ := ih _ _ _ same
        (by simpa [Category.follows] using not_newline_of_statements others h)
        (by simpa [Category.follows] using not_newline_of_statements others' h')
      obtain ⟨rfl, rest'⟩ := ih' _ _ _ rest h h'
      exact ⟨rfl, rest'⟩
  | statement command blank ih =>
    intro other behind behind' same h h'
    cases other with
    | statement command' blank' =>
      simp only [leaves, List.append_assoc] at same
      obtain ⟨rfl, rest⟩ := ih _ _ _ same rfl rfl
      obtain ⟨rfl, rest'⟩ := lineLeaves_unique rest (by simpa [Category.follows] using h)
        (by simpa [Category.follows] using h')
      exact ⟨rfl, rest'⟩
  | body statements ih =>
    intro other behind behind' same h h'
    cases other with
    | body statements' =>
      obtain ⟨rfl, rest⟩ := ih _ _ _ same h h'
      exact ⟨rfl, rest⟩
  | print printed ih =>
    intro other behind behind' same h h'
    cases other with
    | print printed' =>
      obtain ⟨rfl, rest⟩ := ih _ _ _ same.tail h h'
      exact ⟨rfl, rest⟩
    | _ => cases same.kind
  | branch test blank consequent alternative ih ih' ih'' =>
    intro other behind behind' same h h'
    cases other with
    | branch test' blank' consequent' alternative' =>
      have ends := endsBody_of_otherwise alternative behind
      have ends' := endsBody_of_otherwise alternative' behind'
      simp only [leaves, List.append_assoc, List.cons_append, List.nil_append] at same
      obtain ⟨rfl, rest⟩ := ih _ _ _ same.tail rfl rfl
      obtain ⟨rfl, rest'⟩ := lineLeaves_unique rest.tail
        (not_newline_of_body consequent ends) (not_newline_of_body consequent' ends')
      obtain ⟨rfl, rest''⟩ := ih' _ _ _ rest' ends ends'
      obtain ⟨rfl, rest'''⟩ := ih'' _ _ _ rest'' rfl rfl
      exact ⟨rfl, rest'''.tail⟩
    | _ => cases same.kind
  | loop test blank inner ih ih' =>
    intro other behind behind' same h h'
    cases other with
    | loop test' blank' inner' =>
      simp only [leaves, List.append_assoc, List.cons_append, List.nil_append] at same
      obtain ⟨rfl, rest⟩ := ih _ _ _ same.tail rfl rfl
      obtain ⟨rfl, rest'⟩ := lineLeaves_unique rest.tail
        (not_newline_of_body inner rfl) (not_newline_of_body inner' rfl)
      obtain ⟨rfl, rest''⟩ := ih' _ _ _ rest' rfl rfl
      exact ⟨rfl, rest''.tail⟩
    | _ => cases same.kind
  | function name names blank inner ih ih' =>
    intro other behind behind' same h h'
    cases other with
    | function name' names' blank' inner' =>
      simp only [leaves, List.append_assoc, List.cons_append, List.nil_append] at same
      obtain rfl : name = name' := same.tail.text
      obtain ⟨rfl, rest⟩ := ih _ _ _ same.tail.tail.tail rfl rfl
      obtain ⟨rfl, rest'⟩ := lineLeaves_unique rest.tail
        (not_newline_of_body inner rfl) (not_newline_of_body inner' rfl)
      obtain ⟨rfl, rest''⟩ := ih' _ _ _ rest' rfl rfl
      exact ⟨rfl, rest''.tail⟩
    | _ => cases same.kind
  | assign name value ih =>
    intro other behind behind' same h h'
    cases other with
    | assign name' value' =>
      obtain rfl : name = name' := same.tail.text
      have newline : (firstKind behind).endsExpression = true := by rw [eq_of_beq h]; rfl
      have newline' : (firstKind behind').endsExpression = true := by rw [eq_of_beq h']; rfl
      obtain ⟨rfl, rest⟩ := ih _ _ _ same.tail.tail.tail newline newline'
      exact ⟨rfl, rest⟩
    | _ => cases same.kind
  | input name =>
    intro other behind behind' same h h'
    cases other with
    | input name' =>
      obtain rfl : name = name' := same.tail.text
      exact ⟨rfl, same.tail.tail⟩
    | _ => cases same.kind
  | giveBack value ih =>
    intro other behind behind' same h h'
    cases other with
    | giveBack value' =>
      have newline : (firstKind behind).endsExpression = true := by rw [eq_of_beq h]; rfl
      have newline' : (firstKind behind').endsExpression = true := by rw [eq_of_beq h']; rfl
      obtain ⟨rfl, rest⟩ := ih _ _ _ same.tail newline newline'
      exact ⟨rfl, rest⟩
    | _ => cases same.kind
  | literal text =>
    intro other behind behind' same h h'
    cases other with
    | literal text' =>
      obtain rfl : text = text' := same.text
      exact ⟨rfl, same.tail⟩
    | printedValue value =>
      exact (not_follows same.firstKind.symm (value.begins_expression.first behind') rfl).elim
  | printedValue value ih =>
    intro other behind behind' same h h'
    cases other with
    | literal text =>
      exact (not_follows same.firstKind (value.begins_expression.first behind) rfl).elim
    | printedValue value' =>
      have newline : (firstKind behind).endsExpression = true := by rw [eq_of_beq h]; rfl
      have newline' : (firstKind behind').endsExpression = true := by rw [eq_of_beq h']; rfl
      obtain ⟨rfl, rest⟩ := ih _ _ _ same newline newline'
      exact ⟨rfl, rest⟩
  | noElse =>
    intro other behind behind' same h h'
    cases other with
    | noElse => exact ⟨rfl, same⟩
    | otherwise blank inner =>
      exact (not_follows (p := Category.otherwise.follows) same.firstKind h rfl).elim
  | otherwise blank inner ih =>
    intro other behind behind' same h h'
    cases other with
    | noElse =>
      exact (not_follows (p := Category.otherwise.follows) same.firstKind.symm h' rfl).elim
    | otherwise blank' inner' =>
      have ends : (firstKind behind).endsBody = true := by rw [eq_of_beq h]; rfl
      have ends' : (firstKind behind').endsBody = true := by rw [eq_of_beq h']; rfl
      simp only [leaves, List.append_assoc, List.cons_append] at same
      obtain ⟨rfl, rest⟩ := lineLeaves_unique same.tail
        (not_newline_of_body inner ends) (not_newline_of_body inner' ends')
      obtain ⟨rfl, rest'⟩ := ih _ _ _ rest ends ends'
      exact ⟨rfl, rest'⟩
  | noParameters =>
    intro other behind behind' same h h'
    cases other with
    | noParameters => exact ⟨rfl, same⟩
    | parameters first others =>
      exact (not_follows (p := Category.parameters.follows) same.firstKind h rfl).elim
  | parameters first others ih =>
    intro other behind behind' same h h'
    cases other with
    | noParameters =>
      exact (not_follows (p := Category.parameters.follows) same.firstKind.symm h' rfl).elim
    | parameters first' others' =>
      obtain rfl : first = first' := same.text
      obtain ⟨rfl, rest⟩ := ih _ _ _ same.tail h h'
      exact ⟨rfl, rest⟩
  | lastParameter =>
    intro other behind behind' same h h'
    cases other with
    | lastParameter => exact ⟨rfl, same⟩
    | nextParameter name others =>
      exact (not_follows (p := Category.parameters.follows) same.firstKind h rfl).elim
  | nextParameter name others ih =>
    intro other behind behind' same h h'
    cases other with
    | lastParameter =>
      exact (not_follows (p := Category.parameters.follows) same.firstKind.symm h' rfl).elim
    | nextParameter name' others' =>
      obtain rfl : name = name' := same.tail.text
      obtain ⟨rfl, rest⟩ := ih _ _ _ same.tail.tail h h'
      exact ⟨rfl, rest⟩
  | condition first others ih ih' =>
    intro other behind behind' same h h'
    cases other with
    | condition first' others' =>
      simp only [leaves, List.append_assoc] at same
      obtain ⟨rfl, rest⟩ := ih _ _ _ same (endsConjunction_of_moreConjunctions others h)
        (endsConjunction_of_moreConjunctions others' h')
      obtain ⟨rfl, rest'⟩ := ih' _ _ _ rest h h'
      exact ⟨rfl, rest'⟩
  | lastConjunction =>
    intro other behind behind' same h h'
    cases other with
    | lastConjunction => exact ⟨rfl, same⟩
    | nextConjunction next others =>
      exact (not_follows (p := Token.Kind.endsCondition) same.firstKind h rfl).elim
  | nextConjunction next others ih ih' =>
    intro other behind behind' same h h'
    cases other with
    | lastConjunction =>
      exact (not_follows (p := Token.Kind.endsCondition) same.firstKind.symm h' rfl).elim
    | nextConjunction next' others' =>
      simp only [leaves, List.append_assoc, List.cons_append] at same
      obtain ⟨rfl, rest⟩ := ih _ _ _ same.tail (endsConjunction_of_moreConjunctions others h)
        (endsConjunction_of_moreConjunctions others' h')
      obtain ⟨rfl, rest'⟩ := ih' _ _ _ rest h h'
      exact ⟨rfl, rest'⟩
  | conjunction first others ih ih' =>
    intro other behind behind' same h h'
    cases other with
    | conjunction first' others' =>
      simp only [leaves, List.append_assoc] at same
      obtain ⟨rfl, rest⟩ := ih _ _ _ same (endsConjunct_of_moreConjuncts others h)
        (endsConjunct_of_moreConjuncts others' h')
      obtain ⟨rfl, rest'⟩ := ih' _ _ _ rest h h'
      exact ⟨rfl, rest'⟩
  | lastConjunct =>
    intro other behind behind' same h h'
    cases other with
    | lastConjunct => exact ⟨rfl, same⟩
    | nextConjunct next others =>
      exact (not_follows (p := Token.Kind.endsConjunction) same.firstKind h rfl).elim
  | nextConjunct next others ih ih' =>
    intro other behind behind' same h h'
    cases other with
    | lastConjunct =>
      exact (not_follows (p := Token.Kind.endsConjunction) same.firstKind.symm h' rfl).elim
    | nextConjunct next' others' =>
      simp only [leaves, List.append_assoc, List.cons_append] at same
      obtain ⟨rfl, rest⟩ := ih _ _ _ same.tail (endsConjunct_of_moreConjuncts others h)
        (endsConjunct_of_moreConjuncts others' h')
      obtain ⟨rfl, rest'⟩ := ih' _ _ _ rest h h'
      exact ⟨rfl, rest'⟩
  | not negated ih =>
    intro other behind behind' same h h'
    cases other with
    | not negated' =>
      obtain ⟨rfl, rest⟩ := ih _ _ _ same.tail h h'
      exact ⟨rfl, rest⟩
    | group test => cases same.kind
    | compared relation => exact (not_begins_expression same.firstKind.symm rfl).elim
  | group test ih =>
    intro other behind behind' same h h'
    cases other with
    | not negated => cases same.kind
    | group test' =>
      simp only [leaves, List.append_assoc, List.cons_append, List.nil_append] at same
      obtain ⟨rfl, rest⟩ := ih _ _ _ same.tail rfl rfl
      exact ⟨rfl, rest.tail⟩
    | compared relation => exact (not_begins_expression same.firstKind.symm rfl).elim
  | compared relation ih =>
    intro other behind behind' same h h'
    cases other with
    | not negated => exact (not_begins_expression same.firstKind rfl).elim
    | group test => exact (not_begins_expression same.firstKind rfl).elim
    | compared relation' =>
      obtain ⟨rfl, rest⟩ := ih _ _ _ same h h'
      exact ⟨rfl, rest⟩
  | comparison left right ih ih' =>
    intro other behind behind' same h h'
    cases other with
    | comparison left' right' =>
      simp only [leaves, List.append_assoc] at same
      obtain ⟨rfl, rest⟩ := ih _ _ _ same (endsExpression_of_rightSide right)
        (endsExpression_of_rightSide right')
      obtain ⟨rfl, rest'⟩ := ih' _ _ _ rest h h'
      exact ⟨rfl, rest'⟩
  | rightSide operator compares right others ih ih' =>
    intro other behind behind' same h h'
    cases other with
    | rightSide operator' compares' right' others' =>
      simp only [leaves, List.append_assoc, List.cons_append] at same
      obtain rfl : operator = operator' := same.kind
      obtain ⟨rfl, rest⟩ := ih _ _ _ same.tail (endsExpression_of_moreRightSides others h)
        (endsExpression_of_moreRightSides others' h')
      obtain ⟨rfl, rest'⟩ := ih' _ _ _ rest h h'
      exact ⟨rfl, rest'⟩
  | lastRightSide =>
    intro other behind behind' same h h'
    cases other with
    | lastRightSide => exact ⟨rfl, same⟩
    | nextRightSide next =>
      have compares := next.begins_rightSide.first behind'
      exact (not_follows same.firstKind h
        (Token.Kind.not_endsConjunct_of_isComparison compares)).elim
  | nextRightSide next ih =>
    intro other behind behind' same h h'
    cases other with
    | lastRightSide =>
      have compares := next.begins_rightSide.first behind
      exact (not_follows same.firstKind.symm h'
        (Token.Kind.not_endsConjunct_of_isComparison compares)).elim
    | nextRightSide next' =>
      obtain ⟨rfl, rest⟩ := ih _ _ _ same h h'
      exact ⟨rfl, rest⟩
  | expression first others ih ih' =>
    intro other behind behind' same h h'
    cases other with
    | expression first' others' =>
      simp only [leaves, List.append_assoc] at same
      obtain ⟨rfl, rest⟩ := ih _ _ _ same (endsTerm_of_moreTerms others h)
        (endsTerm_of_moreTerms others' h')
      obtain ⟨rfl, rest'⟩ := ih' _ _ _ rest h h'
      exact ⟨rfl, rest'⟩
  | lastTerm =>
    intro other behind behind' same h h'
    cases other with
    | lastTerm => exact ⟨rfl, same⟩
    | nextTerm sign signs next others =>
      exact (not_follows same.firstKind h (Token.Kind.not_endsExpression_of_isSign signs)).elim
  | nextTerm sign signs next others ih ih' =>
    intro other behind behind' same h h'
    cases other with
    | lastTerm =>
      exact (not_follows same.firstKind.symm h'
        (Token.Kind.not_endsExpression_of_isSign signs)).elim
    | nextTerm sign' signs' next' others' =>
      simp only [leaves, List.append_assoc, List.cons_append] at same
      obtain rfl : sign = sign' := same.kind
      obtain ⟨rfl, rest⟩ := ih _ _ _ same.tail (endsTerm_of_moreTerms others h)
        (endsTerm_of_moreTerms others' h')
      obtain ⟨rfl, rest'⟩ := ih' _ _ _ rest h h'
      exact ⟨rfl, rest'⟩
  | term first others ih ih' =>
    intro other behind behind' same h h'
    cases other with
    | term first' others' =>
      simp only [leaves, List.append_assoc] at same
      obtain ⟨rfl, rest⟩ := ih _ _ _ same (endsFactor_of_moreFactors others h)
        (endsFactor_of_moreFactors others' h')
      obtain ⟨rfl, rest'⟩ := ih' _ _ _ rest h h'
      exact ⟨rfl, rest'⟩
  | lastFactor =>
    intro other behind behind' same h h'
    cases other with
    | lastFactor => exact ⟨rfl, same⟩
    | nextFactor operator multiplies next others =>
      exact (not_follows same.firstKind h
        (Token.Kind.not_endsTerm_of_isFactorOperator multiplies)).elim
  | nextFactor operator multiplies next others ih ih' =>
    intro other behind behind' same h h'
    cases other with
    | lastFactor =>
      exact (not_follows same.firstKind.symm h'
        (Token.Kind.not_endsTerm_of_isFactorOperator multiplies)).elim
    | nextFactor operator' multiplies' next' others' =>
      simp only [leaves, List.append_assoc, List.cons_append] at same
      obtain rfl : operator = operator' := same.kind
      obtain ⟨rfl, rest⟩ := ih _ _ _ same.tail (endsFactor_of_moreFactors others h)
        (endsFactor_of_moreFactors others' h')
      obtain ⟨rfl, rest'⟩ := ih' _ _ _ rest h h'
      exact ⟨rfl, rest'⟩
  | plain operand ih =>
    intro other behind behind' same h h'
    cases other with
    | plain operand' =>
      obtain ⟨rfl, rest⟩ := ih _ _ _ same h h'
      exact ⟨rfl, rest⟩
    | signed sign signs operand' =>
      exact (not_operand same.firstKind signs (operand.begins_primary.first behind)).elim
  | signed sign signs operand ih =>
    intro other behind behind' same h h'
    cases other with
    | plain operand' =>
      exact (not_operand same.firstKind.symm signs (operand'.begins_primary.first behind')).elim
    | signed sign' signs' operand' =>
      obtain rfl : sign = sign' := same.kind
      obtain ⟨rfl, rest⟩ := ih _ _ _ same.tail h h'
      exact ⟨rfl, rest⟩
  | number text =>
    intro other behind behind' same h h'
    cases other with
    | number text' =>
      obtain rfl : text = text' := same.text
      exact ⟨rfl, same.tail⟩
    | read name => cases same.kind
    | called application => cases application; cases same.kind
  | read name =>
    intro other behind behind' same h h'
    cases other with
    | number text => cases same.kind
    | read name' =>
      obtain rfl : name = name' := same.text
      exact ⟨rfl, same.tail⟩
    | called application =>
      obtain ⟨name', values⟩ := application
      exact (not_follows (p := Token.Kind.endsFactor) same.tail.firstKind h rfl).elim
  | called application ih =>
    intro other behind behind' same h h'
    cases other with
    | number text => cases application; cases same.kind
    | read name =>
      obtain ⟨name', values⟩ := application
      exact (not_follows (p := Token.Kind.endsFactor) same.tail.firstKind.symm h' rfl).elim
    | called application' =>
      obtain ⟨rfl, rest⟩ := ih _ _ _ same rfl rfl
      exact ⟨rfl, rest⟩
  | call name values ih =>
    intro other behind behind' same h h'
    cases other with
    | call name' values' =>
      simp only [leaves, List.append_assoc, List.cons_append, List.nil_append] at same
      obtain rfl : name = name' := same.text
      obtain ⟨rfl, rest⟩ := ih _ _ _ same.tail.tail rfl rfl
      exact ⟨rfl, rest.tail⟩
  | noArguments =>
    intro other behind behind' same h h'
    cases other with
    | noArguments => exact ⟨rfl, same⟩
    | arguments first others =>
      simp only [leaves, List.append_assoc] at same
      exact (not_argument same.firstKind h (first.begins_expression.first _)).elim
  | arguments first others ih ih' =>
    intro other behind behind' same h h'
    cases other with
    | noArguments =>
      simp only [leaves, List.append_assoc] at same
      exact (not_argument same.firstKind.symm h' (first.begins_expression.first _)).elim
    | arguments first' others' =>
      simp only [leaves, List.append_assoc] at same
      obtain ⟨rfl, rest⟩ := ih _ _ _ same (endsExpression_of_moreArguments others (eq_of_beq h))
        (endsExpression_of_moreArguments others' (eq_of_beq h'))
      obtain ⟨rfl, rest'⟩ := ih' _ _ _ rest h h'
      exact ⟨rfl, rest'⟩
  | lastArgument =>
    intro other behind behind' same h h'
    cases other with
    | lastArgument => exact ⟨rfl, same⟩
    | nextArgument next others =>
      exact (not_follows (p := Category.arguments.follows) same.firstKind h rfl).elim
  | nextArgument next others ih ih' =>
    intro other behind behind' same h h'
    cases other with
    | lastArgument =>
      exact (not_follows (p := Category.arguments.follows) same.firstKind.symm h' rfl).elim
    | nextArgument next' others' =>
      simp only [leaves, List.append_assoc, List.cons_append] at same
      obtain ⟨rfl, rest⟩ := ih _ _ _ same.tail
        (endsExpression_of_moreArguments others (eq_of_beq h))
        (endsExpression_of_moreArguments others' (eq_of_beq h'))
      obtain ⟨rfl, rest'⟩ := ih' _ _ _ rest h h'
      exact ⟨rfl, rest'⟩

end Tree

end Offside
