import Offside.Proofs.Grammar.Follow

/-!
# What stands side by side in a line

Operators lose their spaces when a line is written, so it has to be known which
words may stand next to each other: a name is never followed by another name, a
number never by a digit, and `<` never by `=`. One more thing has to be known of
three words, because `AND`, `OR` and `NOT` are written as words that might be
names. `NOT` stands only where a comparison may begin. A name in such a place is
the beginning of a comparison, so it is not followed by `AND` or `OR`, which
stand behind whole comparisons.
-/

namespace Offside

namespace Token.Kind

/-- Whether a comparison may begin behind a word of this kind. -/
def opens : Token.Kind → Bool
  | .openParen | .keyword .and | .keyword .or | .keyword .not => true
  | _ => false

/-- The words that are written with a space before them. -/
def isSpaced : Token.Kind → Bool
  | .keyword .and | .keyword .or | .assign => true
  | _ => false

/-- The kinds of word that stand within a line. -/
def isWritten : Token.Kind → Bool
  | .number | .identifier | .stringLiteral | .keyword .and | .keyword .or | .keyword .not
  | .assign | .openParen | .closeParen | .comma => true
  | kind => kind.isOperator

/-- Whether a word may stand in a line with a word of another kind right behind it. The flag tells
whether a comparison may begin with it. -/
def precedes (opening : Bool) (kind next : Token.Kind) : Bool :=
  match kind with
  | .number => next.endsFactor
  | .identifier =>
    (next.endsFactor || next == .openParen || next == .assign) && !(opening && next.isSpaced)
  | .keyword .not => opening
  | .openParen | .closeParen | .comma | .keyword .and | .keyword .or | .stringLiteral => true
  | .assign => next.beginsExpression
  | kind => kind.isOperator && next.beginsExpression

end Token.Kind

/-- Each word may stand in a line before the one behind it. Nothing is said of the last word, which
may stand for the end of the line. -/
def Apart : (opening : Bool) → List Leaf → Prop
  | opening, leaf :: next :: leaves =>
    leaf.kind.precedes opening next.kind = true ∧ Apart leaf.kind.opens (next :: leaves)
  | _, _ => True

section

variable {opening : Bool} {leaf : Leaf} {leaves behind : List Leaf}

theorem apart_cons (h : leaf.kind.precedes opening (firstKind leaves) = true)
    (h' : Apart leaf.kind.opens leaves) : Apart opening (leaf :: leaves) := by
  cases leaves with
  | nil => trivial
  | cons next leaves => exact ⟨h, h'⟩

end

/-- What has to be known of a place in a line where a tree of a category stands: whether a
comparison may begin there, and which kind stands behind the tree. -/
def Category.fits (category : Category) (opening : Bool) (next : Token.Kind) : Prop :=
  match category with
  | .condition | .conjunction | .conjunct => opening = true
  | .printed | .expression | .term | .factor | .primary => opening = true → next.isSpaced = false
  | _ => True

namespace Token.Kind

variable {opening : Bool} {kind next : Token.Kind}

theorem isWritten_of_precedes (h : kind.precedes opening next = true) :
    kind.isWritten = true := by
  cases kind with
  | keyword word => cases word <;> first | rfl | cases h
  | endOfInput | newline => cases h
  | _ => rfl

theorem precedes_of_isOperator (h : kind.isOperator = true)
    (begins : next.beginsExpression = true) : kind.precedes opening next = true := by
  cases kind <;> first | exact begins | cases h

theorem precedes_identifier (h : next.endsFactor = true)
    (unspaced : opening = true → next.isSpaced = false) :
    identifier.precedes opening next = true := by
  cases opening with
  | false => simp [precedes, h]
  | true => simp [precedes, h, unspaced rfl]

theorem opens_of_isOperator (h : kind.isOperator = true) : kind.opens = false := by
  cases kind <;> first | rfl | cases h

theorem unspaced_of_isOperator (h : kind.isOperator = true) : kind.isSpaced = false := by
  cases kind <;> first | rfl | cases h

end Token.Kind

namespace Tree

open Token.Kind

variable {behind : List Leaf}

theorem moreParameters_next (tree : Tree .moreParameters) (h : firstKind behind = .closeParen) :
    firstKind (tree.leaves ++ behind) = .comma ∨
      firstKind (tree.leaves ++ behind) = .closeParen := by
  cases tree with
  | lastParameter => exact .inr h
  | nextParameter name others => exact .inl rfl

theorem moreArguments_next (tree : Tree .moreArguments) (h : firstKind behind = .closeParen) :
    firstKind (tree.leaves ++ behind) = .comma ∨
      firstKind (tree.leaves ++ behind) = .closeParen := by
  cases tree with
  | lastArgument => exact .inr h
  | nextArgument next others => exact .inl rfl

theorem unspaced_moreTerms (tree : Tree .moreTerms) (h : (firstKind behind).isSpaced = false) :
    (firstKind (tree.leaves ++ behind)).isSpaced = false := by
  cases tree with
  | lastTerm => exact h
  | nextTerm sign signs next others => exact unspaced_of_isOperator (isOperator_of_isSign signs)

theorem unspaced_moreFactors (tree : Tree .moreFactors)
    (h : (firstKind behind).isSpaced = false) :
    (firstKind (tree.leaves ++ behind)).isSpaced = false := by
  cases tree with
  | lastFactor => exact h
  | nextFactor operator multiplies next others =>
    exact unspaced_of_isOperator (isOperator_of_isFactorOperator multiplies)

theorem unspaced_rightSide (tree : Tree .rightSide) :
    (firstKind (tree.leaves ++ behind)).isSpaced = false := by
  cases tree with
  | rightSide operator compares right others =>
    exact unspaced_of_isOperator (isOperator_of_isComparison compares)

/-- A parameter is followed by a comma or a parenthesis. -/
theorem precedes_parameter {opening : Bool} (others : Tree .moreParameters)
    (h : firstKind behind = .closeParen) :
    identifier.precedes opening (firstKind (others.leaves ++ behind)) = true := by
  rcases others.moreParameters_next h with next | next
  · rw [next]
    exact precedes_identifier rfl fun _ => rfl
  · rw [next]
    exact precedes_identifier rfl fun _ => rfl

/-- The words of a tree that stands within a line may stand side by side, if those behind it may and
the tree fits into its place. -/
theorem apart {category : Category} (tree : Tree category) (inline_ : category.isInline = true) :
    ∀ {opening : Bool} {behind : List Leaf}, category.follows (firstKind behind) = true →
      category.fits opening (firstKind behind) → (∀ opening, Apart opening behind) →
      Apart opening (tree.leaves ++ behind) := by
  induction tree with
  | program | blankLines | noStatement | nextStatement | statement | body | print | branch | loop
  | function | assign | input | giveBack | noElse | otherwise => cases inline_
  | noParameters | lastParameter | lastConjunction | lastConjunct | lastRightSide | lastTerm
  | lastFactor | noArguments | lastArgument => exact fun _ _ h => h _
  | literal text =>
    intro opening behind ends fits h
    exact apart_cons rfl (h _)
  | number text =>
    intro opening behind ends fits h
    exact apart_cons ends (h _)
  | read name =>
    intro opening behind ends fits h
    exact apart_cons (precedes_identifier ends fits) (h _)
  | printedValue value ih =>
    intro opening behind ends fits h
    exact ih rfl (by rw [eq_of_beq ends]; rfl) fits h
  | compared relation ih =>
    intro opening behind ends fits h
    exact ih rfl ends trivial h
  | nextRightSide next ih =>
    intro opening behind ends fits h
    exact ih rfl ends trivial h
  | plain operand ih =>
    intro opening behind ends fits h
    exact ih rfl ends fits h
  | called application ih =>
    intro opening behind ends fits h
    exact ih rfl rfl trivial h
  | parameters first others ih =>
    intro opening behind ends fits h
    exact apart_cons (precedes_parameter others (eq_of_beq ends)) (ih rfl ends trivial h)
  | nextParameter name others ih =>
    intro opening behind ends fits h
    exact apart_cons rfl (apart_cons (precedes_parameter others (eq_of_beq ends))
      (ih rfl ends trivial h))
  | condition first others ih ih' =>
    intro opening behind ends fits h
    rw [leaves, List.append_assoc]
    exact ih rfl (endsConjunction_of_moreConjunctions others ends) fits
      fun opening => ih' rfl ends trivial h
  | nextConjunction next others ih ih' =>
    intro opening behind ends fits h
    rw [leaves, List.cons_append, List.append_assoc]
    exact apart_cons rfl (ih rfl (endsConjunction_of_moreConjunctions others ends) rfl
      fun opening => ih' rfl ends trivial h)
  | conjunction first others ih ih' =>
    intro opening behind ends fits h
    rw [leaves, List.append_assoc]
    exact ih rfl (endsConjunct_of_moreConjuncts others ends) fits
      fun opening => ih' rfl ends trivial h
  | nextConjunct next others ih ih' =>
    intro opening behind ends fits h
    rw [leaves, List.cons_append, List.append_assoc]
    exact apart_cons rfl (ih rfl (endsConjunct_of_moreConjuncts others ends) rfl
      fun opening => ih' rfl ends trivial h)
  | not negated ih =>
    intro opening behind ends fits h
    exact apart_cons fits (ih rfl ends rfl h)
  | group test ih =>
    intro opening behind ends fits h
    rw [leaves, List.cons_append, List.append_assoc]
    exact apart_cons rfl (ih rfl rfl rfl fun opening => apart_cons rfl (h _))
  | comparison left right ih ih' =>
    intro opening behind ends fits h
    rw [leaves, List.append_assoc]
    exact ih rfl (endsExpression_of_rightSide right) (fun _ => unspaced_rightSide right)
      fun opening => ih' rfl ends trivial h
  | rightSide operator compares right others ih ih' =>
    intro opening behind ends fits h
    rw [leaves, List.cons_append, List.append_assoc]
    refine apart_cons (precedes_of_isOperator (isOperator_of_isComparison compares)
        (right.begins_expression.first _))
      (ih rfl (endsExpression_of_moreRightSides others ends) ?_
        fun opening => ih' rfl ends trivial h)
    intro opens
    rw [Leaf.kind_fixed, opens_of_isOperator (isOperator_of_isComparison compares)] at opens
    cases opens
  | expression first others ih ih' =>
    intro opening behind ends fits h
    rw [leaves, List.append_assoc]
    exact ih rfl (endsTerm_of_moreTerms others ends)
      (fun opens => unspaced_moreTerms others (fits opens)) fun opening => ih' rfl ends trivial h
  | nextTerm sign signs next others ih ih' =>
    intro opening behind ends fits h
    rw [leaves, List.cons_append, List.append_assoc]
    refine apart_cons (precedes_of_isOperator (isOperator_of_isSign signs)
        (next.begins_term.first _))
      (ih rfl (endsTerm_of_moreTerms others ends) ?_ fun opening => ih' rfl ends trivial h)
    intro opens
    rw [Leaf.kind_fixed, opens_of_isOperator (isOperator_of_isSign signs)] at opens
    cases opens
  | term first others ih ih' =>
    intro opening behind ends fits h
    rw [leaves, List.append_assoc]
    exact ih rfl (endsFactor_of_moreFactors others ends)
      (fun opens => unspaced_moreFactors others (fits opens)) fun opening => ih' rfl ends trivial h
  | nextFactor operator multiplies next others ih ih' =>
    intro opening behind ends fits h
    rw [leaves, List.cons_append, List.append_assoc]
    refine apart_cons (precedes_of_isOperator (isOperator_of_isFactorOperator multiplies)
        (next.begins_factor.first _))
      (ih rfl (endsFactor_of_moreFactors others ends) ?_ fun opening => ih' rfl ends trivial h)
    intro opens
    rw [Leaf.kind_fixed, opens_of_isOperator (isOperator_of_isFactorOperator multiplies)] at opens
    cases opens
  | signed sign signs operand ih =>
    intro opening behind ends fits h
    have begins := operand.begins_primary.first behind
    refine apart_cons (precedes_of_isOperator (isOperator_of_isSign signs)
        (by simp [beginsExpression, begins]))
      (ih rfl ends ?_ h)
    intro opens
    rw [Leaf.kind_fixed, opens_of_isOperator (isOperator_of_isSign signs)] at opens
    cases opens
  | call name values ih =>
    intro opening behind ends fits h
    rw [leaves, List.cons_append, List.cons_append, List.append_assoc]
    exact apart_cons (by cases opening <;> rfl) (apart_cons rfl
      (ih rfl rfl trivial fun opening => apart_cons rfl (h _)))
  | arguments first others ih ih' =>
    intro opening behind ends fits h
    rw [leaves, List.append_assoc]
    refine ih rfl (endsExpression_of_moreArguments others (eq_of_beq ends)) (fun _ => ?_)
      fun opening => ih' rfl ends trivial h
    rcases others.moreArguments_next (eq_of_beq ends) with next | next <;> rw [next] <;> rfl
  | nextArgument next others ih ih' =>
    intro opening behind ends fits h
    rw [leaves, List.cons_append, List.append_assoc]
    refine apart_cons rfl (ih rfl (endsExpression_of_moreArguments others (eq_of_beq ends)) ?_
      fun opening => ih' rfl ends trivial h)
    intro opens
    cases opens

end Tree

section

variable {leaf last : Leaf} {leaves : List Leaf} {opening : Bool}

theorem apart_head (apart : Apart opening (leaf :: leaves ++ [last])) :
    leaf.kind.precedes opening (firstKind (leaves ++ [last])) = true ∧
      Apart leaf.kind.opens (leaves ++ [last]) := by
  cases leaves with
  | nil => exact apart
  | cons next leaves => exact apart

theorem isWritten_of_apart (apart : Apart opening (leaves ++ [last])) :
    ∀ leaf ∈ leaves, leaf.kind.isWritten = true := by
  induction leaves generalizing opening with
  | nil => nofun
  | cons first leaves ih =>
    obtain ⟨precedes, apart⟩ := apart_head apart
    intro leaf member
    rcases List.mem_cons.1 member with rfl | member
    · exact Token.Kind.isWritten_of_precedes precedes
    · exact ih apart leaf member

end

/-- There is a place in a line for each category, at the beginning of a condition and before a
closing parenthesis. What is printed has a line for itself. -/
theorem Category.exists_place {category : Category} (inline_ : category.isInline = true) :
    ∃ kind, category.follows kind = true ∧ category.fits true kind := by
  cases category with
  | program | blankLines | statements | statement | command | body | otherwise => cases inline_
  | printed => exact ⟨.newline, rfl, fun _ => rfl⟩
  | condition | conjunction | conjunct => exact ⟨.closeParen, rfl, rfl⟩
  | expression | term | factor | primary => exact ⟨.closeParen, rfl, fun _ => rfl⟩
  | _ => exact ⟨.closeParen, rfl, trivial⟩

/-- Only words that stand within a line are found in a tree that stands within one. -/
theorem Tree.isWritten_of_mem_leaves {category : Category} (tree : Tree category)
    (inline_ : category.isInline = true) :
    ∀ leaf ∈ tree.leaves, leaf.kind.isWritten = true := by
  obtain ⟨kind, follows, fits⟩ := Category.exists_place inline_
  have apart : Apart true (tree.leaves ++ [.fixed kind]) :=
    tree.apart inline_ follows fits fun _ => trivial
  exact isWritten_of_apart apart

end Offside
