import Offside.Proofs.Grammar.Follow
import Offside.Proofs.Session.Covers

/-!
# A tree is never refused

`Awaits` is what the symbols that are still to come accept of a text that is
known to its end: they await the leaves of some tree for each phrase, and behind
the tree a word that may stand behind the phrase. The token at hand is then
enough to find the production that the tree has. Where the next word of an
awaited text is the token at hand, nothing is refused, and the symbols that are
put in the place of the phrase await what the phrase awaited.

An operand takes two words, since a name and a call begin alike.
-/

namespace Offside

/-- What may stand behind a phrase in its place in a program. -/
def Phrase.follows : Phrase → Token.Kind → Bool
  | .statements, kind => kind == .endOfInput
  | .block which, kind | .blockBody which, kind | .moreStatements which, kind => which.endsAt kind
  | phrase, kind => phrase.category.follows kind

/-- The symbols await these leaves, and then the end of the input. -/
def Awaits : List Symbol → (inFunction : Bool) → List Leaf → Prop
  | [], _, leaves => leaves = []
  | .expect terminal :: symbols, inFunction, leaves =>
    ∃ others, leaves = .fixed terminal.kind :: others ∧ Awaits symbols inFunction others
  | .declare role :: symbols, inFunction, leaves =>
    ∃ name others, leaves = .declared role name :: others ∧ Awaits symbols inFunction others
  | .phrase phrase :: symbols, inFunction, leaves =>
    ∃ (tree : Tree phrase.category) (others : List Leaf), leaves = tree.leaves ++ others ∧
      tree.ReturnsBelong inFunction ∧ phrase.follows (firstKind others) = true ∧
      Awaits symbols inFunction others
  | .setInFunction inFunction :: symbols, _, leaves => Awaits symbols inFunction leaves
  | _ :: symbols, inFunction, leaves => Awaits symbols inFunction leaves

/-- The first of the words at some leaves, behind which the input ends. -/
def firstWord : List Leaf → Word
  | [] => .last
  | leaf :: _ => leaf.word

theorem kind_firstWord (leaves : List Leaf) : (firstWord leaves).kind = firstKind leaves := by
  cases leaves <;> rfl

theorem Tree.returnsBelong_of_isInline {category : Category} {inFunction : Bool}
    (inline_ : category.isInline = true) (tree : Tree category) :
    tree.ReturnsBelong inFunction := by
  cases tree <;> trivial

section

variable {symbol : Symbol} {symbols rest : List Symbol} {inFunction : Bool} {leaves : List Leaf}

theorem awaits_silent (target : Target) (work : Work) (silent : symbol.isSilent = true)
    (awaits : Awaits (symbol :: symbols) work.inFunction leaves) :
    Awaits symbols (symbol.effect target work).inFunction leaves := by
  cases symbol with
  | expect terminal => cases silent
  | declare role => cases silent
  | phrase phrase => cases silent
  | _ => exact awaits

theorem awaits_lineEnd (blank : Nat) (awaits : Awaits rest inFunction leaves)
    (h : firstKind leaves ≠ .newline) :
    Awaits (Outlook.lineEnd ++ rest) inFunction (lineLeaves blank ++ leaves) :=
  ⟨_, rfl, .blankLines blank, leaves, rfl, trivial, bne_iff_ne.2 h, awaits⟩

end

namespace Token.Kind

theorem endsBody_of_endsAt {block : Block} {kind : Token.Kind} (h : block.endsAt kind = true) :
    kind.endsBody = true := by
  cases block <;> simp [Block.endsAt, Block.ends] at h
  · rcases h with rfl | rfl <;> rfl
  all_goals rw [h]; rfl

theorem not_endsAt_of_beginsCommand {block : Block} {kind : Token.Kind}
    (h : kind.beginsCommand = true) : block.endsAt kind = false := by
  cases ends : block.endsAt kind with
  | false => rfl
  | true =>
    have ends := endsBody_of_endsAt ends
    rw [not_endsBody_of_beginsCommand h] at ends
    cases ends

/-- What holds of one kind and not of another tells them apart. -/
theorem ne_of_holds {p : Token.Kind → Bool} {kind other : Token.Kind} (h : p kind = true)
    (not : p other = false) : kind ≠ other := by
  intro same
  rw [← same, h] at not
  cases not

theorem not_of_disjoint {p q : Token.Kind → Bool} {kind : Token.Kind} (h : p kind = true)
    (disjoint : ∀ {kind : Token.Kind}, q kind = true → p kind = false) : ¬q kind = true := by
  intro holds
  rw [disjoint holds] at h
  cases h

end Token.Kind

namespace Outlook

open Token.Kind

variable {o : Outlook} {prediction : Prediction} {rest more : List Symbol}
  {leaves others : List Leaf}

/-- The prediction goes on with the leaves. -/
def Meets (o : Outlook) (rest : List Symbol) (leaves : List Leaf) : Prediction → Prop
  | .derive symbols => Awaits (symbols ++ rest) o.inFunction leaves
  | .take symbols | .copy symbols =>
    ∃ others, leaves = o.current.leaf :: others ∧ Awaits (symbols ++ rest) o.inFunction others
  | .refuse _ => False

theorem Meets.followedBy (h : o.Meets (more ++ rest) leaves prediction) :
    o.Meets rest leaves (prediction.followedBy more) := by
  cases prediction with
  | refuse fault => exact h
  | derive symbols =>
    show Awaits (symbols ++ more ++ rest) _ _
    rw [List.append_assoc]
    exact h
  | _ =>
    obtain ⟨others, same, awaits⟩ := h
    refine ⟨others, same, ?_⟩
    rw [List.append_assoc]
    exact awaits

/-- The token at hand is the first word. -/
def Fits (o : Outlook) (leaves : List Leaf) : Prop := o.current.word = firstWord leaves

theorem Fits.kind (fits : o.Fits leaves) : o.current.kind = firstKind leaves := by
  rw [← kind_firstWord, ← fits]
  rfl

theorem meets_statement {command : Tree .command} (fits : o.Fits (command.leaves ++ others))
    (belongs : command.ReturnsBelong o.inFunction) (newline : firstKind others = .newline)
    (awaits : Awaits rest o.inFunction others) :
    o.Meets rest (command.leaves ++ others) o.statement := by
  have is := fits.kind
  have endsExpression : (firstKind others).endsExpression = true := by rw [newline]; rfl
  cases command with
  | print printed =>
    have is : o.current.kind = .keyword .print := is
    simp only [statement, is]
    refine ⟨printed.leaves ++ others, ?_, printed, others, rfl,
      Tree.returnsBelong_of_isInline rfl _, beq_iff_eq.2 newline, awaits⟩
    rw [Session.leaf_of_kind is rfl]
    rfl
  | branch test blank consequent alternative =>
    have is : o.current.kind = .keyword .if := is
    obtain ⟨belongs, belongs'⟩ := belongs
    simp only [statement, is]
    have ends : Block.consequent.endsAt (firstKind
        (alternative.leaves ++ .fixed (.keyword .endIf) :: others)) = true := by
      cases alternative <;> rfl
    refine ⟨_, ?_, test, _, rfl, Tree.returnsBelong_of_isInline rfl _, rfl, _, rfl,
      awaits_lineEnd blank ⟨consequent, _, rfl, belongs, ends, alternative, _, rfl, belongs', rfl,
        _, rfl, awaits⟩ (Tree.not_newline_of_body consequent (Token.Kind.endsBody_of_endsAt ends))⟩
    rw [Session.leaf_of_kind is rfl]
    simp only [Tree.leaves, List.append_assoc, List.cons_append, List.nil_append]
    rfl
  | loop test blank inner =>
    have is : o.current.kind = .keyword .while := is
    simp only [statement, is]
    refine ⟨_, ?_, test, _, rfl, Tree.returnsBelong_of_isInline rfl _, rfl, _, rfl,
      awaits_lineEnd blank ⟨inner, .fixed (.keyword .endWhile) :: others, rfl, belongs, rfl, _, rfl,
        awaits⟩ (Tree.not_newline_of_body inner rfl)⟩
    rw [Session.leaf_of_kind is rfl]
    simp only [Tree.leaves, List.append_assoc, List.cons_append, List.nil_append]
    rfl
  | function name names blank inner =>
    have is : o.current.kind = .keyword .func := is
    simp only [statement, is]
    refine ⟨_, ?_, name, _, rfl, _, rfl, names, _, rfl, Tree.returnsBelong_of_isInline rfl _,
      rfl, _, rfl, awaits_lineEnd blank ⟨inner, .fixed (.keyword .endFunc) :: others, rfl, belongs,
        rfl, _, rfl, awaits⟩ (Tree.not_newline_of_body inner rfl)⟩
    rw [Session.leaf_of_kind is rfl]
    simp only [Tree.leaves, List.append_assoc, List.cons_append, List.nil_append]
    rfl
  | assign name value =>
    have is : o.current.kind = .keyword .let := is
    simp only [statement, is]
    refine ⟨_, ?_, name, _, rfl, _, rfl, value, others, rfl, Tree.returnsBelong_of_isInline rfl _,
      endsExpression, awaits⟩
    rw [Session.leaf_of_kind is rfl]
    rfl
  | input name =>
    have is : o.current.kind = .keyword .input := is
    simp only [statement, is]
    refine ⟨_, ?_, name, others, rfl, awaits⟩
    rw [Session.leaf_of_kind is rfl]
    rfl
  | giveBack value =>
    have is : o.current.kind = .keyword .return := is
    have inFunction : o.inFunction = true := belongs
    simp only [statement, is, inFunction, if_true]
    refine ⟨_, ?_, value, others, rfl, Tree.returnsBelong_of_isInline rfl _, endsExpression, awaits⟩
    rw [Session.leaf_of_kind is rfl]
    rfl

theorem meets_wholeStatement {first : Tree .statement} (fits : o.Fits (first.leaves ++ others))
    (belongs : first.ReturnsBelong o.inFunction) (h : firstKind others ≠ .newline)
    (awaits : Awaits rest o.inFunction others) :
    o.Meets rest (first.leaves ++ others) o.wholeStatement := by
  cases first with
  | statement command blank =>
    simp only [Tree.leaves, List.append_assoc] at fits ⊢
    refine Meets.followedBy (meets_statement fits belongs rfl ?_)
    exact awaits_lineEnd blank awaits h

theorem meets_blockStatement {block : Block} {first : Tree .statement} {more : Tree .statements}
    (fits : o.Fits (first.leaves ++ (more.leaves ++ others)))
    (belongs : first.ReturnsBelong o.inFunction) (belongs' : more.ReturnsBelong o.inFunction)
    (ends : block.endsAt (firstKind others) = true) (awaits : Awaits rest o.inFunction others) :
    o.Meets rest (first.leaves ++ (more.leaves ++ others)) (o.blockStatement block) := by
  have begins := first.begins_statement.first (more.leaves ++ others)
  rw [← fits.kind] at begins
  unfold blockStatement
  split
  · next last =>
    rw [last] at begins
    cases begins
  · refine Meets.followedBy (meets_wholeStatement fits belongs ?_ ?_)
    · exact Tree.not_newline_of_statements more (Token.Kind.endsBody_of_endsAt ends)
    · exact ⟨more, others, rfl, belongs', ends, awaits⟩

theorem meets_rightSide {phrase : Phrase} {next : Tree .rightSide}
    (fits : o.Fits (next.leaves ++ others)) (ends : (firstKind others).endsConjunct = true)
    (awaits : Awaits rest o.inFunction others) (either : phrase = .rightSide ∨
      phrase = .moreRightSides) :
    o.Meets rest (next.leaves ++ others) (o.predict phrase) := by
  cases next with
  | rightSide operator compares right more =>
    have is : o.current.kind = operator := fits.kind
    have predicted : o.predict phrase = .copy [.phrase .expression, .phrase .moreRightSides] := by
      rcases either with rfl | rfl <;> simp only [predict, is, compares, if_true]
    rw [predicted]
    refine ⟨right.leaves ++ (more.leaves ++ others), ?_, right, _, rfl,
      Tree.returnsBelong_of_isInline rfl _, Tree.endsExpression_of_moreRightSides more ends, more,
      others, rfl, Tree.returnsBelong_of_isInline rfl _, ends, awaits⟩
    rw [Session.leaf_of_isOperator is (isOperator_of_isComparison compares), ← List.append_assoc]
    rfl

/-- An operand is found by its first two words. -/
theorem meets_operand {operand : Tree .primary} (fits : o.Fits (operand.leaves ++ others))
    (fits' : o.lookahead.kind = firstKind (operand.leaves ++ others).tail)
    (ends : (firstKind others).endsFactor = true)
    (resolved : Resolved o.scope (operand.leaves ++ others))
    (awaits : Awaits rest o.inFunction others) :
    o.Meets rest (operand.leaves ++ others) o.operand := by
  cases operand with
  | number text =>
    have is : o.current.kind = .number := fits.kind
    have same : o.current.text = text := congrArg Word.text fits
    simp only [Outlook.operand, is]
    refine ⟨others, ?_, awaits⟩
    simp only [Token.leaf, is, same]
    rfl
  | read name =>
    have is : o.current.kind = .identifier := fits.kind
    have same : o.current.text = name := congrArg Word.text fits
    have paren : o.lookahead.kind ≠ .openParen := by
      intro paren
      have paren : firstKind others = .openParen := fits'.symm.trans paren
      rw [paren] at ends
      cases ends
    have copied : o.operand = .copy [] := by
      have declared : o.scope.declares name = true := resolved.1
      unfold operand
      rw [is]
      simp only
      split
      · next unknown =>
        rw [same] at unknown
        simp [Scope.declares, unknown] at declared
      · next paren' => exact absurd paren' paren
      · next paren' => exact absurd paren' paren
      · rfl
    rw [copied]
    refine ⟨others, ?_, awaits⟩
    simp only [Token.leaf, is, same]
    rfl
  | called application =>
    cases application with
    | call name values =>
      have is : o.current.kind = .identifier := fits.kind
      have same : o.current.text = name := congrArg Word.text fits
      have paren : o.lookahead.kind = .openParen := fits'
      have awaits : Awaits (.phrase .call :: rest) o.inFunction
          ((Tree.called (.call name values)).leaves ++ others) :=
        ⟨.call name values, others, rfl, Tree.returnsBelong_of_isInline rfl _, rfl, awaits⟩
      have declared : o.scope.declares o.current.text = true := by
        rw [same]
        exact resolved.1
      cases known : o.scope.kind? o.current.text with
      | none => simp [Scope.declares, known] at declared
      | some kind =>
        cases kind
        all_goals
          simp only [Outlook.operand, is, paren, known]
          exact awaits

/-- A phrase other than an operand goes on with an awaited text whose first word is the token at
hand. -/
theorem meets_predict {phrase : Phrase} (two : phrase ≠ .primary) {tree : Tree phrase.category}
    (fits : o.Fits (tree.leaves ++ others)) (belongs : tree.ReturnsBelong o.inFunction)
    (ends : phrase.follows (firstKind others) = true) (awaits : Awaits rest o.inFunction others) :
    o.Meets rest (tree.leaves ++ others) (o.predict phrase) := by
  have is := fits.kind
  cases phrase with
  | primary => exact absurd rfl two
  | blankLines =>
    cases tree with
    | blankLines count =>
      simp only [predict]
      cases count with
      | zero =>
        rw [if_neg (by rw [is]; exact bne_iff_ne.1 ends)]
        exact awaits
      | succ count =>
        have is : o.current.kind = .newline := is
        rw [if_pos is]
        refine ⟨blankLeaves count ++ others, ?_, .blankLines count, others, rfl, trivial, ends,
          awaits⟩
        rw [Session.leaf_of_kind is rfl]
        rfl
  | statements =>
    cases tree with
    | noStatement =>
      have is : o.current.kind = .endOfInput := is.trans (beq_iff_eq.1 ends)
      simp only [predict, is, if_true]
      exact awaits
    | nextStatement first more =>
      obtain ⟨belongs, belongs'⟩ := belongs
      simp only [Tree.leaves, List.append_assoc] at fits ⊢
      have begins := first.begins_statement.first (more.leaves ++ others)
      rw [← fits.kind] at begins
      simp only [predict]
      split
      · next last =>
        rw [last] at begins
        cases begins
      · have ends' : (firstKind others).endsBody = true := by rw [beq_iff_eq.1 ends]; rfl
        refine Meets.followedBy (meets_wholeStatement fits belongs ?_ ?_)
        · exact Tree.not_newline_of_statements more ends'
        · exact ⟨more, others, rfl, belongs', ends, awaits⟩
  | statement => exact meets_wholeStatement fits belongs (bne_iff_ne.1 ends) awaits
  | block which => exact ⟨tree, others, rfl, belongs, ends, awaits⟩
  | blockBody which =>
    cases tree with
    | body statements =>
      cases statements with
      | noStatement =>
        have ends' : which.endsAt o.current.kind = true := by rw [is]; exact ends
        simp only [predict, ends', if_true]
        exact awaits
      | nextStatement first more =>
        obtain ⟨belongs, belongs'⟩ := belongs
        simp only [Tree.leaves, List.append_assoc] at fits ⊢
        have begins := first.begins_statement.first (more.leaves ++ others)
        rw [← fits.kind] at begins
        simp only [predict, Token.Kind.not_endsAt_of_beginsCommand begins]
        exact meets_blockStatement fits belongs belongs' ends awaits
  | moreStatements which =>
    cases tree with
    | noStatement =>
      have ends' : which.endsAt o.current.kind = true := by rw [is]; exact ends
      simp only [predict, ends', if_true]
      exact awaits
    | nextStatement first more =>
      obtain ⟨belongs, belongs'⟩ := belongs
      simp only [Tree.leaves, List.append_assoc] at fits ⊢
      have begins := first.begins_statement.first (more.leaves ++ others)
      rw [← fits.kind] at begins
      simp only [predict, Token.Kind.not_endsAt_of_beginsCommand begins]
      exact meets_blockStatement fits belongs belongs' ends awaits
  | printed =>
    simp only [predict]
    cases tree with
    | literal text =>
      have is : o.current.kind = .stringLiteral := is
      have same : o.current.text = text := congrArg Word.text fits
      rw [if_pos is]
      refine ⟨others, ?_, awaits⟩
      simp only [Token.leaf, is, same]
      rfl
    | printedValue value =>
      have begins := value.begins_expression.first others
      have ends' : (firstKind others).endsExpression = true := by rw [beq_iff_eq.1 ends]; rfl
      split
      · next literal =>
        have literal : firstKind (value.leaves ++ others) = .stringLiteral := is.symm.trans literal
        rw [literal] at begins
        cases begins
      · exact ⟨value, others, rfl, Tree.returnsBelong_of_isInline rfl _, ends', awaits⟩
  | elseBranch =>
    simp only [predict]
    cases tree with
    | noElse =>
      rw [if_neg (by rw [is]; exact ne_of_holds ends rfl)]
      exact awaits
    | otherwise blank inner =>
      have is : o.current.kind = .keyword .else := is
      have ends' : Block.alternative.endsAt (firstKind others) = true := by
        rw [beq_iff_eq.1 ends]
        rfl
      rw [if_pos is]
      refine ⟨_, ?_, awaits_lineEnd blank ⟨inner, others, rfl, belongs, ends', awaits⟩
        (Tree.not_newline_of_body inner (Token.Kind.endsBody_of_endsAt ends'))⟩
      rw [Session.leaf_of_kind is rfl]
      simp only [Tree.leaves, List.append_assoc, List.cons_append]
      rfl
  | parameters =>
    simp only [predict]
    cases tree with
    | noParameters =>
      rw [if_neg (by rw [is]; exact ne_of_holds ends rfl)]
      exact awaits
    | parameters first more =>
      have is : o.current.kind = .identifier := is
      rw [if_pos is]
      exact ⟨first, _, rfl, more, others, rfl, Tree.returnsBelong_of_isInline rfl _, ends, awaits⟩
  | moreParameters =>
    simp only [predict]
    cases tree with
    | lastParameter =>
      rw [if_neg (by rw [is]; exact ne_of_holds ends rfl)]
      exact awaits
    | nextParameter name more =>
      have is : o.current.kind = .comma := is
      rw [if_pos is]
      refine ⟨_, ?_, name, _, rfl, more, others, rfl, Tree.returnsBelong_of_isInline rfl _, ends,
        awaits⟩
      rw [Session.leaf_of_kind is rfl]
      rfl
  | condition =>
    cases tree with
    | condition first more =>
      simp only [Tree.leaves, List.append_assoc]
      exact ⟨first, _, rfl, Tree.returnsBelong_of_isInline rfl _,
        Tree.endsConjunction_of_moreConjunctions more ends, more, others, rfl,
        Tree.returnsBelong_of_isInline rfl _, ends, awaits⟩
  | moreConjunctions =>
    simp only [predict]
    cases tree with
    | lastConjunction =>
      rw [if_neg (by rw [is]; exact ne_of_holds ends rfl)]
      exact awaits
    | nextConjunction next more =>
      have is : o.current.kind = .keyword .or := is
      rw [if_pos is]
      refine ⟨next.leaves ++ (more.leaves ++ others), ?_, next, _, rfl,
        Tree.returnsBelong_of_isInline rfl _, Tree.endsConjunction_of_moreConjunctions more ends,
        more, others, rfl, Tree.returnsBelong_of_isInline rfl _, ends, awaits⟩
      rw [Session.leaf_of_kind is rfl, ← List.append_assoc]
      rfl
  | conjunction =>
    cases tree with
    | conjunction first more =>
      simp only [Tree.leaves, List.append_assoc]
      exact ⟨first, _, rfl, Tree.returnsBelong_of_isInline rfl _,
        Tree.endsConjunct_of_moreConjuncts more ends, more, others, rfl,
        Tree.returnsBelong_of_isInline rfl _, ends, awaits⟩
  | moreConjuncts =>
    simp only [predict]
    cases tree with
    | lastConjunct =>
      rw [if_neg (by rw [is]; exact ne_of_holds ends rfl)]
      exact awaits
    | nextConjunct next more =>
      have is : o.current.kind = .keyword .and := is
      rw [if_pos is]
      refine ⟨next.leaves ++ (more.leaves ++ others), ?_, next, _, rfl,
        Tree.returnsBelong_of_isInline rfl _, Tree.endsConjunct_of_moreConjuncts more ends,
        more, others, rfl, Tree.returnsBelong_of_isInline rfl _, ends, awaits⟩
      rw [Session.leaf_of_kind is rfl, ← List.append_assoc]
      rfl
  | conjunct =>
    cases tree with
    | not negated =>
      have is : o.current.kind = .keyword .not := is
      simp only [predict, is]
      refine ⟨_, ?_, negated, others, rfl, Tree.returnsBelong_of_isInline rfl _, ends, awaits⟩
      rw [Session.leaf_of_kind is rfl]
      rfl
    | group test =>
      have is : o.current.kind = .openParen := is
      simp only [predict, is]
      refine ⟨_, ?_, test, _, rfl, Tree.returnsBelong_of_isInline rfl _, rfl, others, rfl, awaits⟩
      rw [Session.leaf_of_kind is rfl]
      simp only [Tree.leaves, List.append_assoc, List.cons_append, List.nil_append]
      rfl
    | compared relation =>
      have begins := relation.begins_comparison.first others
      have awaits : Awaits (.phrase .comparison :: rest) o.inFunction (relation.leaves ++ others) :=
        ⟨relation, others, rfl, Tree.returnsBelong_of_isInline rfl _, ends, awaits⟩
      have is : o.current.kind = firstKind (relation.leaves ++ others) := is
      rw [← is] at begins
      rcases beginsExpression_cases begins with kind | kind | kind | kind
      all_goals
        simp only [predict, kind]
        exact awaits
  | comparison =>
    cases tree with
    | comparison left right =>
      simp only [Tree.leaves, List.append_assoc]
      exact ⟨left, _, rfl, Tree.returnsBelong_of_isInline rfl _,
        Tree.endsExpression_of_rightSide right, right, others, rfl,
        Tree.returnsBelong_of_isInline rfl _, ends, awaits⟩
  | rightSide => exact meets_rightSide fits ends awaits (.inl rfl)
  | moreRightSides =>
    cases tree with
    | lastRightSide =>
      simp only [predict]
      rw [if_neg (by rw [is]; exact not_of_disjoint ends not_endsConjunct_of_isComparison)]
      exact awaits
    | nextRightSide next => exact meets_rightSide fits ends awaits (.inr rfl)
  | expression =>
    cases tree with
    | expression first more =>
      simp only [Tree.leaves, List.append_assoc]
      exact ⟨first, _, rfl, Tree.returnsBelong_of_isInline rfl _,
        Tree.endsTerm_of_moreTerms more ends, more, others, rfl,
        Tree.returnsBelong_of_isInline rfl _, ends, awaits⟩
  | moreTerms =>
    simp only [predict]
    cases tree with
    | lastTerm =>
      rw [if_neg (by rw [is]; exact not_of_disjoint ends not_endsExpression_of_isSign)]
      exact awaits
    | nextTerm sign signs next more =>
      have is : o.current.kind = sign := is
      rw [if_pos (by rw [is]; exact signs)]
      refine ⟨next.leaves ++ (more.leaves ++ others), ?_, next, _, rfl,
        Tree.returnsBelong_of_isInline rfl _, Tree.endsTerm_of_moreTerms more ends, more, others,
        rfl, Tree.returnsBelong_of_isInline rfl _, ends, awaits⟩
      rw [Session.leaf_of_isOperator is (isOperator_of_isSign signs), ← List.append_assoc]
      rfl
  | term =>
    cases tree with
    | term first more =>
      simp only [Tree.leaves, List.append_assoc]
      exact ⟨first, _, rfl, Tree.returnsBelong_of_isInline rfl _,
        Tree.endsFactor_of_moreFactors more ends, more, others, rfl,
        Tree.returnsBelong_of_isInline rfl _, ends, awaits⟩
  | moreFactors =>
    simp only [predict]
    cases tree with
    | lastFactor =>
      rw [if_neg (by rw [is]; exact not_of_disjoint ends not_endsTerm_of_isFactorOperator)]
      exact awaits
    | nextFactor operator multiplies next more =>
      have is : o.current.kind = operator := is
      rw [if_pos (by rw [is]; exact multiplies)]
      refine ⟨next.leaves ++ (more.leaves ++ others), ?_, next, _, rfl,
        Tree.returnsBelong_of_isInline rfl _, Tree.endsFactor_of_moreFactors more ends, more,
        others, rfl, Tree.returnsBelong_of_isInline rfl _, ends, awaits⟩
      rw [Session.leaf_of_isOperator is (isOperator_of_isFactorOperator multiplies),
        ← List.append_assoc]
      rfl
  | factor =>
    simp only [predict]
    cases tree with
    | plain operand =>
      have begins := operand.begins_primary.first others
      have is : o.current.kind = firstKind (operand.leaves ++ others) := is
      rw [← is] at begins
      rw [if_neg (not_of_disjoint begins not_beginsOperand_of_isSign)]
      exact ⟨operand, others, rfl, Tree.returnsBelong_of_isInline rfl _, ends, awaits⟩
    | signed sign signs operand =>
      have is : o.current.kind = sign := is
      rw [if_pos (by rw [is]; exact signs)]
      refine ⟨_, ?_, operand, others, rfl, Tree.returnsBelong_of_isInline rfl _, ends, awaits⟩
      rw [Session.leaf_of_isOperator is (isOperator_of_isSign signs)]
      rfl
  | call =>
    simp only [predict]
    cases tree with
    | call name values =>
      have is : o.current.kind = .identifier := is
      have same : o.current.text = name := congrArg Word.text fits
      rw [if_pos is]
      refine ⟨.fixed .openParen :: (values.leaves ++ .fixed .closeParen :: others), ?_, _, rfl,
        values, _, rfl, Tree.returnsBelong_of_isInline rfl _, rfl, others, rfl, awaits⟩
      simp only [Tree.leaves, Token.leaf, is, same, List.append_assoc, List.cons_append,
        List.nil_append]
  | arguments =>
    simp only [predict]
    cases tree with
    | noArguments =>
      rw [if_pos (is.trans (beq_iff_eq.1 ends))]
      exact awaits
    | arguments first more =>
      simp only [Tree.leaves, List.append_assoc] at is ⊢
      have begins := first.begins_expression.first (more.leaves ++ others)
      rw [← is] at begins
      rw [if_neg (ne_of_holds begins rfl)]
      exact ⟨first, _, rfl, Tree.returnsBelong_of_isInline rfl _,
        Tree.endsExpression_of_moreArguments more (beq_iff_eq.1 ends), more, others, rfl,
        Tree.returnsBelong_of_isInline rfl _, ends, awaits⟩
  | moreArguments =>
    simp only [predict]
    cases tree with
    | lastArgument =>
      rw [if_neg (by rw [is]; exact ne_of_holds ends rfl)]
      exact awaits
    | nextArgument next more =>
      have is : o.current.kind = .comma := is
      rw [if_pos is]
      refine ⟨next.leaves ++ (more.leaves ++ others), ?_, next, _, rfl,
        Tree.returnsBelong_of_isInline rfl _,
        Tree.endsExpression_of_moreArguments more (beq_iff_eq.1 ends), more, others, rfl,
        Tree.returnsBelong_of_isInline rfl _, ends, awaits⟩
      rw [Session.leaf_of_kind is rfl, ← List.append_assoc]
      rfl

end Outlook

end Offside
