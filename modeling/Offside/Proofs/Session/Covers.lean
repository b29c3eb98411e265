import Offside.Proofs.Grammar.Follow
import Offside.Proofs.Render.Draw
import Offside.Proofs.Session.Moves

/-!
# What is taken is a tree

The symbols that are still to come say which leaves may yet follow and what
will be written for them: the leaf of each token that is asked for, the leaves
of some tree for each phrase. `Covers` spells this out, and a move keeps it:
whatever is covered by the symbols that a move leaves is, behind the leaf that
the move takes, covered by the symbol that it deals with. So a run that
comes to an end has taken the leaves of a tree and has drawn that tree; and a
run that is still under way has taken leaves that become those of a tree with
whatever the symbols to come may cover.
-/

namespace Offside

/-- The category of the trees that a phrase stands for. -/
def Phrase.category : Phrase → Category
  | .blankLines => .blankLines
  | .statements | .moreStatements _ => .statements
  | .statement => .statement
  | .block _ | .blockBody _ => .body
  | .printed => .printed
  | .elseBranch => .otherwise
  | .parameters => .parameters
  | .moreParameters => .moreParameters
  | .condition => .condition
  | .moreConjunctions => .moreConjunctions
  | .conjunction => .conjunction
  | .moreConjuncts => .moreConjuncts
  | .conjunct => .conjunct
  | .comparison => .comparison
  | .rightSide => .rightSide
  | .moreRightSides => .moreRightSides
  | .expression => .expression
  | .moreTerms => .moreTerms
  | .term => .term
  | .moreFactors => .moreFactors
  | .factor => .factor
  | .primary => .primary
  | .call => .call
  | .arguments => .arguments
  | .moreArguments => .moreArguments

/-- The work after a tree has been drawn. -/
def Work.draw (work : Work) (target : Target) {category : Category} (tree : Tree category) : Work :=
  { work with draft := tree.draw target work.draft }

/-- The work after a name has been declared. -/
def Work.declare (work : Work) (target : Target) (role : Role) (name : String) : Work :=
  match role with
  | .function => (work.write (target.spelling .functionOpen)).write name
  | .letTarget | .inputTarget | .parameter => work.write name

/-- The symbols may take these leaves and lead from one work to the other. -/
def Covers (target : Target) : List Symbol → Work → List Leaf → Work → Prop
  | [], work, leaves, work' => leaves = [] ∧ work' = work
  | .expect terminal :: symbols, work, leaves, work' =>
    ∃ others, leaves = .fixed terminal.kind :: others ∧ Covers target symbols work others work'
  | .declare role :: symbols, work, leaves, work' =>
    ∃ name others, leaves = .declared role name :: others ∧
      Covers target symbols (work.declare target role name) others work'
  | .phrase phrase :: symbols, work, leaves, work' =>
    ∃ (tree : Tree phrase.category) (others : List Leaf), leaves = tree.leaves ++ others ∧
      tree.ReturnsBelong work.inFunction ∧
      Covers target symbols (work.draw target tree) others work'
  | symbol :: symbols, work, leaves, work' =>
    Covers target symbols (symbol.effect target work) leaves work'

section

variable {target : Target} {symbol : Symbol} {symbols more : List Symbol}
  {work mid work' : Work} {leaves leaves' : List Leaf}

theorem covers_silent (silent : symbol.isSilent = true) :
    Covers target (symbol :: symbols) work leaves work' ↔
      Covers target symbols (symbol.effect target work) leaves work' := by
  cases symbol with
  | expect terminal => cases silent
  | declare role => cases silent
  | phrase phrase => cases silent
  | _ => exact Iff.rfl

/-- Symbols one after the other cover leaves one after the other. -/
theorem covers_append : Covers target (symbols ++ more) work leaves work' ↔
    ∃ front back mid, leaves = front ++ back ∧ Covers target symbols work front mid ∧
      Covers target more mid back work' := by
  induction symbols generalizing work leaves with
  | nil =>
    constructor
    · intro covers
      exact ⟨[], leaves, work, rfl, ⟨rfl, rfl⟩, covers⟩
    · intro parts
      obtain ⟨_, back, _, rfl, ⟨rfl, rfl⟩, covers⟩ := parts
      exact covers
  | cons symbol symbols ih =>
    cases symbol with
    | expect terminal =>
      constructor
      · intro whole
        obtain ⟨others, rfl, covers⟩ := whole
        obtain ⟨front, back, mid, rfl, covers, covers'⟩ := ih.1 covers
        exact ⟨_ :: front, back, mid, rfl, ⟨front, rfl, covers⟩, covers'⟩
      · intro parts
        obtain ⟨_, back, mid, rfl, ⟨front, rfl, covers⟩, covers'⟩ := parts
        exact ⟨front ++ back, rfl, ih.2 ⟨front, back, mid, rfl, covers, covers'⟩⟩
    | declare role =>
      constructor
      · intro whole
        obtain ⟨name, others, rfl, covers⟩ := whole
        obtain ⟨front, back, mid, rfl, covers, covers'⟩ := ih.1 covers
        exact ⟨_ :: front, back, mid, rfl, ⟨name, front, rfl, covers⟩, covers'⟩
      · intro parts
        obtain ⟨_, back, mid, rfl, ⟨name, front, rfl, covers⟩, covers'⟩ := parts
        exact ⟨name, front ++ back, rfl, ih.2 ⟨front, back, mid, rfl, covers, covers'⟩⟩
    | phrase phrase =>
      constructor
      · intro whole
        obtain ⟨tree, others, rfl, belongs, covers⟩ := whole
        obtain ⟨front, back, mid, rfl, covers, covers'⟩ := ih.1 covers
        exact ⟨tree.leaves ++ front, back, mid, (List.append_assoc ..).symm,
          ⟨tree, front, rfl, belongs, covers⟩, covers'⟩
      · intro parts
        obtain ⟨_, back, mid, rfl, ⟨tree, front, rfl, belongs, covers⟩, covers'⟩ := parts
        exact ⟨tree, front ++ back, List.append_assoc .., belongs,
          ih.2 ⟨front, back, mid, rfl, covers, covers'⟩⟩
    | _ => exact ih

theorem covers_part {phrase : Phrase} (h : Covers target [.phrase phrase] work leaves work') :
    ∃ tree : Tree phrase.category, leaves = tree.leaves ∧ tree.ReturnsBelong work.inFunction ∧
      work' = work.draw target tree := by
  obtain ⟨tree, _, rfl, belongs, rfl, rfl⟩ := h
  exact ⟨tree, List.append_nil _, belongs, rfl⟩

theorem covers_parts {phrase phrase' : Phrase}
    (h : Covers target [.phrase phrase, .phrase phrase'] work leaves work') :
    ∃ (tree : Tree phrase.category) (other : Tree phrase'.category),
      leaves = tree.leaves ++ other.leaves ∧ tree.ReturnsBelong work.inFunction ∧
        other.ReturnsBelong work.inFunction ∧
        work' = (work.draw target tree).draw target other := by
  obtain ⟨tree, _, rfl, belongs, covers⟩ := h
  obtain ⟨other, rfl, belongs', rfl⟩ := covers_part covers
  exact ⟨tree, other, rfl, belongs, belongs', rfl⟩

/-- The symbols for a declared name write it in its place. -/
theorem covers_declaration {role : Role} {name : String} :
    Covers target (Session.declaration role name) work leaves work' ↔
      leaves = [] ∧ work' = work.declare target role name := by
  cases role <;> exact Iff.rfl

end

/-! ## What a prediction builds -/

namespace Session

open Token.Kind

variable {s s' : Session} {prediction : Prediction} {build build' : List Leaf → Work → Prop}

/-- Whatever the symbols of the prediction cover, from the session on, is built. -/
def Builds (s : Session) (build : List Leaf → Work → Prop) : Prediction → Prop
  | .derive symbols => ∀ leaves work, Covers s.target symbols s.work leaves work → build leaves work
  | .take symbols => ∀ leaves work, Covers s.target symbols s.work leaves work →
      build (s.current.leaf :: leaves) work
  | .copy symbols => ∀ leaves work,
      Covers s.target symbols (s.work.write s.currentText) leaves work →
        build (s.current.leaf :: leaves) work
  | .refuse _ => True

theorem Builds.mono (h : s.Builds build prediction)
    (le : ∀ leaves work, build leaves work → build' leaves work) : s.Builds build' prediction := by
  cases prediction with
  | refuse fault => trivial
  | _ => exact fun leaves work covers => le _ _ (h leaves work covers)

theorem Builds.followedBy {more : List Symbol} (h : s.Builds build prediction)
    (further : ∀ leaves mid leaves' work, build leaves mid →
      Covers s.target more mid leaves' work → build' (leaves ++ leaves') work) :
    s.Builds build' (prediction.followedBy more) := by
  cases prediction with
  | refuse fault => trivial
  | _ =>
    intro leaves work covers
    obtain ⟨front, back, mid, rfl, covers, covers'⟩ := covers_append.1 covers
    exact further _ _ _ _ (h front mid covers) covers'

/-- What consists of no words at all is built from nothing. -/
theorem builds_nothing (h : build [] s.work) : s.Builds build (.derive []) := by
  intro leaves work covers
  obtain ⟨rfl, rfl⟩ := covers
  exact h

/-- A token that is known from its kind becomes a leaf of that kind. -/
theorem leaf_of_kind {token : Token} {kind : Token.Kind} (is : token.kind = kind)
    (plain : kind.hasText = false) : token.leaf = .fixed kind := by
  obtain ⟨_, text, span⟩ := token
  subst is
  cases ‹Token.Kind› with
  | number | identifier | stringLiteral => cases plain
  | _ => rfl

theorem currentText_of_kind {kind : Token.Kind} (proper : s.current.word.Proper)
    (is : s.current.kind = kind) (plain : kind.hasText = false) :
    s.currentText = kind.spelling := by
  subst is
  have text : s.current.text = s.current.kind.spelling :=
    congrArg Word.text (proper.eq_fixed plain)
  unfold currentText
  split
  · next literal =>
    rw [literal] at plain
    cases plain
  · exact text

theorem leaf_of_isOperator {token : Token} {kind : Token.Kind} (is : token.kind = kind)
    (operates : kind.isOperator = true) : token.leaf = .fixed kind :=
  leaf_of_kind is (hasText_of_isOperator operates)

theorem currentText_of_isOperator (proper : s.current.word.Proper)
    (operates : s.current.kind.isOperator = true) : s.currentText = s.current.kind.spelling :=
  currentText_of_kind proper rfl (hasText_of_isOperator operates)

/-- The leaves are those of a tree of the category, and the work is that of drawing it. -/
def Grows (s : Session) (category : Category) (leaves : List Leaf) (work : Work) : Prop :=
  ∃ tree : Tree category, leaves = tree.leaves ∧ tree.ReturnsBelong s.inFunction ∧
    work = s.work.draw s.target tree

/-- Line ends are those of a line and of blank lines behind it. -/
theorem covers_lineEnd {target : Target} {work work' : Work} {leaves : List Leaf}
    (h : Covers target Outlook.lineEnd work leaves work') :
    ∃ blank, leaves = lineLeaves blank ∧ work' = work := by
  obtain ⟨_, rfl, tree, _, rfl, -, rfl, rfl⟩ := h
  cases tree with
  | blankLines blank => exact ⟨blank, congrArg _ (List.append_nil _), rfl⟩

theorem builds_statement : s.Builds (s.Grows .command) s.toOutlook.statement := by
  unfold Outlook.statement
  split
  · next is =>
    intro leaves work covers
    obtain ⟨printed, _, rfl, -, rfl, rfl⟩ := covers
    refine ⟨.print printed, ?_, trivial, rfl⟩
    rw [leaf_of_kind is rfl, List.append_nil]
    rfl
  · next is =>
    intro leaves work covers
    obtain ⟨front, back, mid, rfl, covers, covers'⟩ := covers_append.1 covers
    obtain ⟨front, line, mid', rfl, covers, ends⟩ := covers_append.1 covers
    obtain ⟨blank, rfl, rfl⟩ := covers_lineEnd ends
    obtain ⟨test, _, rfl, -, _, rfl, rfl, rfl⟩ := covers
    obtain ⟨consequent, _, rfl, belongs, alternative, _, rfl, belongs', _, rfl, rfl, rfl⟩ := covers'
    refine ⟨.branch test blank consequent alternative, ?_, ⟨belongs, belongs'⟩, rfl⟩
    rw [leaf_of_kind is rfl]
    simp only [Tree.leaves, List.append_assoc, List.cons_append, List.nil_append]
    rfl
  · next is =>
    intro leaves work covers
    obtain ⟨front, back, mid, rfl, covers, covers'⟩ := covers_append.1 covers
    obtain ⟨front, line, mid', rfl, covers, ends⟩ := covers_append.1 covers
    obtain ⟨blank, rfl, rfl⟩ := covers_lineEnd ends
    obtain ⟨test, _, rfl, -, _, rfl, rfl, rfl⟩ := covers
    obtain ⟨inner, _, rfl, belongs, _, rfl, rfl, rfl⟩ := covers'
    refine ⟨.loop test blank inner, ?_, belongs, rfl⟩
    rw [leaf_of_kind is rfl]
    simp only [Tree.leaves, List.append_assoc, List.cons_append, List.nil_append]
    rfl
  · next is =>
    intro leaves work covers
    obtain ⟨front, back, mid, rfl, covers, covers'⟩ := covers_append.1 covers
    obtain ⟨front, line, mid', rfl, covers, ends⟩ := covers_append.1 covers
    obtain ⟨blank, rfl, rfl⟩ := covers_lineEnd ends
    obtain ⟨name, _, rfl, _, rfl, names, _, rfl, -, _, rfl, rfl, rfl⟩ := covers
    obtain ⟨inner, _, rfl, belongs, _, rfl, rfl, rfl⟩ := covers'
    refine ⟨.function name names blank inner, ?_, belongs, rfl⟩
    rw [leaf_of_kind is rfl]
    simp only [Tree.leaves, List.append_assoc, List.cons_append, List.nil_append]
    rfl
  · next is =>
    intro leaves work covers
    obtain ⟨name, _, rfl, _, rfl, value, _, rfl, -, rfl, rfl⟩ := covers
    refine ⟨.assign name value, ?_, trivial, rfl⟩
    rw [leaf_of_kind is rfl, List.append_nil]
    rfl
  · next is =>
    intro leaves work covers
    obtain ⟨name, _, rfl, rfl, rfl⟩ := covers
    refine ⟨.input name, ?_, trivial, rfl⟩
    rw [leaf_of_kind is rfl]
    rfl
  · next is =>
    split
    · next inFunction =>
      intro leaves work covers
      obtain ⟨value, _, rfl, -, rfl, rfl⟩ := covers
      refine ⟨.giveBack value, ?_, inFunction, rfl⟩
      rw [leaf_of_kind is rfl, List.append_nil]
      rfl
    · trivial
  all_goals trivial

theorem builds_wholeStatement : s.Builds (s.Grows .statement) s.toOutlook.wholeStatement := by
  refine builds_statement.followedBy fun leaves mid leaves' work grows covers => ?_
  obtain ⟨command, rfl, belongs, rfl⟩ := grows
  obtain ⟨blank, rfl, rfl⟩ := covers_lineEnd covers
  exact ⟨.statement command blank, rfl, belongs, rfl⟩

theorem builds_blockStatement (block : Block) :
    s.Builds (fun leaves work => ∃ (first : Tree .statement) (others : Tree .statements),
        leaves = (Tree.nextStatement first others).leaves ∧
        (Tree.nextStatement first others).ReturnsBelong s.inFunction ∧
        work = s.work.draw s.target (.nextStatement first others))
      (s.toOutlook.blockStatement block) := by
  unfold Outlook.blockStatement
  split
  · trivial
  · refine builds_wholeStatement.followedBy fun leaves mid leaves' work grows covers => ?_
    obtain ⟨first, rfl, belongs, rfl⟩ := grows
    obtain ⟨others, rfl, belongs', rfl⟩ := covers_part covers
    exact ⟨first, others, rfl, ⟨belongs, belongs'⟩, rfl⟩

theorem builds_operand : s.Builds (s.Grows .primary) s.toOutlook.operand := by
  unfold Outlook.operand
  split
  · next is =>
    intro leaves work covers
    obtain ⟨rfl, rfl⟩ := covers
    refine ⟨.number s.current.text, ?_, trivial, ?_⟩
    · simp only [Token.leaf, is]
      rfl
    · simp only [currentText, is]
      rfl
  · next is =>
    have copied : s.Builds (s.Grows .primary) (.copy []) := by
      intro leaves work covers
      obtain ⟨rfl, rfl⟩ := covers
      refine ⟨.read s.current.text, ?_, trivial, ?_⟩
      · simp only [Token.leaf, is]
        rfl
      · simp only [currentText, is]
        rfl
    split
    · trivial
    · intro leaves work covers
      obtain ⟨application, rfl, belongs, rfl⟩ := covers_part covers
      exact ⟨.called application, rfl, trivial, rfl⟩
    · intro leaves work covers
      obtain ⟨application, rfl, belongs, rfl⟩ := covers_part covers
      exact ⟨.called application, rfl, trivial, rfl⟩
    · exact copied
  · trivial

/-- An operator and its right side, with which one more round begins. -/
theorem builds_rightSide {build : List Leaf → Work → Prop} (proper : s.current.word.Proper)
    (compares : s.current.kind.isComparison = true)
    (h : ∀ (right : Tree .expression) (others : Tree .moreRightSides),
      build (Tree.rightSide _ compares right others).leaves
        (s.work.draw s.target (.rightSide _ compares right others))) :
    s.Builds build (.copy [.phrase .expression, .phrase .moreRightSides]) := by
  intro leaves work covers
  obtain ⟨right, others, rfl, -, -, rfl⟩ := covers_parts covers
  rw [leaf_of_isOperator rfl (isOperator_of_isComparison compares),
    currentText_of_isOperator proper (isOperator_of_isComparison compares)]
  exact h right others

/-- Whatever the symbols of a prediction cover, with the token that it takes, is a tree of the
phrase. -/
theorem builds_predict (proper : s.current.word.Proper) (phrase : Phrase) :
    s.Builds (s.Grows phrase.category) (s.predict phrase) := by
  cases phrase with
  | blankLines =>
    simp only [Outlook.predict]
    split
    · next is =>
      intro leaves work covers
      obtain ⟨tree, rfl, -, rfl⟩ := covers_part covers
      cases tree with
      | blankLines count =>
        refine ⟨.blankLines count.succ, ?_, trivial, rfl⟩
        rw [leaf_of_kind is rfl]
        rfl
    · exact builds_nothing ⟨.blankLines 0, rfl, trivial, rfl⟩
  | statements =>
    simp only [Outlook.predict]
    split
    · exact builds_nothing ⟨.noStatement, rfl, trivial, rfl⟩
    · refine builds_wholeStatement.followedBy fun leaves mid leaves' work grows covers => ?_
      obtain ⟨first, rfl, belongs, rfl⟩ := grows
      obtain ⟨others, rfl, belongs', rfl⟩ := covers_part covers
      exact ⟨.nextStatement first others, rfl, ⟨belongs, belongs'⟩, rfl⟩
  | statement => exact builds_wholeStatement
  | block block =>
    intro leaves work covers
    obtain ⟨tree, rfl, belongs, rfl⟩ := covers_part covers
    exact ⟨tree, rfl, belongs, rfl⟩
  | blockBody block =>
    simp only [Outlook.predict]
    split
    · intro leaves work covers
      obtain ⟨rfl, rfl⟩ := covers
      exact ⟨.body .noStatement, rfl, trivial, rfl⟩
    · refine (builds_blockStatement block).mono ?_
      intro leaves work covers
      obtain ⟨first, others, rfl, belongs, rfl⟩ := covers
      exact ⟨.body (.nextStatement first others), rfl, belongs, rfl⟩
  | moreStatements block =>
    simp only [Outlook.predict]
    split
    · exact builds_nothing ⟨.noStatement, rfl, trivial, rfl⟩
    · refine (builds_blockStatement block).mono ?_
      intro leaves work covers
      obtain ⟨first, others, rfl, belongs, rfl⟩ := covers
      exact ⟨.nextStatement first others, rfl, belongs, rfl⟩
  | printed =>
    simp only [Outlook.predict]
    split
    · next is =>
      intro leaves work covers
      obtain ⟨rfl, rfl⟩ := covers
      refine ⟨.literal s.current.text, ?_, trivial, ?_⟩
      · simp only [Token.leaf, is]
        rfl
      · simp only [currentText, is]
        rfl
    · intro leaves work covers
      obtain ⟨value, rfl, -, rfl⟩ := covers_part covers
      exact ⟨.printedValue value, rfl, trivial, rfl⟩
  | elseBranch =>
    simp only [Outlook.predict]
    split
    · next is =>
      intro leaves work covers
      obtain ⟨front, back, mid, rfl, covers, covers'⟩ := covers_append.1 covers
      obtain ⟨front, line, mid', rfl, covers, ends⟩ := covers_append.1 covers
      obtain ⟨blank, rfl, rfl⟩ := covers_lineEnd ends
      obtain ⟨rfl, rfl⟩ := covers
      obtain ⟨inner, _, rfl, belongs, rfl, rfl⟩ := covers'
      refine ⟨.otherwise blank inner, ?_, belongs, rfl⟩
      rw [leaf_of_kind is rfl, List.append_nil]
      rfl
    · exact builds_nothing ⟨.noElse, rfl, trivial, rfl⟩
  | parameters =>
    simp only [Outlook.predict]
    split
    · intro leaves work covers
      obtain ⟨name, _, rfl, others, _, rfl, -, rfl, rfl⟩ := covers
      exact ⟨.parameters name others, congrArg _ (List.append_nil _), trivial, rfl⟩
    · exact builds_nothing ⟨.noParameters, rfl, trivial, rfl⟩
  | moreParameters =>
    simp only [Outlook.predict]
    split
    · next is =>
      intro leaves work covers
      obtain ⟨name, _, rfl, others, _, rfl, -, rfl, rfl⟩ := covers
      refine ⟨.nextParameter name others, ?_, trivial, rfl⟩
      rw [leaf_of_kind is rfl, List.append_nil]
      rfl
    · exact builds_nothing ⟨.lastParameter, rfl, trivial, rfl⟩
  | condition =>
    intro leaves work covers
    obtain ⟨first, others, rfl, -, -, rfl⟩ := covers_parts covers
    exact ⟨.condition first others, rfl, trivial, rfl⟩
  | moreConjunctions =>
    simp only [Outlook.predict]
    split
    · next is =>
      intro leaves work covers
      obtain ⟨next, others, rfl, -, -, rfl⟩ := covers_parts covers
      refine ⟨.nextConjunction next others, ?_, trivial, rfl⟩
      rw [leaf_of_kind is rfl]
      rfl
    · exact builds_nothing ⟨.lastConjunction, rfl, trivial, rfl⟩
  | conjunction =>
    intro leaves work covers
    obtain ⟨first, others, rfl, -, -, rfl⟩ := covers_parts covers
    exact ⟨.conjunction first others, rfl, trivial, rfl⟩
  | moreConjuncts =>
    simp only [Outlook.predict]
    split
    · next is =>
      intro leaves work covers
      obtain ⟨next, others, rfl, -, -, rfl⟩ := covers_parts covers
      refine ⟨.nextConjunct next others, ?_, trivial, rfl⟩
      rw [leaf_of_kind is rfl]
      rfl
    · exact builds_nothing ⟨.lastConjunct, rfl, trivial, rfl⟩
  | conjunct =>
    simp only [Outlook.predict]
    split
    · next is =>
      intro leaves work covers
      obtain ⟨negated, rfl, -, rfl⟩ := covers_part covers
      refine ⟨.not negated, ?_, trivial, rfl⟩
      rw [leaf_of_kind is rfl]
      rfl
    · next is =>
      intro leaves work covers
      obtain ⟨test, _, rfl, -, _, rfl, rfl, rfl⟩ := covers
      refine ⟨.group test, ?_, trivial, rfl⟩
      rw [leaf_of_kind is rfl]
      rfl
    · intro leaves work covers
      obtain ⟨relation, rfl, -, rfl⟩ := covers_part covers
      exact ⟨.compared relation, rfl, trivial, rfl⟩
  | comparison =>
    intro leaves work covers
    obtain ⟨left, right, rfl, -, -, rfl⟩ := covers_parts covers
    exact ⟨.comparison left right, rfl, trivial, rfl⟩
  | rightSide =>
    simp only [Outlook.predict]
    split
    · next compares =>
      exact builds_rightSide proper compares fun right others => ⟨_, rfl, trivial, rfl⟩
    · trivial
  | moreRightSides =>
    simp only [Outlook.predict]
    split
    · next compares =>
      exact builds_rightSide proper compares fun right others =>
        ⟨.nextRightSide (.rightSide _ compares right others), rfl, trivial, rfl⟩
    · exact builds_nothing ⟨.lastRightSide, rfl, trivial, rfl⟩
  | expression =>
    intro leaves work covers
    obtain ⟨first, others, rfl, -, -, rfl⟩ := covers_parts covers
    exact ⟨.expression first others, rfl, trivial, rfl⟩
  | moreTerms =>
    simp only [Outlook.predict]
    split
    · next signs =>
      intro leaves work covers
      obtain ⟨next, others, rfl, -, -, rfl⟩ := covers_parts covers
      refine ⟨.nextTerm _ signs next others, ?_, trivial, ?_⟩
      · rw [leaf_of_isOperator rfl (isOperator_of_isSign signs)]
        rfl
      · rw [currentText_of_isOperator proper (isOperator_of_isSign signs)]
        rfl
    · exact builds_nothing ⟨.lastTerm, rfl, trivial, rfl⟩
  | term =>
    intro leaves work covers
    obtain ⟨first, others, rfl, -, -, rfl⟩ := covers_parts covers
    exact ⟨.term first others, rfl, trivial, rfl⟩
  | moreFactors =>
    simp only [Outlook.predict]
    split
    · next multiplies =>
      intro leaves work covers
      obtain ⟨next, others, rfl, -, -, rfl⟩ := covers_parts covers
      refine ⟨.nextFactor _ multiplies next others, ?_, trivial, ?_⟩
      · rw [leaf_of_isOperator rfl (isOperator_of_isFactorOperator multiplies)]
        rfl
      · rw [currentText_of_isOperator proper (isOperator_of_isFactorOperator multiplies)]
        rfl
    · exact builds_nothing ⟨.lastFactor, rfl, trivial, rfl⟩
  | factor =>
    simp only [Outlook.predict]
    split
    · next signs =>
      intro leaves work covers
      obtain ⟨operand, rfl, -, rfl⟩ := covers_part covers
      refine ⟨.signed _ signs operand, ?_, trivial, ?_⟩
      · rw [leaf_of_isOperator rfl (isOperator_of_isSign signs)]
        rfl
      · rw [currentText_of_isOperator proper (isOperator_of_isSign signs)]
        rfl
    · intro leaves work covers
      obtain ⟨operand, rfl, -, rfl⟩ := covers_part covers
      exact ⟨.plain operand, rfl, trivial, rfl⟩
  | primary => exact builds_operand
  | call =>
    simp only [Outlook.predict]
    split
    · next is =>
      intro leaves work covers
      obtain ⟨_, rfl, values, _, rfl, -, _, rfl, rfl, rfl⟩ := covers
      refine ⟨.call s.current.text values, ?_, trivial, ?_⟩
      · simp only [Token.leaf, is]
        rfl
      · simp only [currentText, is]
        rfl
    · trivial
  | arguments =>
    simp only [Outlook.predict]
    split
    · exact builds_nothing ⟨.noArguments, rfl, trivial, rfl⟩
    · intro leaves work covers
      obtain ⟨first, others, rfl, -, -, rfl⟩ := covers_parts covers
      exact ⟨.arguments first others, rfl, trivial, rfl⟩
  | moreArguments =>
    simp only [Outlook.predict]
    split
    · next is =>
      intro leaves work covers
      obtain ⟨next, others, rfl, -, -, rfl⟩ := covers_parts covers
      refine ⟨.nextArgument next others, ?_, trivial, rfl⟩
      rw [leaf_of_kind is rfl]
      rfl
    · exact builds_nothing ⟨.lastArgument, rfl, trivial, rfl⟩

end Session

end Offside
