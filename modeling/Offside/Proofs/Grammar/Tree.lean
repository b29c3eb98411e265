import Offside.Proofs.Grammar.Word

/-!
# Syntax trees

The grammar of the language, as the type of its syntax trees. Each constructor
is a production: what it holds is what the production leaves open, and the
words that the production fixes come back in `Tree.leaves`, which lists the
words of a tree from left to right. A text is derivable if it is the list of
words of some tree.

Two conditions go beyond the productions. A name that is read has to be
declared further to the left, wherever that is, and `RETURN` has to stand in
the body of a function. The first is a condition on the words alone once it is
known which of them declare and which read, so the leaves say so; the second is
a condition on the tree.
-/

namespace Offside

/-- The categories of the grammar. A repetition is a category of its own, named
for what it adds to what stands before it. -/
inductive Category where
  | program | blankLines | statements | statement | command | body | otherwise
  | printed | parameters | moreParameters
  | condition | moreConjunctions | conjunction | moreConjuncts | conjunct
  | comparison | rightSide | moreRightSides
  | expression | moreTerms | term | moreFactors | factor | primary
  | call | arguments | moreArguments
deriving Repr, DecidableEq

/-- Whether what belongs to a category stands within a line. -/
def Category.isInline : Category → Bool
  | .program | .blankLines | .statements | .statement | .command | .body | .otherwise => false
  | _ => true

/-- The syntax trees of a category. -/
inductive Tree : Category → Type where
  /-- `program ::= {Newline} statements` -/
  | program (blank : Nat) (statements : Tree .statements) : Tree .program
  /-- `blankLines ::= {Newline}` -/
  | blankLines (count : Nat) : Tree .blankLines
  /-- `statements ::= {statement}` -/
  | noStatement : Tree .statements
  | nextStatement (first : Tree .statement) (others : Tree .statements) : Tree .statements
  /-- `statement ::= command Newline {Newline}` -/
  | statement (command : Tree .command) (blank : Nat) : Tree .statement
  /-- `body ::= statements` -/
  | body (statements : Tree .statements) : Tree .body
  /-- `command ::= PRINT printed` -/
  | print (printed : Tree .printed) : Tree .command
  /-- `command ::= IF condition THEN Newline {Newline} body otherwise ENDIF` -/
  | branch (condition : Tree .condition) (blank : Nat) (consequent : Tree .body)
      (otherwise : Tree .otherwise) : Tree .command
  /-- `command ::= WHILE condition REPEAT Newline {Newline} body ENDWHILE` -/
  | loop (condition : Tree .condition) (blank : Nat) (body : Tree .body) : Tree .command
  /-- `command ::= FUNC ident ( parameters ) Newline {Newline} body ENDFUNC` -/
  | function (name : String) (parameters : Tree .parameters) (blank : Nat)
      (body : Tree .body) : Tree .command
  /-- `command ::= LET ident = expression` -/
  | assign (name : String) (value : Tree .expression) : Tree .command
  /-- `command ::= INPUT ident` -/
  | input (name : String) : Tree .command
  /-- `command ::= RETURN expression` -/
  | giveBack (value : Tree .expression) : Tree .command
  /-- `printed ::= string` -/
  | literal (text : String) : Tree .printed
  /-- `printed ::= expression` -/
  | printedValue (value : Tree .expression) : Tree .printed
  /-- `otherwise ::= [ELSE Newline {Newline} body]` -/
  | noElse : Tree .otherwise
  | otherwise (blank : Nat) (body : Tree .body) : Tree .otherwise
  /-- `parameters ::= [ident moreParameters]` -/
  | noParameters : Tree .parameters
  | parameters (first : String) (others : Tree .moreParameters) : Tree .parameters
  /-- `moreParameters ::= {, ident}` -/
  | lastParameter : Tree .moreParameters
  | nextParameter (name : String) (others : Tree .moreParameters) : Tree .moreParameters
  /-- `condition ::= conjunction moreConjunctions` -/
  | condition (first : Tree .conjunction) (others : Tree .moreConjunctions) : Tree .condition
  /-- `moreConjunctions ::= {OR conjunction}` -/
  | lastConjunction : Tree .moreConjunctions
  | nextConjunction (next : Tree .conjunction) (others : Tree .moreConjunctions) :
      Tree .moreConjunctions
  /-- `conjunction ::= conjunct moreConjuncts` -/
  | conjunction (first : Tree .conjunct) (others : Tree .moreConjuncts) : Tree .conjunction
  /-- `moreConjuncts ::= {AND conjunct}` -/
  | lastConjunct : Tree .moreConjuncts
  | nextConjunct (next : Tree .conjunct) (others : Tree .moreConjuncts) : Tree .moreConjuncts
  /-- `conjunct ::= NOT conjunct` -/
  | not (negated : Tree .conjunct) : Tree .conjunct
  /-- `conjunct ::= ( condition )` -/
  | group (condition : Tree .condition) : Tree .conjunct
  /-- `conjunct ::= comparison` -/
  | compared (comparison : Tree .comparison) : Tree .conjunct
  /-- `comparison ::= expression rightSide` -/
  | comparison (left : Tree .expression) (right : Tree .rightSide) : Tree .comparison
  /-- `rightSide ::= (== | != | > | >= | < | <=) expression moreRightSides` -/
  | rightSide (operator : Token.Kind) (compares : operator.isComparison = true)
      (right : Tree .expression) (others : Tree .moreRightSides) : Tree .rightSide
  /-- `moreRightSides ::= [rightSide]` -/
  | lastRightSide : Tree .moreRightSides
  | nextRightSide (next : Tree .rightSide) : Tree .moreRightSides
  /-- `expression ::= term moreTerms` -/
  | expression (first : Tree .term) (others : Tree .moreTerms) : Tree .expression
  /-- `moreTerms ::= {(+ | -) term}` -/
  | lastTerm : Tree .moreTerms
  | nextTerm (sign : Token.Kind) (signs : sign.isSign = true) (next : Tree .term)
      (others : Tree .moreTerms) : Tree .moreTerms
  /-- `term ::= factor moreFactors` -/
  | term (first : Tree .factor) (others : Tree .moreFactors) : Tree .term
  /-- `moreFactors ::= {(* | /) factor}` -/
  | lastFactor : Tree .moreFactors
  | nextFactor (operator : Token.Kind) (multiplies : operator.isFactorOperator = true)
      (next : Tree .factor) (others : Tree .moreFactors) : Tree .moreFactors
  /-- `factor ::= [+ | -] primary` -/
  | plain (operand : Tree .primary) : Tree .factor
  | signed (sign : Token.Kind) (signs : sign.isSign = true) (operand : Tree .primary) :
      Tree .factor
  /-- `primary ::= number` -/
  | number (text : String) : Tree .primary
  /-- `primary ::= ident` -/
  | read (name : String) : Tree .primary
  /-- `primary ::= call` -/
  | called (call : Tree .call) : Tree .primary
  /-- `call ::= ident ( arguments )` -/
  | call (name : String) (arguments : Tree .arguments) : Tree .call
  /-- `arguments ::= [expression moreArguments]` -/
  | noArguments : Tree .arguments
  | arguments (first : Tree .expression) (others : Tree .moreArguments) : Tree .arguments
  /-- `moreArguments ::= {, expression}` -/
  | lastArgument : Tree .moreArguments
  | nextArgument (next : Tree .expression) (others : Tree .moreArguments) : Tree .moreArguments

/-! ## The words of a tree -/

/-- A word of a tree, with what it does there. -/
inductive Leaf where
  /-- A word that is known from its kind. -/
  | fixed (kind : Token.Kind)
  | number (text : String)
  | literal (text : String)
  /-- An identifier that is declared. -/
  | declared (role : Role) (name : String)
  /-- An identifier that is read. -/
  | read (name : String)
deriving Repr, DecidableEq

/-- The word that stands at a leaf. -/
def Leaf.word : Leaf → Word
  | .fixed kind => .fixed kind
  | .number text => ⟨.number, text⟩
  | .literal text => ⟨.stringLiteral, text⟩
  | .declared _ name => ⟨.identifier, name⟩
  | .read name => ⟨.identifier, name⟩

/-- The kind of the word at a leaf. -/
def Leaf.kind (leaf : Leaf) : Token.Kind := leaf.word.kind

/-- The line ends of blank lines. -/
def blankLeaves (count : Nat) : List Leaf := List.replicate count (.fixed .newline)

/-- The line end of a line, and those of the blank lines behind it. -/
def lineLeaves (blank : Nat) : List Leaf := .fixed .newline :: blankLeaves blank

namespace Tree

/-- The words of a tree, from left to right. -/
def leaves : {category : Category} → Tree category → List Leaf
  | _, .program blank statements => blankLeaves blank ++ statements.leaves
  | _, .blankLines count => blankLeaves count
  | _, .noStatement => []
  | _, .nextStatement first others => first.leaves ++ others.leaves
  | _, .statement command blank => command.leaves ++ lineLeaves blank
  | _, .body statements => statements.leaves
  | _, .print printed => .fixed (.keyword .print) :: printed.leaves
  | _, .branch test blank consequent alternative =>
    .fixed (.keyword .if) :: (test.leaves ++ .fixed (.keyword .then) ::
      (lineLeaves blank ++ (consequent.leaves ++ (alternative.leaves ++
        [.fixed (.keyword .endIf)]))))
  | _, .loop test blank inner =>
    .fixed (.keyword .while) :: (test.leaves ++ .fixed (.keyword .repeat) ::
      (lineLeaves blank ++ (inner.leaves ++ [.fixed (.keyword .endWhile)])))
  | _, .function name names blank inner =>
    .fixed (.keyword .func) :: .declared .function name :: .fixed .openParen ::
      (names.leaves ++ .fixed .closeParen ::
        (lineLeaves blank ++ (inner.leaves ++ [.fixed (.keyword .endFunc)])))
  | _, .assign name value =>
    .fixed (.keyword .let) :: .declared .letTarget name :: .fixed .assign :: value.leaves
  | _, .input name => [.fixed (.keyword .input), .declared .inputTarget name]
  | _, .giveBack value => .fixed (.keyword .return) :: value.leaves
  | _, .literal text => [.literal text]
  | _, .printedValue value => value.leaves
  | _, .noElse => []
  | _, .otherwise blank inner => .fixed (.keyword .else) :: (lineLeaves blank ++ inner.leaves)
  | _, .noParameters => []
  | _, .parameters first others => .declared .parameter first :: others.leaves
  | _, .lastParameter => []
  | _, .nextParameter name others =>
    .fixed .comma :: .declared .parameter name :: others.leaves
  | _, .condition first others => first.leaves ++ others.leaves
  | _, .lastConjunction => []
  | _, .nextConjunction next others =>
    .fixed (.keyword .or) :: (next.leaves ++ others.leaves)
  | _, .conjunction first others => first.leaves ++ others.leaves
  | _, .lastConjunct => []
  | _, .nextConjunct next others =>
    .fixed (.keyword .and) :: (next.leaves ++ others.leaves)
  | _, .not negated => .fixed (.keyword .not) :: negated.leaves
  | _, .group test => .fixed .openParen :: (test.leaves ++ [.fixed .closeParen])
  | _, .compared relation => relation.leaves
  | _, .comparison left right => left.leaves ++ right.leaves
  | _, .rightSide operator _ right others =>
    .fixed operator :: (right.leaves ++ others.leaves)
  | _, .lastRightSide => []
  | _, .nextRightSide next => next.leaves
  | _, .expression first others => first.leaves ++ others.leaves
  | _, .lastTerm => []
  | _, .nextTerm sign _ next others => .fixed sign :: (next.leaves ++ others.leaves)
  | _, .term first others => first.leaves ++ others.leaves
  | _, .lastFactor => []
  | _, .nextFactor operator _ next others =>
    .fixed operator :: (next.leaves ++ others.leaves)
  | _, .plain operand => operand.leaves
  | _, .signed sign _ operand => .fixed sign :: operand.leaves
  | _, .number text => [.number text]
  | _, .read name => [.read name]
  | _, .called application => application.leaves
  | _, .call name values =>
    .read name :: .fixed .openParen :: (values.leaves ++ [.fixed .closeParen])
  | _, .noArguments => []
  | _, .arguments first others => first.leaves ++ others.leaves
  | _, .lastArgument => []
  | _, .nextArgument next others => .fixed .comma :: (next.leaves ++ others.leaves)

/-- The tokens spell the program, and the end of the input follows. -/
def Spells (program : Tree .program) (tokens : List Token) : Prop :=
  tokens.map Token.word = program.leaves.map Leaf.word ++ [.last]

/-- Every `RETURN` stands in the body of a function, if `inFunction` says whether the tree itself
stands in one. -/
def ReturnsBelong : (inFunction : Bool) → {category : Category} → Tree category → Prop
  | inFunction, _, .program _ statements => statements.ReturnsBelong inFunction
  | inFunction, _, .nextStatement first others =>
    first.ReturnsBelong inFunction ∧ others.ReturnsBelong inFunction
  | inFunction, _, .statement command _ => command.ReturnsBelong inFunction
  | inFunction, _, .body statements => statements.ReturnsBelong inFunction
  | inFunction, _, .branch _ _ consequent alternative =>
    consequent.ReturnsBelong inFunction ∧ alternative.ReturnsBelong inFunction
  | inFunction, _, .loop _ _ inner => inner.ReturnsBelong inFunction
  | _, _, .function _ _ _ inner => inner.ReturnsBelong true
  | inFunction, _, .giveBack _ => inFunction = true
  | inFunction, _, .otherwise _ inner => inner.ReturnsBelong inFunction
  | _, _, _ => True

end Tree

/-! ## Declarations and uses -/

/-- Every name that is read is declared further to the left. -/
def DeclaredBeforeRead (leaves : List Leaf) : Prop :=
  ∀ (before : List Leaf) (name : String) (behind : List Leaf),
    leaves = before ++ .read name :: behind → ∃ role, .declared role name ∈ before

/-- The scope behind a leaf. -/
def Scope.behind (scope : Scope) : Leaf → Scope
  | .declared role name => scope.declare name role.kind
  | _ => scope

/-- A leaf that may stand in a scope: a name that is read has to be declared. -/
def Leaf.Allowed (leaf : Leaf) (scope : Scope) : Prop :=
  match leaf with
  | .read name => scope.declares name = true
  | _ => True

/-- Every name that is read is declared in the scope, or further to the left. -/
def Resolved : Scope → List Leaf → Prop
  | _, [] => True
  | scope, leaf :: leaves => leaf.Allowed scope ∧ Resolved (scope.behind leaf) leaves

end Offside
