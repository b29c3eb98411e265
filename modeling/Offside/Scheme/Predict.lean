import Offside.Scheme.Symbol

/-!
# The grammar, and the code for it

How a phrase goes on is decided by the token at hand. One more token is looked at in one place, to
tell a call from a variable. Two conditions are not a matter of grammar alone: a name that is read
has to be declared, and `RETURN` has to belong to a function. They are checked here too, so that a
token is refused before it is taken and an error is always about the token at hand.

The layout of the result follows from the productions of the block statements: each writes its first
line, takes the line end, and sets its statements one level deeper.
-/

namespace Offside

/-- What a prediction may look at. -/
structure Outlook where
  /-- The token at hand. -/
  current : Token
  /-- The token behind it. -/
  lookahead : Token
  /-- The names that may be read. -/
  scope : Scope
  /-- Whether statements belong to a function. -/
  inFunction : Bool

namespace Outlook

/-- The line end that closes a statement or the first line of a block, and blank lines behind it. -/
def lineEnd : List Symbol := [.expect .newline, .phrase .blankLines]

/-- A statement up to its line end. -/
def statement (o : Outlook) : Prediction :=
  match o.current.kind with
  | .keyword .print => .take [.write .printOpen, .phrase .printed, .writeLine .printClose]
  | .keyword .if =>
    .take <| [.write .ifOpen, .phrase .condition, .writeLine .blockOpen, .expect (.keyword .then)]
      ++ lineEnd ++ [.indent, .phrase (.block .consequent), .phrase .elseBranch, .dedent,
        .expect (.keyword .endIf)]
  | .keyword .while =>
    .take <| [.write .whileOpen, .phrase .condition, .writeLine .blockOpen,
        .expect (.keyword .repeat)]
      ++ lineEnd ++ [.indent, .phrase (.block .loop), .dedent, .expect (.keyword .endWhile)]
  | .keyword .func =>
    .take <| [.declare .function, .expect .openParameters, .writeText "(", .phrase .parameters,
        .expect .closeParameters, .writeText ")", .writeLine .blockOpen]
      ++ lineEnd ++ [.setInFunction true, .indent, .phrase (.block .function), .dedent,
        .expect (.keyword .endFunc), .setInFunction o.inFunction]
  | .keyword .let =>
    .take [.declare .letTarget, .write .assign, .expect .assign, .phrase .expression, .endLine]
  | .keyword .input => .take [.declare .inputTarget, .write .assign, .writeLine .readNumber]
  | .keyword .return =>
    if o.inFunction then .take [.write .returnOpen, .phrase .expression, .endLine]
    else .refuse .returnOutsideFunction
  | .keyword .and => .refuse (.leadingOperator .and)
  | .keyword .or => .refuse (.leadingOperator .or)
  | .keyword .not => .refuse (.leadingOperator .not)
  | _ => .refuse (.noStatement o.current)

/-- A statement with its line end. It is counted before the line end is looked at. -/
def wholeStatement (o : Outlook) : Prediction := o.statement.followedBy (.countStatement :: lineEnd)

/-- The next statement of a block, with those behind it. -/
def blockStatement (o : Outlook) (block : Block) : Prediction :=
  if o.current.kind = .endOfInput then .refuse (.unmet (.blockEnd block) o.current)
  else o.wholeStatement.followedBy [.phrase (.moreStatements block)]

/-- The operand that begins with the token at hand. -/
def operand (o : Outlook) : Prediction :=
  match o.current.kind with
  | .number => .copy []
  | .identifier =>
    match o.scope.kind? o.current.text, o.lookahead.kind with
    | none, _ => .refuse (.undeclared o.current.text)
    | some .variable, .openParen =>
      .derive [.noteVariableCall o.current.text, .phrase .call]
    | some .function, .openParen => .derive [.phrase .call]
    | some _, _ => .copy []
  | _ => .refuse (.unmet .operand o.current)

/-- How a phrase goes on. -/
def predict (o : Outlook) : Phrase → Prediction
  | .blankLines =>
    if o.current.kind = .newline then .take [.phrase .blankLines] else .derive []
  | .statements =>
    if o.current.kind = .endOfInput then .derive []
    else o.wholeStatement.followedBy [.phrase .statements]
  | .statement => o.wholeStatement
  | .block block => .derive [.noteBlock, .phrase (.blockBody block)]
  | .blockBody block =>
    if block.endsAt o.current.kind then .derive [.writeLine .emptyBody] else o.blockStatement block
  | .moreStatements block =>
    if block.endsAt o.current.kind then .derive [] else o.blockStatement block
  | .printed =>
    if o.current.kind = .stringLiteral then .copy [] else .derive [.phrase .expression]
  | .elseBranch =>
    if o.current.kind = .keyword .else then
      .take <| [.dedent, .writeLine .elseLine, .indent] ++ lineEnd
        ++ [.phrase (.block .alternative)]
    else .derive []
  | .parameters =>
    if o.current.kind = .identifier then .derive [.declare .parameter, .phrase .moreParameters]
    else .derive []
  | .moreParameters =>
    if o.current.kind = .comma then
      .take [.writeText ", ", .declare .parameter, .phrase .moreParameters]
    else .derive []
  | .condition => .derive [.phrase .conjunction, .phrase .moreConjunctions]
  | .moreConjunctions =>
    if o.current.kind = .keyword .or then
      .take [.write .or, .phrase .conjunction, .phrase .moreConjunctions]
    else .derive []
  | .conjunction => .derive [.phrase .conjunct, .phrase .moreConjuncts]
  | .moreConjuncts =>
    if o.current.kind = .keyword .and then
      .take [.write .and, .phrase .conjunct, .phrase .moreConjuncts]
    else .derive []
  | .conjunct =>
    match o.current.kind with
    | .keyword .not => .take [.write .not, .phrase .conjunct]
    | .openParen =>
      .take [.writeText "(", .phrase .condition, .expect .closeCondition, .writeText ")"]
    | _ => .derive [.phrase .comparison]
  | .comparison => .derive [.phrase .expression, .phrase .rightSide]
  | .rightSide =>
    if o.current.kind.isComparison then .copy [.phrase .expression, .phrase .moreRightSides]
    else .refuse (.unmet .comparison o.current)
  | .moreRightSides =>
    if o.current.kind.isComparison then .copy [.phrase .expression, .phrase .moreRightSides]
    else .derive []
  | .expression => .derive [.phrase .term, .phrase .moreTerms]
  | .moreTerms =>
    if o.current.kind.isSign then .copy [.phrase .term, .phrase .moreTerms] else .derive []
  | .term => .derive [.phrase .factor, .phrase .moreFactors]
  | .moreFactors =>
    if o.current.kind.isFactorOperator then .copy [.phrase .factor, .phrase .moreFactors]
    else .derive []
  | .factor =>
    if o.current.kind.isSign then .copy [.phrase .primary] else .derive [.phrase .primary]
  | .primary => o.operand
  | .call =>
    if o.current.kind = .identifier then
      .copy [.expect .openParameters, .writeText "(", .phrase .arguments, .expect .closeArguments,
        .writeText ")"]
    else .refuse (.unmet .operand o.current)
  | .arguments =>
    if o.current.kind = .closeParen then .derive []
    else .derive [.phrase .expression, .phrase .moreArguments]
  | .moreArguments =>
    if o.current.kind = .comma then
      .take [.writeText ", ", .phrase .expression, .phrase .moreArguments]
    else .derive []

end Outlook

end Offside
