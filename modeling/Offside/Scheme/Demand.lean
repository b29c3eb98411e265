import Offside.Scope
import Offside.Token.Basic
import Offside.Text.Quoted

/-!
# What the grammar asks for

Where the grammar leaves a choice of tokens and the token at hand is none of them, the error says
what was asked for and what was found instead. The same token may be asked for in several places,
and the message then names the place.
-/

namespace Offside

/-- A token that the grammar asks for in a certain place. -/
inductive Terminal where
  | newline
  | keyword (word : Keyword)
  /-- The `(` behind the name of a function. -/
  | openParameters
  /-- The `)` behind the parameters of a function. -/
  | closeParameters
  /-- The `)` behind the arguments of a call. -/
  | closeArguments
  /-- The `)` behind a condition in parentheses. -/
  | closeCondition
  /-- The `=` behind the variable of an assignment. -/
  | assign
deriving Repr, DecidableEq

/-- The kind of the token that is asked for. -/
def Terminal.kind : Terminal → Token.Kind
  | .newline => .newline
  | .keyword word => .keyword word
  | .openParameters => .openParen
  | .closeParameters | .closeArguments | .closeCondition => .closeParen
  | .assign => .assign

/-- A sequence of statements inside a statement. -/
inductive Block where
  /-- What is done if a condition holds. -/
  | consequent
  /-- What is done otherwise. -/
  | alternative
  | loop
  | function
deriving Repr, DecidableEq

/-- The keywords that end a block. -/
def Block.ends : Block → List Keyword
  | .consequent => [.else, .endIf]
  | .alternative => [.endIf]
  | .loop => [.endWhile]
  | .function => [.endFunc]

/-- Whether a token of this kind ends the block. -/
def Block.endsAt (block : Block) (kind : Token.Kind) : Bool :=
  block.ends.any fun word => kind == .keyword word

/-- What the grammar asks for in a place. -/
inductive Demand where
  | terminal (terminal : Terminal)
  | name (role : Role)
  | comparison
  | operand
  | blockEnd (block : Block)
deriving Repr, DecidableEq

/-- The first half of the message that a demand was not met. -/
def Demand.message : Demand → String
  | .terminal .newline => "expected newline"
  | .terminal (.keyword word) => s!"expected {word.text}"
  | .terminal .openParameters => "expected '(' after function name"
  | .terminal .closeParameters => "expected ')' after parameters"
  | .terminal .closeArguments => "expected ')' after arguments"
  | .terminal .closeCondition => "expected ')' to close condition"
  | .terminal .assign => "expected '=' after variable name"
  | .name .function => "expected function name after FUNC"
  | .name .letTarget => "expected variable name after LET"
  | .name .inputTarget => "expected variable name after INPUT"
  | .name .parameter => "expected parameter name"
  | .comparison => "expected comparison operator"
  | .operand => "expected number or identifier"
  | .blockEnd block => "expected " ++ " or ".intercalate (block.ends.map Keyword.text)

/-- A token as it is shown where another was asked for. -/
def Token.shown (token : Token) : String :=
  match token.kind with
  | .endOfInput | .newline => token.kind.description
  | .stringLiteral => s!"string \"{token.text}\""
  | _ => s!"'{token.text}'"

/-- Why a token is refused. -/
inductive GrammarFault where
  /-- The token does not meet the demand. -/
  | unmet (demand : Demand) (found : Token)
  /-- A name is read before it has been declared. -/
  | undeclared (name : String)
  | returnOutsideFunction
  /-- A statement begins with a boolean operator. -/
  | leadingOperator (operator : Keyword)
  /-- A statement begins with a token that begins none. -/
  | noStatement (found : Token)
deriving Repr, DecidableEq

/-- The message of a fault. -/
def GrammarFault.message : GrammarFault → String
  | .unmet demand found => s!"{demand.message}, found {found.shown}"
  | .undeclared name => s!"'{name}' used before declared"
  | .returnOutsideFunction => "RETURN outside of function"
  | .leadingOperator operator => s!"boolean operator {operator.text} cannot start a statement"
  | .noStatement found =>
    s!"invalid statement at '{Text.escaped found.text}' ({found.kind.description})"

end Offside
