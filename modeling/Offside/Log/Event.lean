import Offside.Log.Record
import Offside.Scope
import Offside.Token.Basic
import Offside.Text.Quoted

/-!
# Events

A session tells every token that it has read, every declaration, every block and every call of a
variable, in the order in which they are met, and at the end how much has been compiled. Tokens are
told at the level of traces and the end as information; all else is for debugging.
-/

namespace Offside

/-- What a session tells of itself. -/
inductive Event where
  | scanned (token : Token)
  | declared (kind : NameKind) (name : String)
  /-- A name is declared once more, as another kind of name. -/
  | redeclared (name : String) (first again : NameKind)
  /-- The statements of a block begin. -/
  | blockOpened (depth : Nat)
  | variableCalled (name : String)
  | finished (statements : Nat) (language : String) (names : Nat)
deriving Repr, DecidableEq

/-- What is told of a token that has been read. The end of the input is not worth telling. -/
def Event.ofToken? (token : Token) : Option Event :=
  if token.kind = .endOfInput then none else some (.scanned token)

/-- The record of an event. -/
def Event.record : Event → Log.Record
  | .scanned token =>
    ⟨.trace, .lexer,
      s!"token {token.kind.description} {Text.quoted token.text} at {token.span.start}"⟩
  | .declared kind name =>
    ⟨.debug, .scope, s!"declare {kind.description} '{name}'"⟩
  | .redeclared name first again =>
    ⟨.debug, .scope,
      s!"'{name}' already declared as {first.description}, re-declared as {again.description}"⟩
  | .blockOpened depth =>
    ⟨.debug, .session, s!"block at depth {depth}"⟩
  | .variableCalled name =>
    ⟨.debug, .session, s!"calling '{name}', declared as a variable"⟩
  | .finished statements language names =>
    ⟨.info, .session,
      s!"translated {statements} statements to {language}, {names} names declared"⟩

end Offside
