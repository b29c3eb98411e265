import Offside.Draft
import Offside.Log.Event
import Offside.Scheme.Predict
import Offside.Token.Lexer

/-!
# Sessions

A session is a compilation under way. It holds a window of two tokens on the source, the names
declared so far, and the code written so far. Nothing is undone when an error ends a run: the
session stays as it was when the error was found, half a line of code included, and may be asked
again.
-/

namespace Offside

/-- A compilation under way. -/
structure Session extends Outlook where
  /-- What is behind the window. -/
  lexer : Lexer
  draft : Draft
  target : Target
  /-- The number of statements compiled so far. -/
  statements : Nat := 0
  log : Array Event

/-- How a run ends. -/
inductive Outcome where
  | done (session : Session)
  | halted (error : Error) (session : Session)

namespace Session

/-- Begins a session. This fails if one of the first two tokens cannot be read, and what has been
told by then is kept. -/
def start (source : String) (width : Nat) (target : Target) :
    Except (Error × Array Event) Session :=
  match (Lexer.start source).next with
  | (.error error, _) => .error (error, #[])
  | (.ok current, lexer) =>
    match lexer.next with
    | (.error error, _) => .error (error, (Event.ofToken? current).toArray)
    | (.ok lookahead, lexer) =>
      .ok { current, lookahead, scope := .empty, inFunction := false, lexer, target
            draft := ⟨width, "", "", 0, false⟩
            log := (Event.ofToken? current).toArray ++ (Event.ofToken? lookahead).toArray }

/-- Tells an event. -/
def note (s : Session) (event : Event) : Session := { s with log := s.log.push event }

/-- Moves the window on by one token. If that token is faulty the window stays, but the faulty word
has been passed over. -/
def shift (s : Session) : Outcome :=
  match s.lexer.next with
  | (.error error, lexer) => .halted error { s with lexer }
  | (.ok token, lexer) =>
    .done { s with
      current := s.lookahead, lookahead := token, lexer
      log := s.log ++ (Event.ofToken? token).toArray }

/-- Writes a piece of a line. -/
def write (s : Session) (piece : String) : Session := { s with draft := s.draft.write piece }

/-- Writes the last piece of a line. -/
def writeLine (s : Session) (piece : String) : Session :=
  { s with draft := s.draft.writeLine piece }

/-- The token at hand as it is written: a string literal in the way of the target language, any
other token as it stands in the source. -/
def currentText (s : Session) : String :=
  match s.current.kind with
  | .stringLiteral => s.target.quote s.current.text
  | _ => s.current.text

/-- Ends the run because of the token at hand. -/
def refuse (s : Session) (fault : GrammarFault) : Outcome :=
  .halted (.grammatical fault s.current.span) s

/-- Declares a name. It is told if this is new, or would have changed its kind. -/
def declare (s : Session) (name : String) (kind : NameKind) : Session :=
  match s.scope.kind? name with
  | none => { s.note (.declared kind name) with scope := s.scope.declare name kind }
  | some first => if first = kind then s else s.note (.redeclared name first kind)

end Session

end Offside
