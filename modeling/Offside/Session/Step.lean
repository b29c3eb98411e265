import Offside.Session.Basic

/-!
# One step of a run

A step deals with the first of the symbols that are still to come. It may put further symbols in its
place.
-/

namespace Offside

/-- What a step leads to. -/
inductive Move where
  /-- The symbols are to be dealt with next. -/
  | proceed (symbols : List Symbol) (session : Session)
  | halt (error : Error) (session : Session)

/-- The move that leads to an outcome, with these symbols to be dealt with next. -/
def Outcome.before (outcome : Outcome) (symbols : List Symbol) : Move :=
  match outcome with
  | .done s => .proceed symbols s
  | .halted error s => .halt error s

namespace Session

/-- The symbols that write a declared name in its place. -/
def declaration (role : Role) (name : String) : List Symbol :=
  match role with
  | .function => [.write .functionOpen, .writeText name]
  | .letTarget | .inputTarget | .parameter => [.writeText name]

/-- Deals with a token that is asked for. -/
def expect (s : Session) (terminal : Terminal) : Move :=
  if s.current.kind = terminal.kind then s.shift.before []
  else (s.refuse (.unmet (.terminal terminal) s.current)).before []

/-- Deals with a name that is declared. It is taken before it is declared. -/
def expectName (s : Session) (role : Role) : Move :=
  if s.current.kind = .identifier then
    match s.shift with
    | .done s' => .proceed (declaration role s.current.text) (s'.declare s.current.text role.kind)
    | .halted error s' => .halt error s'
  else (s.refuse (.unmet (.name role) s.current)).before []

/-- Goes on with a phrase as predicted. -/
def follow (s : Session) : Prediction → Move
  | .derive symbols => .proceed symbols s
  | .take symbols => s.shift.before symbols
  | .copy symbols => (s.write s.currentText).shift.before symbols
  | .refuse fault => (s.refuse fault).before []

/-- Deals with one symbol. -/
def step (s : Session) : Symbol → Move
  | .expect terminal => s.expect terminal
  | .declare role => s.expectName role
  | .phrase phrase => s.follow (s.predict phrase)
  | .write fragment => .proceed [] (s.write (s.target.spelling fragment))
  | .writeLine fragment => .proceed [] (s.writeLine (s.target.spelling fragment))
  | .writeText text => .proceed [] (s.write text)
  | .endLine => .proceed [] (s.writeLine "")
  | .indent => .proceed [] { s with draft := s.draft.indent }
  | .dedent => .proceed [] { s with draft := s.draft.dedent }
  | .setInFunction inFunction => .proceed [] { s with inFunction }
  | .countStatement => .proceed [] { s with statements := s.statements + 1 }
  | .noteBlock => .proceed [] (s.note (.blockOpened s.draft.depth))
  | .noteVariableCall name => .proceed [] (s.note (.variableCalled name))

end Session

end Offside
