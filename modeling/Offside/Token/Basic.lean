import Offside.Source.Span

/-!
# Tokens

The words of the language. A keyword is spelled in capital letters and in one way only; every other
word is an identifier. A token carries the text it was read from, except that the text of a string
literal leaves out the quotes and the end of the input has no text at all.
-/

namespace Offside

/-- The reserved words. `LABEL` and `GOTO` are reserved without a use. -/
inductive Keyword where
  | label | goto
  | print | input | let | if | then | else | endIf | while | repeat | endWhile
  | func | endFunc | return
  | and | or | not
deriving Repr, DecidableEq

namespace Keyword

/-- Every keyword. -/
def all : List Keyword :=
  [.label, .goto, .print, .input, .let, .if, .then, .else, .endIf, .while, .repeat, .endWhile,
   .func, .endFunc, .return, .and, .or, .not]

/-- The spelling of a keyword. -/
def text : Keyword → String
  | .label => "LABEL"
  | .goto => "GOTO"
  | .print => "PRINT"
  | .input => "INPUT"
  | .let => "LET"
  | .if => "IF"
  | .then => "THEN"
  | .else => "ELSE"
  | .endIf => "ENDIF"
  | .while => "WHILE"
  | .repeat => "REPEAT"
  | .endWhile => "ENDWHILE"
  | .func => "FUNC"
  | .endFunc => "ENDFUNC"
  | .return => "RETURN"
  | .and => "AND"
  | .or => "OR"
  | .not => "NOT"

/-- The keyword with this spelling. -/
def ofText? (word : String) : Option Keyword := all.find? (·.text == word)

theorem mem_all (k : Keyword) : k ∈ all := by cases k <;> decide

theorem ofText?_text (k : Keyword) : ofText? k.text = some k := by cases k <;> decide

/-- A word is a keyword exactly if it is the spelling of one. -/
theorem ofText?_eq_some_iff {word : String} {k : Keyword} :
    ofText? word = some k ↔ k.text = word := by
  constructor
  · intro h
    simpa using List.find?_some h
  · rintro rfl
    exact ofText?_text k

end Keyword

/-- The kinds of token. -/
inductive Token.Kind where
  | endOfInput
  | newline
  | number
  | identifier
  | stringLiteral
  | keyword (word : Keyword)
  | assign
  | plus | minus | times | divide
  | equal | unequal | less | lessOrEqual | greater | greaterOrEqual
  | openParen | closeParen | comma
deriving Repr, DecidableEq

namespace Token.Kind

/-- The name of a kind in messages. -/
def description : Kind → String
  | .endOfInput => "end of input"
  | .newline => "newline"
  | .number => "number"
  | .identifier => "identifier"
  | .stringLiteral => "string literal"
  | .keyword word => word.text
  | .assign => "'='"
  | .plus => "'+'"
  | .minus => "'-'"
  | .times => "'*'"
  | .divide => "'/'"
  | .equal => "'=='"
  | .unequal => "'!='"
  | .less => "'<'"
  | .lessOrEqual => "'<='"
  | .greater => "'>'"
  | .greaterOrEqual => "'>='"
  | .openParen => "'('"
  | .closeParen => "')'"
  | .comma => "','"

/-- The six operators that compare two numbers. -/
def isComparison : Kind → Bool
  | .equal | .unequal | .less | .lessOrEqual | .greater | .greaterOrEqual => true
  | _ => false

/-- The signs, which also add and subtract. -/
def isSign : Kind → Bool
  | .plus | .minus => true
  | _ => false

/-- The operators that multiply and divide. -/
def isFactorOperator : Kind → Bool
  | .times | .divide => true
  | _ => false

end Token.Kind

/-- A word of a source, with the bytes it was read from. -/
structure Token where
  kind : Token.Kind
  text : String
  span : Span
deriving Repr, DecidableEq

end Offside
