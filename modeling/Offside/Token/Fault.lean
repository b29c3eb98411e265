import Offside.Text.Quoted

/-!
# What can be wrong with a word

Four things can keep the front of a text from being a word of the language. The character that is to
blame is kept, and quoted in the message.
-/

namespace Offside

/-- Why no token could be read. -/
inductive LexicalFault where
  /-- A `!` without the `=` that would make it an operator. -/
  | bareBang
  /-- A character with which no token begins. -/
  | unknown (c : Char)
  /-- A control character, a backslash or a percent sign between quotes. -/
  | illegalInString (c : Char)
  /-- A line that ends between quotes. -/
  | unterminatedString
deriving Repr, DecidableEq

/-- The message of a fault. -/
def LexicalFault.message : LexicalFault → String
  | .bareBang => "expected '!=', found a bare '!'"
  | .unknown c => s!"unknown token: {Text.quotedChar c}"
  | .illegalInString c => s!"illegal character in string: {Text.quotedChar c}"
  | .unterminatedString => "unterminated string"

end Offside
