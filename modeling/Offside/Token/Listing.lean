import Offside.Text.Column
import Offside.Text.Quoted
import Offside.Token.Basic

/-!
# Listing tokens

A listing has a line for each token: the bytes it was read from, its kind, and its text in quotes.
The fields are lined up as long as they fit, and the text comes last and on one line whatever it
holds.
-/

namespace Offside

/-- The line of a listing for a token. -/
def Token.listed (token : Token) : String :=
  s!"{Text.flushRight 5 (toString token.span.start)}.."
    ++ s!"{Text.flushLeft 5 (toString token.span.stop)} "
    ++ s!"{Text.flushLeft 16 token.kind.description} {Text.quoted token.text}\n"

/-- The listing of tokens. -/
def Token.listing (tokens : List Token) : String := String.join (tokens.map Token.listed)

end Offside
