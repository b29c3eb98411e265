import Offside.Token.Basic
import Offside.Token.Fault
import Offside.Text.Unprintable

/-!
# Reading one word

The word at the front of a text is decided by its first character. Where one word begins another,
as `=` begins `==`, the longer one is read. A number is passed on as it is written: digits, and at
most one point, behind which there need not be any more digits. Only ASCII letters and digits make
up names; every other character outside of a string literal and a comment is a fault.

What is taken from the text and what is left of it together are the text, also after a fault. A
character that is illegal between quotes is left, so that the next reading begins with it.
-/

namespace Offside

/-- The outcome of reading the word at the front of a text. -/
structure Reading where
  /-- The characters that were passed over. -/
  taken : List Char
  /-- The characters after them. -/
  rest : List Char
  /-- The kind of the word and its text, or why there is none. -/
  result : Except LexicalFault (Token.Kind × List Char)

namespace Reading

/-- A word whose text is all that was taken. -/
def word (kind : Token.Kind) (taken rest : List Char) : Reading :=
  ⟨taken, rest, .ok (kind, taken)⟩

/-- Taking characters without finding a word. -/
def fault (fault : LexicalFault) (taken rest : List Char) : Reading := ⟨taken, rest, .error fault⟩

/-- The kind of a word that is one character and begins no longer word. -/
def single? : Char → Option Token.Kind
  | '\n' => some .newline
  | '+' => some .plus
  | '-' => some .minus
  | '*' => some .times
  | '/' => some .divide
  | '(' => some .openParen
  | ')' => some .closeParen
  | ',' => some .comma
  | _ => none

/-- The kinds of a character that may be followed by `=`: on its own, if it is a word then, and
together with the `=`. -/
def beforeEquals? : Char → Option (Option Token.Kind × Token.Kind)
  | '=' => some (some .assign, .equal)
  | '<' => some (some .less, .lessOrEqual)
  | '>' => some (some .greater, .greaterOrEqual)
  | '!' => some (none, .unequal)
  | _ => none

/-- Reads a character that may be followed by `=`. -/
def comparator (c : Char) (alone : Option Token.Kind) (joined : Token.Kind) :
    List Char → Reading
  | '=' :: text => word joined [c, '='] text
  | text => match alone with
    | some kind => word kind [c] text
    | none => fault .bareBang [c] text

/-- Reads digits, and a point with further digits. -/
def number (text : List Char) : Reading :=
  let whole := text.takeWhile Char.isDigit
  match text.dropWhile Char.isDigit with
  | '.' :: text =>
    word .number (whole ++ '.' :: text.takeWhile Char.isDigit) (text.dropWhile Char.isDigit)
  | text => word .number whole text

/-- The kind of a name: a keyword if it is the spelling of one. -/
def nameKind (name : List Char) : Token.Kind :=
  match Keyword.ofText? (String.ofList name) with
  | some keyword => .keyword keyword
  | none => .identifier

/-- Reads letters and digits. -/
def name (text : List Char) : Reading :=
  let taken := text.takeWhile Char.isAlphanum
  word (nameKind taken) taken (text.dropWhile Char.isAlphanum)

/-- A character that may stand between quotes. -/
def isLegalInString (c : Char) : Bool :=
  c != '"' && c != '\\' && c != '%' && !Text.isControl c

/-- Reads what follows an opening quote. -/
def stringLiteral (text : List Char) : Reading :=
  let legal := text.takeWhile isLegalInString
  match text.dropWhile isLegalInString with
  | [] => fault .unterminatedString ('"' :: legal) []
  | '\n' :: text => fault .unterminatedString ('"' :: legal) ('\n' :: text)
  | '"' :: text => ⟨'"' :: legal ++ ['"'], text, .ok (.stringLiteral, legal)⟩
  | c :: text => fault (.illegalInString c) ('"' :: legal) (c :: text)

/-- Reads the word that begins with `c`. -/
def first (c : Char) (text : List Char) : Reading :=
  match single? c, beforeEquals? c with
  | some kind, _ => word kind [c] text
  | none, some (alone, joined) => comparator c alone joined text
  | none, none =>
    if c = '"' then stringLiteral text
    else if c.isDigit then number (c :: text)
    else if c.isAlpha then name (c :: text)
    else fault (.unknown c) [c] text

/-! ## What a reading does to its text -/

/-- The reading is one of this text: nothing is lost, and it begins with its first character. -/
def Splits (reading : Reading) (text : List Char) : Prop :=
  reading.taken ++ reading.rest = text ∧ reading.taken ≠ []

theorem comparator_splits (c : Char) (alone : Option Token.Kind) (joined : Token.Kind)
    (text : List Char) : (comparator c alone joined text).Splits (c :: text) := by
  unfold comparator
  split
  · simp [Splits, word]
  · cases alone <;> simp [Splits, word, fault]

theorem number_splits {c : Char} (text : List Char) (h : c.isDigit = true) :
    (number (c :: text)).Splits (c :: text) := by
  have whole := List.takeWhile_append_dropWhile (p := Char.isDigit) (l := c :: text)
  unfold number
  split
  · next fraction rest =>
    rw [rest] at whole
    simpa [Splits, word, h] using whole
  · simp [Splits, word, h]

theorem name_splits {c : Char} (text : List Char) (h : c.isAlpha = true) :
    (name (c :: text)).Splits (c :: text) := by
  simp [Splits, name, word, Char.isAlphanum, h]

theorem stringLiteral_splits (text : List Char) :
    (stringLiteral text).Splits ('"' :: text) := by
  have whole := List.takeWhile_append_dropWhile (p := isLegalInString) (l := text)
  unfold stringLiteral
  split <;> next rest => rw [rest] at whole; simpa [Splits, fault] using whole

/-- Reading passes over at least one character and keeps the others. -/
theorem first_splits (c : Char) (text : List Char) : (first c text).Splits (c :: text) := by
  unfold first
  split
  · simp [Splits, word]
  · exact comparator_splits ..
  · split
    · next h => rw [h]; exact stringLiteral_splits text
    · split
      · next h => exact number_splits text h
      · split
        · next h => exact name_splits text h
        · simp [Splits, fault]

end Reading

end Offside
