import Offside.Scope
import Offside.Token.Reading

/-!
# Words

What the grammar says of a token depends on its kind and its text and never on
its place, so the grammar is stated on words: tokens that have forgotten where
they were read.

Most kinds have one spelling. The text of a word is then known from its kind,
and a word is *proper* if it has that text. For a number, an identifier or a
string literal, being proper is a condition on the characters of the text.
-/

namespace Offside

/-- A token without its place. -/
structure Word where
  kind : Token.Kind
  text : String
deriving Repr, DecidableEq

/-- What is left of a token when its place is forgotten. -/
def Token.word (token : Token) : Word := ⟨token.kind, token.text⟩

@[simp] theorem Token.word_kind (token : Token) : token.word.kind = token.kind := rfl

@[simp] theorem Token.word_text (token : Token) : token.word.text = token.text := rfl

/-- The spelling of a kind whose words all look the same. -/
def Token.Kind.spelling : Token.Kind → String
  | .endOfInput | .number | .identifier | .stringLiteral => ""
  | .newline => "\n"
  | .keyword word => word.text
  | .assign => "="
  | .plus => "+"
  | .minus => "-"
  | .times => "*"
  | .divide => "/"
  | .equal => "=="
  | .unequal => "!="
  | .less => "<"
  | .lessOrEqual => "<="
  | .greater => ">"
  | .greaterOrEqual => ">="
  | .openParen => "("
  | .closeParen => ")"
  | .comma => ","

/-- Whether the words of a kind carry a text of their own. -/
def Token.Kind.hasText : Token.Kind → Bool
  | .number | .identifier | .stringLiteral => true
  | _ => false

namespace Word

/-- The one word of a kind whose words all look the same. -/
def fixed (kind : Token.Kind) : Word := ⟨kind, kind.spelling⟩

/-- The word behind the last one of every source. -/
def last : Word := fixed .endOfInput

/-- Digits, and behind a point any number of further digits. -/
def IsNumber (text : List Char) : Prop :=
  ∃ whole : List Char, whole ≠ [] ∧ (∀ c ∈ whole, c.isDigit = true) ∧
    (text = whole ∨ ∃ fraction : List Char, (∀ c ∈ fraction, c.isDigit = true) ∧
      text = whole ++ '.' :: fraction)

/-- A letter, and behind it letters and digits. -/
def IsName (text : List Char) : Prop :=
  ∃ (c : Char) (more : List Char), text = c :: more ∧ c.isAlpha = true ∧
    ∀ d ∈ more, d.isAlphanum = true

/-- The text of the word is one that its kind allows. -/
def Proper (word : Word) : Prop :=
  match word.kind with
  | .number => IsNumber word.text.toList
  | .identifier => IsName word.text.toList ∧ Keyword.ofText? word.text = none
  | .stringLiteral => ∀ c ∈ word.text.toList, Reading.isLegalInString c = true
  | kind => word.text = kind.spelling

/-- A proper word is known from its kind, but for the three kinds that carry a text. -/
theorem Proper.eq_fixed {word : Word} (h : word.Proper) (plain : word.kind.hasText = false) :
    word = fixed word.kind := by
  obtain ⟨kind, text⟩ := word
  cases kind with
  | number | identifier | stringLiteral => cases plain
  | _ => exact congrArg (Word.mk _) h

theorem proper_fixed {kind : Token.Kind} (plain : kind.hasText = false) :
    (fixed kind).Proper := by
  cases kind with
  | number | identifier | stringLiteral => cases plain
  | _ => rfl

end Word

end Offside
