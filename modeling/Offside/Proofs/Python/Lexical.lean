import Offside.Proofs.Grammar.Word

/-!
# Names and numbers of Python

Two lexical rules of Python 3 concern what a program hands over to its code: some
names are reserved, and a number has to be a literal of the grammar below.

The numbers of the language are digits with at most one point. With a point they
are literals of Python in any case. Without one they could only be integers,
because every other literal has a character that is not a digit, and an integer
that begins with `0` has no digit but `0`. So the numbers that are not literals
are those that were padded with zeros.
-/

namespace Offside.Python

/-- The words of Python 3 that are not names. -/
def reserved : List String :=
  ["False", "None", "True", "and", "as", "assert", "async", "await", "break", "class", "continue",
   "def", "del", "elif", "else", "except", "finally", "for", "from", "global", "if", "import", "in",
   "is", "lambda", "nonlocal", "not", "or", "pass", "raise", "return", "try", "while", "with",
   "yield"]

/-! ## The grammar of numbers -/

/-- `(["_"] digit)*` -/
inductive Grouped (isDigit : Char → Bool) : List Char → Prop where
  | nil : Grouped isDigit []
  | digit {c : Char} {more : List Char} (digit : isDigit c = true)
      (others : Grouped isDigit more) : Grouped isDigit (c :: more)
  | underscore {c : Char} {more : List Char} (digit : isDigit c = true)
      (others : Grouped isDigit more) : Grouped isDigit ('_' :: c :: more)

/-- `digitpart ::= digit (["_"] digit)*` -/
inductive IsDigitPart : List Char → Prop where
  | digits {c : Char} {more : List Char} (digit : c.isDigit = true)
      (others : Grouped Char.isDigit more) : IsDigitPart (c :: more)

/-- The digits that may stand behind `0` and a letter. -/
def isDigitOf : (base : Char) → Char → Bool
  | 'b', c | 'B', c => c == '0' || c == '1'
  | 'o', c | 'O', c => '0' ≤ c && c ≤ '7'
  | 'x', c | 'X', c => c.isDigit || 'a' ≤ c && c ≤ 'f' || 'A' ≤ c && c ≤ 'F'
  | _, _ => false

/-- `integer ::= decinteger | bininteger | octinteger | hexinteger` -/
inductive IsInteger : List Char → Prop where
  /-- `nonzerodigit (["_"] digit)*` -/
  | decimal {c : Char} {more : List Char} (digit : c.isDigit = true) (nonzero : c ≠ '0')
      (others : Grouped Char.isDigit more) : IsInteger (c :: more)
  /-- `"0"+ (["_"] "0")*` -/
  | zero {more : List Char} (others : Grouped (· == '0') more) : IsInteger ('0' :: more)
  /-- `"0" ("b" | "B") (["_"] bindigit)+`, and the same for `o` and `x` -/
  | based {base : Char} {digits : List Char} (nonempty : digits ≠ [])
      (others : Grouped (isDigitOf base) digits) : IsInteger ('0' :: base :: digits)

/-- `pointfloat ::= [digitpart] "." digitpart | digitpart "."` -/
inductive IsPointFloat : List Char → Prop where
  | fraction {fraction : List Char} (behind : IsDigitPart fraction) :
    IsPointFloat ('.' :: fraction)
  | both {whole fraction : List Char} (before : IsDigitPart whole)
      (behind : IsDigitPart fraction) : IsPointFloat (whole ++ '.' :: fraction)
  | whole {whole : List Char} (before : IsDigitPart whole) : IsPointFloat (whole ++ ['.'])

/-- `exponent ::= ("e" | "E") ["+" | "-"] digitpart` -/
inductive IsExponent : List Char → Prop where
  | exponent {mark : Char} {sign digits : List Char} (marks : mark = 'e' ∨ mark = 'E')
      (signs : sign = [] ∨ sign = ['+'] ∨ sign = ['-']) (behind : IsDigitPart digits) :
    IsExponent (mark :: (sign ++ digits))

/-- `floatnumber ::= pointfloat | (digitpart | pointfloat) exponent` -/
inductive IsFloat : List Char → Prop where
  | point {text : List Char} (float : IsPointFloat text) : IsFloat text
  | exponent {text exponent : List Char} (before : IsDigitPart text ∨ IsPointFloat text)
      (behind : IsExponent exponent) : IsFloat (text ++ exponent)

/-- The numeric literals: `integer | floatnumber | (floatnumber | digitpart) ("j" | "J")` -/
inductive IsNumeral : List Char → Prop where
  | integer {text : List Char} (integer : IsInteger text) : IsNumeral text
  | float {text : List Char} (float : IsFloat text) : IsNumeral text
  | imaginary {text : List Char} {mark : Char} (before : IsFloat text ∨ IsDigitPart text)
      (marks : mark = 'j' ∨ mark = 'J') : IsNumeral (text ++ [mark])

/-! ## Numbers of the language -/

/-- Digits of which the first is `0` although another is not. -/
def IsPadded (text : List Char) : Prop :=
  '.' ∉ text ∧ text.head? = some '0' ∧ ∃ c ∈ text, c ≠ '0'

variable {text : List Char}

theorem grouped_of_forall {isDigit : Char → Bool} (digits : ∀ c ∈ text, isDigit c = true) :
    Grouped isDigit text := by
  induction text with
  | nil => exact .nil
  | cons c text ih =>
    exact .digit (digits c List.mem_cons_self)
      (ih fun d member => digits d (List.mem_cons_of_mem _ member))

theorem isDigitPart_of_forall (nonempty : text ≠ []) (digits : ∀ c ∈ text, c.isDigit = true) :
    IsDigitPart text := by
  cases text with
  | nil => exact absurd rfl nonempty
  | cons c text =>
    exact .digits (digits c List.mem_cons_self)
      (grouped_of_forall fun d member => digits d (List.mem_cons_of_mem _ member))

/-- Digits that are all of a kind, but for underscores, are all of that kind. -/
theorem Grouped.forall_of_digits {isDigit : Char → Bool} (grouped : Grouped isDigit text)
    (digits : ∀ c ∈ text, c.isDigit = true) : ∀ c ∈ text, isDigit c = true := by
  induction grouped with
  | nil => nofun
  | digit digit others ih =>
    intro c member
    rcases List.mem_cons.1 member with rfl | member
    · exact digit
    · exact ih (fun d member => digits d (List.mem_cons_of_mem _ member)) c member
  | underscore digit others ih => exact absurd (digits '_' List.mem_cons_self) (by decide)

theorem not_isDigit_of_isDigitOf {base c : Char} (digit : isDigitOf base c = true) :
    base.isDigit = false := by
  unfold isDigitOf at digit
  split at digit <;> first
    | rfl
    | cases digit

theorem IsPointFloat.point_mem (float : IsPointFloat text) : '.' ∈ text := by
  cases float <;> simp

theorem IsFloat.exists_not_digit (float : IsFloat text) : ∃ c ∈ text, c.isDigit = false := by
  cases float with
  | point float => exact ⟨'.', float.point_mem, rfl⟩
  | exponent before behind =>
    obtain ⟨marks, signs, behind⟩ := behind
    refine ⟨_, List.mem_append_right _ List.mem_cons_self, ?_⟩
    rcases marks with rfl | rfl <;> rfl

/-- A literal that consists of digits is an integer. -/
theorem IsNumeral.integer_of_digits (numeral : IsNumeral text)
    (digits : ∀ c ∈ text, c.isDigit = true) : IsInteger text := by
  cases numeral with
  | integer integer => exact integer
  | float float =>
    obtain ⟨c, member, not⟩ := float.exists_not_digit
    rw [digits c member] at not
    cases not
  | imaginary before marks =>
    have digit := digits _ (List.mem_append_right _ List.mem_cons_self)
    rcases marks with rfl | rfl <;> cases digit

theorem not_isPadded_of_isInteger (integer : IsInteger text)
    (digits : ∀ c ∈ text, c.isDigit = true) : ¬IsPadded text := by
  intro padded
  obtain ⟨-, zero, c, member, nonzero⟩ := padded
  cases integer with
  | decimal digit first others => exact first (Option.some.inj zero)
  | zero others =>
    rcases List.mem_cons.1 member with rfl | member
    · exact nonzero rfl
    · have zeros := others.forall_of_digits fun d member => digits d (List.mem_cons_of_mem _ member)
      exact nonzero (eq_of_beq (zeros c member))
  | @based base further nonempty others =>
    have based := others.forall_of_digits fun d member =>
      digits d (List.mem_cons_of_mem _ (List.mem_cons_of_mem _ member))
    obtain ⟨d, member⟩ := List.exists_mem_of_ne_nil further nonempty
    have not := not_isDigit_of_isDigitOf (based d member)
    rw [digits base (by simp)] at not
    cases not

theorem isInteger_of_not_isPadded (nonempty : text ≠ []) (digits : ∀ c ∈ text, c.isDigit = true)
    (unpadded : ¬IsPadded text) : IsInteger text := by
  cases text with
  | nil => exact absurd rfl nonempty
  | cons c text =>
    have others : ∀ d ∈ text, d.isDigit = true :=
      fun d member => digits d (List.mem_cons_of_mem _ member)
    by_cases zero : c = '0'
    · subst zero
      refine .zero (grouped_of_forall fun d member => beq_iff_eq.2 ?_)
      refine Classical.byContradiction fun nonzero => unpadded ⟨?_, rfl, d, ?_, nonzero⟩
      · intro point
        exact absurd (digits _ point) (by decide)
      · exact List.mem_cons_of_mem _ member
    · exact .decimal (digits c List.mem_cons_self) zero (grouped_of_forall others)

/-- The numbers that are not literals of Python are those that were padded with zeros. -/
theorem isNumeral_iff (number : Word.IsNumber text) : IsNumeral text ↔ ¬IsPadded text := by
  obtain ⟨whole, nonempty, digits, rfl | ⟨fraction, further, rfl⟩⟩ := number
  · constructor
    · intro numeral
      exact not_isPadded_of_isInteger (numeral.integer_of_digits digits) digits
    · intro unpadded
      exact .integer (isInteger_of_not_isPadded nonempty digits unpadded)
  · have before := isDigitPart_of_forall nonempty digits
    refine iff_of_true (.float (.point ?_)) fun padded => padded.1 (by simp)
    by_cases none : fraction = []
    · rw [none]
      exact .whole before
    · exact .both before (isDigitPart_of_forall none further)

end Offside.Python
