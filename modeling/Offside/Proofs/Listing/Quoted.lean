import Offside.Source.Line
import Offside.Text.Quoted

/-!
# Reading quoted texts

What a quoted text stands for can be read off it from the front, character by
character, and so can where it ends: a quote that belongs to the text has a
backslash before it. Every character comes back from what it is written as,
whichever of them are escaped. So a quoted text may stand at the front of any
other text and is told apart from it.

It stands on one line. Whatever ends a line is not seen on its own, and is
written by a letter or by its code point.
-/

namespace Offside.Text

/-- Where the reader of a quoted text is. -/
inductive Escape where
  /-- At a character of the text, or at the quote behind it. -/
  | none
  /-- Behind a backslash. -/
  | backslash
  /-- Before the brace of a code point. -/
  | opening
  /-- In the digits of a code point, behind those of this number. -/
  | digits (number : Nat)

/-- What a letter behind a backslash stands for. -/
def unescaped : Char → Char
  | '0' => '\x00'
  | 't' => '\t'
  | 'r' => '\r'
  | 'n' => '\n'
  | c => c

/-- The number that a hexadecimal digit stands for. -/
def digitValue (c : Char) : Nat := if c.isDigit then c.toNat - 48 else c.toNat - 87

/-- Reads a quoted text from behind its opening quote: what it stands for, and what is behind its
closing quote. -/
def unquote? : Escape → List Char → Option (List Char × List Char)
  | _, [] => Option.none
  | .none, c :: text =>
    if c = '"' then some ([], text)
    else if c = '\\' then unquote? .backslash text
    else (unquote? .none text).map fun (read, rest) => (c :: read, rest)
  | .backslash, c :: text =>
    if c = 'u' then unquote? .opening text
    else (unquote? .none text).map fun (read, rest) => (unescaped c :: read, rest)
  | .opening, c :: text => if c = '\x7b' then unquote? (.digits 0) text else Option.none
  | .digits number, c :: text =>
    if c = '\x7d' then
      (unquote? .none text).map fun (read, rest) => (Char.ofNat number :: read, rest)
    else unquote? (.digits (16 * number + digitValue c)) text

/-! ## Code points -/

theorem hexDigit_spec : ∀ d < 16, digitValue (hexDigit d) = d ∧ hexDigit d ≠ '\x7d' ∧
    isLineEnd (hexDigit d) = false := by
  decide

theorem unquote?_hexDigits (n : Nat) (text : List Char) :
    unquote? (.digits 0) (hexDigits n ++ text) = unquote? (.digits n) text := by
  fun_induction hexDigits n generalizing text with
  | case1 n small =>
    obtain ⟨value, inside, -⟩ := hexDigit_spec n small
    rw [List.singleton_append, unquote?, if_neg inside, value, Nat.mul_zero, Nat.zero_add]
  | case2 n large ih =>
    obtain ⟨value, inside, -⟩ := hexDigit_spec (n % 16) (Nat.mod_lt _ (by decide))
    rw [List.append_assoc, ih, List.singleton_append, unquote?, if_neg inside, value,
      Nat.div_add_mod]

theorem not_isLineEnd_hexDigits (n : Nat) : ∀ c ∈ hexDigits n, isLineEnd c = false := by
  fun_induction hexDigits n with
  | case1 n small => simpa using (hexDigit_spec n small).2.2
  | case2 n large ih =>
    intro c member
    rcases List.mem_append.1 member with member | member
    · exact ih c member
    · rw [List.mem_singleton.1 member]
      exact (hexDigit_spec _ (Nat.mod_lt _ (by decide))).2.2

/-! ## Characters -/

theorem escapeLetter?_eq_some {c letter : Char} (escaped : escapeLetter? c = some letter) :
    letter ≠ 'u' ∧ unescaped letter = c ∧ isLineEnd letter = false := by
  unfold escapeLetter? at escaped
  split at escaped <;> cases escaped <;> decide

/-- Of the characters that end a line, those that no letter stands for are not seen. -/
theorem isUnprintable_of_isLineEnd {c : Char} (ends : isLineEnd c = true)
    (other : escapeLetter? c = none) : isUnprintable c = true := by
  simp only [isLineEnd, Bool.or_eq_true, beq_iff_eq] at ends
  rcases ends with (((((rfl | rfl) | rfl) | rfl) | rfl) | rfl) | rfl
  · cases other
  · cases other
  all_goals decide +kernel

/-- A character comes back from what it is written as between double quotes. -/
theorem unquote?_quotedWithin (c : Char) (text : List Char) :
    unquote? .none (quotedWithin '"' c ++ text) =
      (unquote? .none text).map fun (read, rest) => (c :: read, rest) := by
  unfold quotedWithin
  split
  · next null => rw [null]; rfl
  · split
    · next quote => rw [quote]; rfl
    · next quote =>
      split
      · next letter escaped =>
        obtain ⟨plain, back, -⟩ := escapeLetter?_eq_some escaped
        simp [unquote?, plain, back]
      · next escaped =>
        split
        · have back : Char.ofNat c.toNat = c := Char.ofNat_toNat c
          simp [byCodePoint, unquote?, unquote?_hexDigits, back]
        · have plain : c ≠ '\\' := by
            rintro rfl
            cases escaped
          simp [unquote?, quote, plain]

theorem not_isLineEnd_quotedWithin (c : Char) :
    ∀ d ∈ quotedWithin '"' c, isLineEnd d = false := by
  unfold quotedWithin
  split
  · simp [isLineEnd]
  · split
    · next quote => simp [quote, isLineEnd]
    · split
      · next letter escaped =>
        have backslash : isLineEnd '\\' = false := rfl
        simp [backslash, (escapeLetter?_eq_some escaped).2.2]
      · next escaped =>
        split
        · intro d member
          simp only [byCodePoint, List.mem_append, List.mem_cons, List.not_mem_nil, or_false]
            at member
          rcases member with ((rfl | rfl | rfl) | digit) | rfl
          all_goals first | decide | exact not_isLineEnd_hexDigits _ d digit
        · next shown =>
          intro d member
          rw [List.mem_singleton.1 member]
          refine Bool.eq_false_iff.2 fun ends => shown ?_
          rw [isUnprintable_of_isLineEnd ends escaped, Bool.true_or]

/-! ## Texts -/

/-- A quoted text is read as the text that it stands for, whatever is behind it. -/
theorem unquote?_flatMap (text rest : List Char) :
    unquote? .none (text.flatMap (quotedWithin '"') ++ '"' :: rest) = some (text, rest) := by
  induction text with
  | nil => rfl
  | cons c text ih =>
    rw [List.flatMap_cons, List.append_assoc, unquote?_quotedWithin, ih]
    rfl

end Offside.Text
