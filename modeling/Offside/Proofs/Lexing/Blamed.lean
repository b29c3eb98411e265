import Mathlib
import Offside.Proofs.Lexing.Progress

/-!
# What an error of the lexer blames

The span of an error is the place of the characters that are wrong, and of no
others. There are two ways in which it comes about. Most faults are blamed on
everything that was passed over. An illegal character between quotes is blamed
alone, and it has not been passed over: the lexer stands before it, and goes on
with it as if the quote had never been.

Both ways come to the same here. A faulty word consists of a front, which is all
right as far as it goes, and of what is blamed. Only for an illegal character is
the front not empty, and then it is the opening quote with the legal characters
behind it. So it does not matter how the lexer came to the word, nor that the
word may be the rest of another one that was faulty before.
-/

namespace Offside

namespace LexicalFault

/-- What a fault is blamed on. The faulty word begins with `front`, the characters `blamed` are
wrong with it, and `behind` is the rest of the text. -/
inductive Blames : LexicalFault → (front blamed behind : List Char) → Prop where
  | bareBang {behind : List Char} (alone : behind.head? ≠ some '=') :
    Blames .bareBang [] ['!'] behind
  | unknown {c : Char} {behind : List Char}
      (other : ∀ lexeme, IsLexeme lexeme → lexeme.head? ≠ some c) :
    Blames (.unknown c) [] [c] behind
  | illegalInString {c : Char} {quoted behind : List Char}
      (legal : ∀ d ∈ quoted, Reading.isLegalInString d = true)
      (illegal : Text.isControl c = true ∧ c ≠ '\n' ∨ c = '\\' ∨ c = '%') :
    Blames (.illegalInString c) ('"' :: quoted) [c] behind
  | unterminatedString {quoted behind : List Char}
      (legal : ∀ d ∈ quoted, Reading.isLegalInString d = true)
      (ended : behind = [] ∨ behind.head? = some '\n') :
    Blames .unterminatedString [] ('"' :: quoted) behind

/-- Where the lexer goes on after a fault that is blamed on these bytes. -/
def resumesAt (span : Span) : LexicalFault → Nat
  | .illegalInString _ => span.start
  | _ => span.stop

namespace Blames

variable {fault : LexicalFault} {front blamed behind : List Char}

theorem ne_nil (blames : fault.Blames front blamed behind) : blamed ≠ [] := by
  cases blames <;> exact List.cons_ne_nil _ _

/-- No line end is ever blamed. -/
theorem newline_not_mem (blames : fault.Blames front blamed behind) : '\n' ∉ blamed := by
  intro member
  cases blames with
  | bareBang => exact absurd (List.mem_singleton.1 member) (by decide)
  | unknown other =>
    obtain rfl := List.mem_singleton.1 member
    have newline : IsLexeme ['\n'] := ⟨_, .sign (by decide : ("\n", .newline) ∈ signs)⟩
    exact other _ newline rfl
  | illegalInString legal illegal =>
    obtain rfl := List.mem_singleton.1 member
    exact absurd illegal (by decide)
  | unterminatedString legal ended =>
    rcases List.mem_cons.1 member with same | member
    · cases same
    · exact absurd (legal _ member) (by decide)

/-- The line end that closes a source has no part in the fault. -/
theorem of_closed (blames : fault.Blames front blamed (behind ++ ['\n'])) :
    fault.Blames front blamed behind := by
  cases blames with
  | bareBang alone => exact .bareBang fun joined => alone (by simp [joined])
  | unknown other => exact .unknown other
  | illegalInString legal illegal => exact .illegalInString legal illegal
  | unterminatedString legal ended =>
    refine .unterminatedString legal ?_
    cases behind with
    | nil => exact .inl rfl
    | cons c behind => exact .inr (ended.resolve_left (List.cons_ne_nil _ _))

/-- The bytes that the lexer tells of are those that are blamed. -/
theorem blame_eq (blames : fault.Blames front blamed behind) (start : Nat) :
    Lexer.blame start
        (start + fault.resumesAt ⟨byteLength front, byteLength front + byteLength blamed⟩) fault =
      ⟨start + byteLength front, start + byteLength front + byteLength blamed⟩ := by
  cases blames with
  | illegalInString => simp [Lexer.blame, resumesAt]
  | bareBang | unknown | unterminatedString => simp [Lexer.blame, resumesAt]

end Blames

end LexicalFault

/-! ## One reading -/

namespace Reading

variable {c : Char} {text : List Char} {fault : LexicalFault}

/-- The fault of a reading is blamed on a part of the text, with as much before it as was all
right, and the reading has passed over the text up to where the fault leaves off. -/
def Blamed (reading : Reading) (text : List Char) (fault : LexicalFault) : Prop :=
  ∃ front blamed behind, text = front ++ blamed ++ behind ∧ fault.Blames front blamed behind ∧
    byteLength reading.taken =
      fault.resumesAt ⟨byteLength front, byteLength front + byteLength blamed⟩

theorem comparator_blamed {alone : Option Token.Kind} {joined : Token.Kind}
    (listed : beforeEquals? c = some (alone, joined))
    (told : (comparator c alone joined text).result = .error fault) :
    (comparator c alone joined text).Blamed (c :: text) fault := by
  unfold comparator at told ⊢
  split at told
  · cases told
  · next single =>
    cases alone with
    | some kind => cases told
    | none =>
      obtain rfl : .bareBang = fault := Except.error.inj told
      have bang : c = '!' := by
        unfold beforeEquals? at listed
        split at listed <;> cases listed
        rfl
      subst bang
      refine ⟨[], ['!'], text, rfl, .bareBang fun first => ?_, rfl⟩
      obtain ⟨rest, same⟩ := List.head?_eq_some_iff.1 first
      exact single rest same

/-- What ends the legal characters between quotes, and is not a quote itself, is illegal there. -/
theorem illegal_of_dropWhile {rest : List Char} (ended : text.dropWhile isLegalInString = c :: rest)
    (other : c ≠ '"') : Text.isControl c = true ∨ c = '\\' ∨ c = '%' := by
  have stops := List.head?_dropWhile_not isLegalInString text
  rw [ended] at stops
  have illegal : isLegalInString c = false := by simpa using stops
  by_cases backslash : c = '\\'
  · exact .inr (.inl backslash)
  · by_cases percent : c = '%'
    · exact .inr (.inr percent)
    · exact .inl (by simpa [isLegalInString, other, backslash, percent] using illegal)

theorem stringLiteral_blamed (told : (stringLiteral text).result = .error fault) :
    (stringLiteral text).Blamed ('"' :: text) fault := by
  have legal := all_of_mem_takeWhile isLegalInString text
  have whole := List.takeWhile_append_dropWhile (p := isLegalInString) (l := text)
  unfold stringLiteral at told ⊢
  split at told
  · next ended =>
    obtain rfl := Except.error.inj told
    rw [ended, List.append_nil] at whole
    refine ⟨[], '"' :: text.takeWhile isLegalInString, [], ?_, .unterminatedString legal (.inl rfl),
      (Nat.zero_add _).symm⟩
    rw [whole, List.append_nil, List.nil_append]
  · next rest ended =>
    obtain rfl := Except.error.inj told
    rw [ended] at whole
    refine ⟨[], '"' :: text.takeWhile isLegalInString, '\n' :: rest, ?_,
      .unterminatedString legal (.inr rfl), (Nat.zero_add _).symm⟩
    rw [List.nil_append, List.cons_append, whole]
  · cases told
  · next c rest newline quote ended =>
    obtain rfl := Except.error.inj told
    rw [ended] at whole
    refine ⟨'"' :: text.takeWhile isLegalInString, [c], rest, ?_, .illegalInString legal ?_, rfl⟩
    · rw [List.append_assoc, List.cons_append, List.singleton_append, whole]
    · exact (illegal_of_dropWhile ended quote).imp_left fun control => ⟨control, newline⟩

/-- A character is unknown if it is so whatever stands behind it, and then no word begins with
it. -/
theorem head?_ne_of_unknown (unknown : ∀ text, first c text = Reading.fault (.unknown c) [c] text)
    {lexeme : List Char} (isLexeme : IsLexeme lexeme) : lexeme.head? ≠ some c := by
  intro starts
  obtain ⟨more, rfl⟩ := List.head?_eq_some_iff.1 starts
  obtain ⟨word, isLexeme⟩ := isLexeme
  obtain ⟨found, behind, ⟨d, text, same, reads⟩, -⟩ := exists_reads_of_lexeme isLexeme []
  obtain ⟨rfl, rfl⟩ := List.cons.inj same
  rw [unknown] at reads
  cases congrArg result reads

theorem first_blamed (told : (first c text).result = .error fault) :
    (first c text).Blamed (c :: text) fault := by
  by_cases unknown : ∀ text, first c text = Reading.fault (.unknown c) [c] text
  · rw [unknown] at told ⊢
    obtain rfl := Except.error.inj told
    exact ⟨[], [c], text, rfl, .unknown fun lexeme => head?_ne_of_unknown unknown,
      (Nat.zero_add _).symm⟩
  · unfold first at told unknown ⊢
    split at told
    · cases told
    · next alone joined _ listed => exact comparator_blamed listed told
    · next single listed =>
      split at told
      · next quote =>
        subst quote
        exact stringLiteral_blamed told
      · next quote =>
        split at told
        · unfold number at told
          split at told <;> cases told
        · next digit =>
          split at told
          · cases told
          · next letter =>
            exact absurd (fun text => by simp [single, listed, quote, digit, letter]) unknown

end Reading

/-! ## One call -/

/-- The characters `blamed` are on the bytes of the span, and they are what the fault is blamed
on. They stand in the source behind `before`, and behind the front of the faulty word. -/
structure BlamedIn (source : String) (fault : LexicalFault) (span : Span)
    (before front blamed behind : List Char) : Prop where
  whole : source.toList = before ++ front ++ blamed ++ behind
  blames : fault.Blames front blamed behind
  start : span.start = byteLength (before ++ front)
  stop : span.stop = span.start + byteLength blamed

namespace BlamedIn

variable {source : String} {fault : LexicalFault} {span : Span}
  {before front blamed behind : List Char}

theorem lt (here : BlamedIn source fault span before front blamed behind) :
    span.start < span.stop := by
  have some := List.length_pos_iff.2 here.blames.ne_nil
  have length := length_le_byteLength blamed
  have stop := here.stop
  omega

/-- Both ends of the span lie between characters of the source. -/
theorem isValid (here : BlamedIn source fault span before front blamed behind) :
    String.Pos.Raw.IsValid source ⟨span.start⟩ ∧ String.Pos.Raw.IsValid source ⟨span.stop⟩ := by
  have whole := here.whole
  have stop : span.stop = byteLength (before ++ front ++ blamed) := by
    rw [here.stop, here.start, byteLength_append _ blamed]
  rw [here.start, stop]
  exact ⟨isValid_of_append (whole.trans (List.append_assoc _ _ _)), isValid_of_append whole⟩

theorem le (here : BlamedIn source fault span before front blamed behind) :
    span.stop ≤ source.utf8ByteSize := by
  have start := here.start
  have stop := here.stop
  rw [← byteLength_toList, here.whole, byteLength_append, byteLength_append _ blamed]
  omega

end BlamedIn

namespace Lexer

variable {source : String} {lexer : Lexer} {error : Error}

/-- An error is about the word behind the gap. -/
theorem exists_blamed (answer : lexer.next.1 = .error error) :
    ∃ fault gap front blamed behind,
      lexer.rest = gap ++ front ++ blamed ++ behind ∧ IsGap gap ∧
      fault.Blames front blamed behind ∧ error = .lexical fault
        ⟨lexer.position + byteLength gap + byteLength front,
          lexer.position + byteLength gap + byteLength front + byteLength blamed⟩ ∧
      lexer.next.2.position = lexer.position + byteLength gap +
        fault.resumesAt ⟨byteLength front, byteLength front + byteLength blamed⟩ := by
  have skips := lexer.passes_skipGap
  have isGap := Gap.isGap_split lexer.rest
  generalize (Gap.split lexer.rest).1 = gap at skips isGap
  obtain ⟨whole, position⟩ := skips
  unfold next at answer ⊢
  generalize lexer.skipGap = here at answer whole position ⊢
  obtain ⟨_ | ⟨c, text⟩, start⟩ := here
  · cases answer
  · obtain rfl : start = lexer.position + byteLength gap := position
    rw [readHere_cons] at answer ⊢
    unfold located at answer
    split at answer
    · cases answer
    · next fault told =>
      obtain rfl := Except.error.inj answer
      obtain ⟨front, blamed, behind, same, blames, taken⟩ := Reading.first_blamed told
      refine ⟨fault, gap, front, blamed, behind, ?_, isGap, blames, ?_, by rw [taken]⟩
      · rw [whole, same, List.append_assoc, List.append_assoc, List.append_assoc]
      · rw [taken, blames.blame_eq]

/-- The line end that closes the source is not part of what is blamed. -/
theorem exists_behind {fault : LexicalFault} {before front blamed behind : List Char}
    (whole : source.toList ++ ['\n'] = before ++ blamed ++ behind)
    (blames : fault.Blames front blamed behind) : ∃ rest, behind = rest ++ ['\n'] ∧
      source.toList = before ++ blamed ++ rest := by
  rcases List.eq_nil_or_concat behind with rfl | ⟨rest, last, rfl⟩
  · obtain ⟨others, last, rfl⟩ := (List.eq_nil_or_concat blamed).resolve_left blames.ne_nil
    rw [List.append_nil, List.concat_eq_append, ← List.append_assoc] at whole
    obtain rfl := List.singleton_inj.1 (List.append_inj' whole rfl).2
    exact absurd (by simp) blames.newline_not_mem
  · rw [List.concat_eq_append, ← List.append_assoc] at whole
    obtain ⟨same, closing⟩ := List.append_inj' whole rfl
    exact ⟨rest, by rw [List.concat_eq_append, closing], same⟩

end Lexer

/-- However often a lexer has been called, also behind errors: the next error tells of exactly the
bytes that it is to blame for. They begin and end between characters of the source and are not
none. What they are is said by `LexicalFault.Blames`, of the word that begins behind the gap at which
the lexer stood. The lexer goes on behind these bytes, or before them if they are an illegal
character between quotes. -/
theorem error_blamed {source : String} {count : Nat} {error : Error}
    (answer : (Lexer.after source count).next.1 = .error error) :
    ∃ fault span passed gap front blamed behind,
      error = .lexical fault span ∧ error.message = fault.message ∧
      (Lexer.after source count).position = byteLength passed ∧ IsGap gap ∧
      BlamedIn source fault span (passed ++ gap) front blamed behind ∧
      span.start < span.stop ∧ span.stop ≤ source.utf8ByteSize ∧
      String.Pos.Raw.IsValid source ⟨span.start⟩ ∧ String.Pos.Raw.IsValid source ⟨span.stop⟩ ∧
      (Lexer.after source (count + 1)).position = fault.resumesAt span := by
  obtain ⟨passed, whole, position⟩ := Lexer.within_after source count
  obtain ⟨fault, gap, front, blamed, behind, rest, isGap, blames, rfl, position'⟩ :=
    Lexer.exists_blamed answer
  rw [rest, ← List.append_assoc, ← List.append_assoc, ← List.append_assoc] at whole
  obtain ⟨behind, rfl, same⟩ := Lexer.exists_behind whole blames
  have here : BlamedIn source fault
      ⟨byteLength passed + byteLength gap + byteLength front,
        byteLength passed + byteLength gap + byteLength front + byteLength blamed⟩
      (passed ++ gap) front blamed behind :=
    ⟨same, blames.of_closed, by rw [byteLength_append, byteLength_append], rfl⟩
  rw [position] at position' ⊢
  refine ⟨fault, _, passed, gap, front, blamed, behind, rfl, rfl, rfl, isGap, here, here.lt, here.le,
    here.isValid.1, here.isValid.2, position'.trans ?_⟩
  cases blames <;> simp [LexicalFault.resumesAt, Nat.add_assoc]

/-- The backslash is illegal where the string literal has come to it. It is left, no word begins
with it, and the letter behind it is the next to be blamed, on both of its bytes. -/
theorem error_blamed_resumed :
    (Lexer.after "\"é\\ü\"" 2).next.1 = .error (.lexical (.unknown 'ü') ⟨4, 6⟩) ∧
      ∃ before front blamed behind,
        BlamedIn "\"é\\ü\"" (.unknown 'ü') ⟨4, 6⟩ before front blamed behind := by
  have answer : (Lexer.after "\"é\\ü\"" 2).next.1 =
    .error (.lexical (.unknown 'ü') ⟨4, 6⟩) := by cbv
  obtain ⟨fault, span, passed, gap, front, blamed, behind, same, -, -, -, here, -⟩ :=
    error_blamed answer
  obtain ⟨rfl, rfl⟩ := Error.lexical.inj same
  exact ⟨answer, _, _, _, _, here⟩

end Offside
