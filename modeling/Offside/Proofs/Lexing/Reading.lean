import Offside.Proofs.Grammar.Word

/-!
# What a reading makes of a text

A reading that ends well has found a proper word, and has passed over the
source of that word and no more. The other way round, the source of a proper
word is read as that word wherever it stands, if the character behind it is not
one that the word would go on with: a name goes on with letters and digits, a
number with digits and its first point, and the three words that begin a longer
one go on with `=`.
-/

namespace Offside

/-- The characters that a word is read from. -/
def Word.source (word : Word) : List Char :=
  match word.kind with
  | .stringLiteral => '"' :: word.text.toList ++ ['"']
  | _ => word.text.toList

/-- The characters that would belong to the word if they stood behind it. -/
def Word.goesOn (word : Word) (c : Char) : Bool :=
  match word.kind with
  | .number => c.isDigit || (c == '.' && !word.text.toList.contains '.')
  | .identifier | .keyword _ => c.isAlphanum
  | .assign | .less | .greater => c == '='
  | _ => false

theorem Word.not_goesOn_space (word : Word) : word.goesOn ' ' = false := by
  obtain ⟨kind, text⟩ := word
  cases kind <;> rfl

theorem Word.not_goesOn_newline (word : Word) : word.goesOn '\n' = false := by
  obtain ⟨kind, text⟩ := word
  cases kind <;> rfl

/-- The text does not begin with such a character. -/
def StopsAt (p : Char → Bool) (text : List Char) : Prop := ∀ c, text.head? = some c → p c = false

theorem takeWhile_of_stopsAt {p : Char → Bool} {run rest : List Char}
    (all : ∀ c ∈ run, p c = true) (stops : StopsAt p rest) :
    (run ++ rest).takeWhile p = run := by
  rw [List.takeWhile_append_of_pos all]
  cases rest with
  | nil => simp
  | cons c rest => simp [stops c rfl]

theorem dropWhile_of_stopsAt {p : Char → Bool} {run rest : List Char}
    (all : ∀ c ∈ run, p c = true) (stops : StopsAt p rest) :
    (run ++ rest).dropWhile p = rest := by
  rw [List.dropWhile_append_of_pos all]
  cases rest with
  | nil => simp
  | cons c rest => simp [stops c rfl]

/-- How far a run goes is known from the text. -/
theorem run_unique {p : Char → Bool} {run run' rest rest' : List Char}
    (all : ∀ c ∈ run, p c = true) (stops : StopsAt p rest) (all' : ∀ c ∈ run', p c = true)
    (stops' : StopsAt p rest') (same : run ++ rest = run' ++ rest') :
    run = run' ∧ rest = rest' := by
  constructor
  · rw [← takeWhile_of_stopsAt all stops, same, takeWhile_of_stopsAt all' stops']
  · rw [← dropWhile_of_stopsAt all stops, same, dropWhile_of_stopsAt all' stops']

theorem all_of_mem_takeWhile (p : Char → Bool) (text : List Char) :
    ∀ c ∈ text.takeWhile p, p c = true :=
  List.all_eq_true.1 List.all_takeWhile

namespace Reading

/-! ## Words that are read are proper -/

/-- A reading that finds something finds a proper word. -/
def Sound (reading : Reading) : Prop :=
  ∀ kind text, reading.result = .ok (kind, text) →
    kind ≠ .endOfInput ∧ (Word.mk kind (String.ofList text)).Proper ∧
      reading.taken = (Word.mk kind (String.ofList text)).source

theorem sound_of_fault (f : LexicalFault) (taken rest : List Char) :
    (fault f taken rest).Sound := by
  intro kind text h
  cases h

theorem single_sound {c : Char} {kind : Token.Kind} (h : single? c = some kind)
    (text : List Char) : (word kind [c] text).Sound := by
  intro kind' text' same
  cases same
  unfold single? at h
  split at h <;> cases h <;> exact ⟨by simp, rfl, rfl⟩

theorem comparator_sound {c : Char} {alone : Option Token.Kind} {joined : Token.Kind}
    (h : beforeEquals? c = some (alone, joined)) (text : List Char) :
    (comparator c alone joined text).Sound := by
  intro kind text' same
  unfold beforeEquals? at h
  unfold comparator at same ⊢
  split at h <;> cases h <;> split at same <;> cases same <;> exact ⟨by simp, rfl, rfl⟩

theorem number_sound {c : Char} (h : c.isDigit = true) (text : List Char) :
    (number (c :: text)).Sound := by
  intro kind text' same
  have whole : (c :: text).takeWhile Char.isDigit ≠ [] := by simp [h]
  have digits := all_of_mem_takeWhile Char.isDigit
  unfold number at same ⊢
  split at same
  · next fraction behind =>
    cases same
    have proper : Word.IsNumber ((c :: text).takeWhile Char.isDigit
        ++ '.' :: fraction.takeWhile Char.isDigit) :=
      ⟨_, whole, digits _, .inr ⟨_, digits fraction, rfl⟩⟩
    exact ⟨by simp, by simpa [Word.Proper] using proper, by simp [Word.source, word]⟩
  · cases same
    have proper : Word.IsNumber ((c :: text).takeWhile Char.isDigit) :=
      ⟨_, whole, digits _, .inl rfl⟩
    exact ⟨by simp, by simpa [Word.Proper] using proper, by simp [Word.source, word]⟩

theorem name_sound {c : Char} (h : c.isAlpha = true) (text : List Char) :
    (name (c :: text)).Sound := by
  intro kind text' same
  have taken : (c :: text).takeWhile Char.isAlphanum = c :: text.takeWhile Char.isAlphanum := by
    simp [Char.isAlphanum, h]
  have named : Word.IsName ((c :: text).takeWhile Char.isAlphanum) :=
    ⟨c, text.takeWhile Char.isAlphanum, taken, h, all_of_mem_takeWhile _ _⟩
  unfold name at same ⊢
  generalize (c :: text).takeWhile Char.isAlphanum = run at *
  cases same
  unfold nameKind
  split
  · next keyword spelled =>
    refine ⟨by simp, ?_, by simp [Word.source, word]⟩
    exact (Keyword.ofText?_eq_some_iff.1 spelled).symm
  · next none =>
    refine ⟨by simp, ⟨?_, none⟩, by simp [Word.source, word]⟩
    simpa using named

theorem stringLiteral_sound (text : List Char) : (stringLiteral text).Sound := by
  intro kind text' same
  have legal := all_of_mem_takeWhile isLegalInString text
  unfold stringLiteral at same ⊢
  split at same <;> cases same
  exact ⟨by simp, by simpa [Word.Proper] using legal, by simp [Word.source]⟩

/-- What is read is a proper word, and it is read from its source. -/
theorem first_sound (c : Char) (text : List Char) : (first c text).Sound := by
  unfold first
  split
  · next kind single => exact single_sound single text
  · next alone joined _ before => exact comparator_sound before text
  · split
    · exact stringLiteral_sound text
    · split
      · next digit => exact number_sound digit text
      · split
        · next letter => exact name_sound letter text
        · exact sound_of_fault _ _ _

/-! ## Proper words are read -/

/-- The text begins with the source of a word, and reading it gives that word and what stands
behind it. -/
def Reads (text : List Char) (found : Word) (rest : List Char) : Prop :=
  ∃ c more, text = c :: more ∧
    first c more = ⟨found.source, rest, .ok (found.kind, found.text.toList)⟩

theorem single?_eq_none_of_isDigit {c : Char} (h : c.isDigit = true) :
    single? c = none ∧ beforeEquals? c = none ∧ c ≠ '"' := by
  refine ⟨?_, ?_, ?_⟩
  · unfold single?
    split <;> first | rfl | exact absurd h (by decide)
  · unfold beforeEquals?
    split <;> first | rfl | exact absurd h (by decide)
  · intro quote
    subst quote
    exact absurd h (by decide)

theorem single?_eq_none_of_isAlpha {c : Char} (h : c.isAlpha = true) :
    single? c = none ∧ beforeEquals? c = none ∧ c ≠ '"' ∧ c.isDigit = false := by
  refine ⟨?_, ?_, ?_, ?_⟩
  · unfold single?
    split <;> first | rfl | exact absurd h (by decide)
  · unfold beforeEquals?
    split <;> first | rfl | exact absurd h (by decide)
  · intro quote
    subst quote
    exact absurd h (by decide)
  · have letter : (decide ('A'.val ≤ c.val ∧ c.val ≤ 'Z'.val) ||
        (decide ('a'.val ≤ c.val) && decide (c.val ≤ 'z'.val))) = true := h
    show (decide ('0'.val ≤ c.val) && decide (c.val ≤ '9'.val)) = false
    simp only [Bool.or_eq_true, Bool.and_eq_true, decide_eq_true_eq, Bool.and_eq_false_iff,
      decide_eq_false_iff_not, UInt32.le_iff_toNat_le] at letter ⊢
    have : 'A'.val.toNat = 65 := rfl
    have : 'a'.val.toNat = 97 := rfl
    have : '9'.val.toNat = 57 := rfl
    omega

theorem reads_number {whole rest : List Char} (nonempty : whole ≠ [])
    (digits : ∀ c ∈ whole, c.isDigit = true) (stops : StopsAt Char.isDigit rest)
    (noPoint : rest.head? ≠ some '.') :
    Reads (whole ++ rest) ⟨.number, String.ofList whole⟩ rest := by
  obtain ⟨c, more, rfl⟩ := List.exists_cons_of_ne_nil nonempty
  have digit : c.isDigit = true := digits c (by simp)
  obtain ⟨single, before, quote⟩ := single?_eq_none_of_isDigit digit
  refine ⟨c, more ++ rest, rfl, ?_⟩
  unfold first
  rw [single, before]
  simp only [if_neg quote, if_pos digit]
  unfold number
  rw [← List.cons_append, dropWhile_of_stopsAt digits stops, takeWhile_of_stopsAt digits stops]
  split
  · exact absurd rfl noPoint
  · simp [word, Word.source]

theorem reads_fraction {whole fraction rest : List Char} (nonempty : whole ≠ [])
    (digits : ∀ c ∈ whole, c.isDigit = true) (further : ∀ c ∈ fraction, c.isDigit = true)
    (stops : StopsAt Char.isDigit rest) :
    Reads (whole ++ '.' :: fraction ++ rest)
      ⟨.number, String.ofList (whole ++ '.' :: fraction)⟩ rest := by
  obtain ⟨c, more, rfl⟩ := List.exists_cons_of_ne_nil nonempty
  have digit : c.isDigit = true := digits c (by simp)
  have point : StopsAt Char.isDigit ('.' :: (fraction ++ rest)) := by
    intro d first
    obtain rfl := Option.some.inj first
    decide
  obtain ⟨single, before, quote⟩ := single?_eq_none_of_isDigit digit
  refine ⟨c, more ++ '.' :: (fraction ++ rest), by simp, ?_⟩
  unfold first
  rw [single, before]
  simp only [if_neg quote, if_pos digit]
  unfold number
  rw [← List.cons_append, dropWhile_of_stopsAt digits point, takeWhile_of_stopsAt digits point]
  simp [word, Word.source, takeWhile_of_stopsAt further stops, dropWhile_of_stopsAt further stops]

/-- A run of letters and digits that begins with a letter is read as one word. -/
theorem reads_name {text rest : List Char} (named : Word.IsName text)
    (stops : StopsAt Char.isAlphanum rest) :
    Reads (text ++ rest) ⟨nameKind text, String.ofList text⟩ rest := by
  obtain ⟨c, more, rfl, letter, others⟩ := named
  have all : ∀ d ∈ c :: more, d.isAlphanum = true := by
    intro d member
    rcases List.mem_cons.1 member with rfl | member
    · simp [Char.isAlphanum, letter]
    · exact others d member
  obtain ⟨single, before, quote, digit⟩ := single?_eq_none_of_isAlpha letter
  refine ⟨c, more ++ rest, rfl, ?_⟩
  have plain : (Word.mk (nameKind (c :: more)) (String.ofList (c :: more))).source
      = c :: more := by
    unfold nameKind
    cases Keyword.ofText? (String.ofList (c :: more)) <;> simp [Word.source]
  rw [plain]
  unfold first
  rw [single, before]
  simp only [if_neg quote, digit, if_pos letter, Bool.false_eq_true, if_false]
  unfold name
  rw [← List.cons_append, dropWhile_of_stopsAt all stops, takeWhile_of_stopsAt all stops]
  simp [word]

theorem reads_stringLiteral {text : List Char}
    (legal : ∀ c ∈ text, isLegalInString c = true) (rest : List Char) :
    Reads ('"' :: text ++ ['"'] ++ rest) ⟨.stringLiteral, String.ofList text⟩ rest := by
  have quote : StopsAt isLegalInString ('"' :: rest) := by
    intro d first
    obtain rfl := Option.some.inj first
    rfl
  refine ⟨'"', text ++ '"' :: rest, by simp, ?_⟩
  show stringLiteral (text ++ '"' :: rest) = _
  unfold stringLiteral
  rw [dropWhile_of_stopsAt legal quote, takeWhile_of_stopsAt legal quote]
  simp [Word.source]

theorem comparator_alone {c : Char} {kind joined : Token.Kind} {text : List Char}
    (h : text.head? ≠ some '=') :
    comparator c (some kind) joined text = word kind [c] text := by
  unfold comparator
  split
  · exact absurd rfl h
  · rfl

theorem isName_keyword (keyword : Keyword) : Word.IsName keyword.text.toList := by
  cases keyword <;> exact ⟨_, _, rfl, rfl, List.all_eq_true.1 rfl⟩

theorem nameKind_keyword (keyword : Keyword) :
    nameKind keyword.text.toList = .keyword keyword := by
  unfold nameKind
  rw [String.ofList_toList, Keyword.ofText?_text]

/-- The source of a proper word is read as that word, unless it goes on behind it. -/
theorem reads_source {found : Word} {rest : List Char} (proper : found.Proper)
    (more : found.kind ≠ .endOfInput) (stops : StopsAt found.goesOn rest) :
    Reads (found.source ++ rest) found rest := by
  obtain ⟨kind, text⟩ := found
  cases kind with
  | endOfInput => exact absurd rfl more
  | number =>
    obtain ⟨whole, nonempty, digits, same | ⟨fraction, further, same⟩⟩ := proper
    · have text : text = String.ofList whole := by rw [← String.ofList_toList (s := text), same]
      subst text
      have stops : ∀ c, rest.head? = some c → c.isDigit = false ∧ c ≠ '.' := by
        intro c first
        have point : '.' ∉ whole := fun member => absurd (digits _ member) (by decide)
        simpa [Word.goesOn, point] using stops c first
      have reads := reads_number nonempty digits (fun c first => (stops c first).1)
        fun first => (stops '.' first).2 rfl
      simpa [Word.source] using reads
    · have text : text = String.ofList (whole ++ '.' :: fraction) := by
        rw [← String.ofList_toList (s := text), same]
      subst text
      have stops : StopsAt Char.isDigit rest := by
        intro c first
        simpa [Word.goesOn] using stops c first
      simpa [Word.source] using reads_fraction nonempty digits further stops
  | identifier =>
    have stops : StopsAt Char.isAlphanum rest := stops
    have reads := reads_name proper.1 stops
    have kind : nameKind text.toList = .identifier := by
      unfold nameKind
      rw [String.ofList_toList, proper.2]
    rw [kind, String.ofList_toList] at reads
    exact reads
  | stringLiteral =>
    have reads := reads_stringLiteral proper rest
    rw [String.ofList_toList] at reads
    exact reads
  | keyword keyword =>
    obtain rfl : text = keyword.text := proper
    have stops : StopsAt Char.isAlphanum rest := stops
    have reads := reads_name (isName_keyword keyword) stops
    rw [nameKind_keyword, String.ofList_toList] at reads
    exact reads
  | assign | less | greater =>
    simp only [Word.Proper, Token.Kind.spelling] at proper
    subst proper
    exact ⟨_, rest, rfl, comparator_alone fun first => by simpa [Word.goesOn] using stops _ first⟩
  | _ =>
    simp only [Word.Proper, Token.Kind.spelling] at proper
    subst proper
    exact ⟨_, _, rfl, rfl⟩

/-- What is read at the front of a text is known from the text. -/
theorem Reads.unique {text rest rest' : List Char} {word word' : Word}
    (reads : Reads text word rest) (reads' : Reads text word' rest') :
    word = word' ∧ rest = rest' := by
  obtain ⟨c, more, rfl, found⟩ := reads
  obtain ⟨c', more', same, found'⟩ := reads'
  obtain ⟨rfl, rfl⟩ := List.cons.inj same
  rw [found] at found'
  obtain ⟨-, rest, result⟩ := Reading.mk.inj found'
  obtain ⟨kind, text⟩ := word
  obtain ⟨kind', text'⟩ := word'
  simp only [Except.ok.injEq, Prod.mk.injEq, String.toList_inj] at result
  exact ⟨by rw [result.1, result.2], rest⟩

end Reading

end Offside
