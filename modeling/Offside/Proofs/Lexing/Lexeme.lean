import Offside.Proofs.Lexing.Reading

/-!
# The longest lexeme

The lexical grammar says which texts are words and which words they are. Where
several of them stand at the front of a text, the longest one is read, and if
none does nothing is read. The reason is the same for all kinds: a word that is
followed by a character with which it goes on is the beginning of a word that is
longer by that character. So a word at the front of a text can be made longer
until it goes on no more, and then it is what is read.
-/

namespace Offside

/-- The words that are not made of letters, digits or quoted text. -/
def signs : List (String × Token.Kind) :=
  [("\n", .newline), ("+", .plus), ("-", .minus), ("*", .times), ("/", .divide),
   ("(", .openParen), (")", .closeParen), (",", .comma), ("=", .assign), ("==", .equal),
   ("<", .less), ("<=", .lessOrEqual), (">", .greater), (">=", .greaterOrEqual),
   ("!=", .unequal)]

/-- The lexical grammar: the texts that are words, and the words that they are. -/
inductive Lexeme : List Char → Word → Prop where
  | sign {text : String} {kind : Token.Kind} (listed : (text, kind) ∈ signs) :
    Lexeme text.toList ⟨kind, text⟩
  | number {text : String} (digits : Word.IsNumber text.toList) :
    Lexeme text.toList ⟨.number, text⟩
  | keyword (keyword : Keyword) : Lexeme keyword.text.toList ⟨.keyword keyword, keyword.text⟩
  | identifier {text : String} (named : Word.IsName text.toList)
      (other : ∀ keyword : Keyword, keyword.text ≠ text) :
    Lexeme text.toList ⟨.identifier, text⟩
  | stringLiteral {text : String}
      (legal : ∀ c ∈ text.toList, c ≠ '"' ∧ c ≠ '\\' ∧ c ≠ '%' ∧ Text.isControl c = false) :
    Lexeme ('"' :: text.toList ++ ['"']) ⟨.stringLiteral, text⟩

/-- A text that is a word. -/
def IsLexeme (text : List Char) : Prop := ∃ word, Lexeme text word

/-- Of the texts of which `p` holds, this is the longest at the front of a text. -/
structure LongestPrefix (p : List Char → Prop) (front text : List Char) : Prop where
  holds : p front
  starts : front <+: text
  longest : ∀ other, p other → other <+: text → other.length ≤ front.length

theorem LongestPrefix.unique {p : List Char → Prop} {front front' text : List Char}
    (h : LongestPrefix p front text) (h' : LongestPrefix p front' text) : front = front' := by
  have le := h'.longest front h.holds h.starts
  have ge := h.longest front' h'.holds h'.starts
  exact (List.prefix_of_prefix_length_le h.starts h'.starts le).eq_of_length (by omega)

variable {text other rest : List Char} {word word' : Word}

theorem spelling_of_listed {text : String} {kind : Token.Kind} (listed : (text, kind) ∈ signs) :
    text = kind.spelling ∧ kind.hasText = false ∧ kind ≠ .endOfInput := by
  simp only [signs, List.mem_cons, Prod.mk.injEq, List.not_mem_nil, or_false] at listed
  rcases listed with ⟨rfl, rfl⟩ | ⟨rfl, rfl⟩ | ⟨rfl, rfl⟩ | ⟨rfl, rfl⟩ | ⟨rfl, rfl⟩ | ⟨rfl, rfl⟩ |
    ⟨rfl, rfl⟩ | ⟨rfl, rfl⟩ | ⟨rfl, rfl⟩ | ⟨rfl, rfl⟩ | ⟨rfl, rfl⟩ | ⟨rfl, rfl⟩ | ⟨rfl, rfl⟩ |
    ⟨rfl, rfl⟩ | ⟨rfl, rfl⟩ <;> decide

theorem ofText?_eq_none_iff {text : String} :
    Keyword.ofText? text = none ↔ ∀ keyword : Keyword, keyword.text ≠ text := by
  rw [Option.eq_none_iff_forall_ne_some]
  exact forall_congr' fun keyword => not_congr Keyword.ofText?_eq_some_iff

theorem isLegalInString_iff {c : Char} : Reading.isLegalInString c = true ↔
    c ≠ '"' ∧ c ≠ '\\' ∧ c ≠ '%' ∧ Text.isControl c = false := by
  simp [Reading.isLegalInString, and_assoc]

/-- The lexemes are the sources of the proper words. -/
theorem lexeme_iff : Lexeme text word ↔
    word.Proper ∧ word.kind ≠ .endOfInput ∧ text = word.source := by
  constructor
  · intro lexeme
    cases lexeme with
    | @sign text kind listed =>
      obtain ⟨rfl, plain, more⟩ := spelling_of_listed listed
      refine ⟨Word.proper_fixed plain, more, ?_⟩
      cases kind <;> first | rfl | cases plain
    | number digits => exact ⟨digits, nofun, rfl⟩
    | keyword keyword => exact ⟨rfl, nofun, rfl⟩
    | identifier named other => exact ⟨⟨named, ofText?_eq_none_iff.2 other⟩, nofun, rfl⟩
    | stringLiteral legal =>
      exact ⟨fun c member => isLegalInString_iff.2 (legal c member), nofun, rfl⟩
  · intro found
    obtain ⟨proper, more, rfl⟩ := found
    obtain ⟨kind, text⟩ := word
    cases kind with
    | endOfInput => exact absurd rfl more
    | number => exact .number proper
    | identifier => exact .identifier proper.1 (ofText?_eq_none_iff.1 proper.2)
    | stringLiteral =>
      exact .stringLiteral fun c member => isLegalInString_iff.1 (proper c member)
    | keyword keyword =>
      obtain rfl : text = keyword.text := proper
      exact .keyword keyword
    | _ =>
      simp only [Word.Proper, Token.Kind.spelling] at proper
      subst proper
      exact .sign (by decide)

/-! ## Longer and longer words -/

theorem isName_snoc {name : List Char} {c : Char} (named : Word.IsName name)
    (goesOn : c.isAlphanum = true) : Word.IsName (name ++ [c]) := by
  obtain ⟨first, more, rfl, letter, others⟩ := named
  refine ⟨first, more ++ [c], rfl, letter, fun d member => ?_⟩
  rcases List.mem_append.1 member with member | member
  · exact others d member
  · rwa [List.mem_singleton.1 member]

theorem isLexeme_of_isName {name : List Char} (named : Word.IsName name) : IsLexeme name := by
  obtain ⟨text, rfl⟩ : ∃ text : String, name = text.toList :=
    ⟨String.ofList name, String.toList_ofList.symm⟩
  by_cases spelled : ∃ keyword : Keyword, keyword.text = text
  · obtain ⟨keyword, rfl⟩ := spelled
    exact ⟨_, .keyword keyword⟩
  · exact ⟨_, .identifier named fun keyword same => spelled ⟨keyword, same⟩⟩

theorem isNumber_snoc {digits : List Char} {c : Char} (number : Word.IsNumber digits)
    (goesOn : c.isDigit = true ∨ c = '.' ∧ '.' ∉ digits) : Word.IsNumber (digits ++ [c]) := by
  obtain ⟨whole, nonempty, all, rfl | ⟨fraction, further, rfl⟩⟩ := number
  · rcases goesOn with digit | ⟨rfl, -⟩
    · refine ⟨digits ++ [c], by simp, fun d member => ?_, .inl rfl⟩
      rcases List.mem_append.1 member with member | member
      · exact all d member
      · rwa [List.mem_singleton.1 member]
    · exact ⟨digits, nonempty, all, .inr ⟨[], nofun, rfl⟩⟩
  · rcases goesOn with digit | ⟨-, noPoint⟩
    · refine ⟨whole, nonempty, all, .inr ⟨fraction ++ [c], fun d member => ?_, by simp⟩⟩
      rcases List.mem_append.1 member with member | member
      · exact further d member
      · rwa [List.mem_singleton.1 member]
    · simp at noPoint

/-- A word with a character behind it with which it goes on is the beginning of a longer word. -/
theorem Lexeme.longer {c : Char} (lexeme : Lexeme text word) (goesOn : word.goesOn c = true) :
    IsLexeme (text ++ [c]) := by
  cases lexeme with
  | @sign text kind listed =>
    obtain ⟨rfl, plain, -⟩ := spelling_of_listed listed
    cases kind with
    | assign =>
      obtain rfl : c = '=' := eq_of_beq goesOn
      exact ⟨_, .sign (by decide : ("==", .equal) ∈ signs)⟩
    | less =>
      obtain rfl : c = '=' := eq_of_beq goesOn
      exact ⟨_, .sign (by decide : ("<=", .lessOrEqual) ∈ signs)⟩
    | greater =>
      obtain rfl : c = '=' := eq_of_beq goesOn
      exact ⟨_, .sign (by decide : (">=", .greaterOrEqual) ∈ signs)⟩
    | number | identifier | stringLiteral => cases plain
    | keyword keyword => cases keyword <;> exact absurd listed (by decide)
    | _ => cases goesOn
  | @number text digits =>
    have number := isNumber_snoc (c := c) digits (by simpa [Word.goesOn] using goesOn)
    rw [← String.toList_ofList (l := text.toList ++ [c])] at number ⊢
    exact ⟨_, .number number⟩
  | keyword keyword =>
    exact isLexeme_of_isName (isName_snoc (Reading.isName_keyword keyword) goesOn)
  | identifier named other => exact isLexeme_of_isName (isName_snoc named goesOn)
  | stringLiteral legal => cases goesOn

namespace Reading

/-- Behind every word at the front of a text there is one that is read and begins with it. -/
theorem exists_reads_of_lexeme (lexeme : Lexeme other word) (rest : List Char) :
    ∃ found behind, Reads (other ++ rest) found behind ∧ other <+: found.source := by
  -- The rest gets shorter by each character by which the word gets longer.
  induction rest generalizing other word with
  | nil =>
    obtain ⟨proper, more, rfl⟩ := lexeme_iff.1 lexeme
    exact ⟨word, [], reads_source proper more nofun, List.prefix_refl _⟩
  | cons c rest ih =>
    by_cases goesOn : word.goesOn c = true
    · obtain ⟨longer, lexeme'⟩ := lexeme.longer goesOn
      obtain ⟨found, behind, reads, starts⟩ := ih lexeme'
      rw [List.append_assoc] at reads
      exact ⟨found, behind, reads, (List.prefix_append _ _).trans starts⟩
    · obtain ⟨proper, more, rfl⟩ := lexeme_iff.1 lexeme
      refine ⟨word, c :: rest, reads_source proper more fun d first => ?_, List.prefix_refl _⟩
      obtain rfl : c = d := Option.some.inj first
      exact Bool.eq_false_iff.2 goesOn

theorem Reads.lexeme (reads : Reads text word rest) :
    Lexeme word.source word ∧ text = word.source ++ rest := by
  obtain ⟨c, more, rfl, found⟩ := reads
  obtain ⟨whole, -⟩ := first_splits c more
  obtain ⟨kind, proper, -⟩ := first_sound c more word.kind word.text.toList (by rw [found])
  rw [String.ofList_toList] at proper
  rw [found] at whole
  exact ⟨lexeme_iff.2 ⟨proper, kind, rfl⟩, whole.symm⟩

/-- What is read is the longest word at the front of the text. -/
theorem reads_iff : Reads text word rest ↔ text = word.source ++ rest ∧
    Lexeme word.source word ∧ LongestPrefix IsLexeme word.source text := by
  constructor
  · intro reads
    obtain ⟨lexeme, same⟩ := reads.lexeme
    refine ⟨same, lexeme, ⟨word, lexeme⟩, ⟨rest, same.symm⟩, fun other lexeme' starts => ?_⟩
    obtain ⟨word', lexeme'⟩ := lexeme'
    obtain ⟨behind, same'⟩ := starts
    obtain ⟨found, rest', reads', starts'⟩ := exists_reads_of_lexeme lexeme' behind
    rw [same'] at reads'
    rw [(reads.unique reads').1]
    exact starts'.length_le
  · intro longest
    obtain ⟨same, lexeme, -, -, longest⟩ := longest
    obtain ⟨proper, more, -⟩ := lexeme_iff.1 lexeme
    rw [same]
    refine reads_source proper more fun c first => Bool.eq_false_iff.2 fun goesOn => ?_
    obtain ⟨behind, rfl⟩ : ∃ behind, rest = c :: behind := by
      cases rest with
      | nil => cases first
      | cons d behind => exact ⟨behind, by rw [Option.some.inj first]⟩
    have longer := longest _ (lexeme.longer goesOn) ⟨behind, by rw [same, List.append_assoc]; rfl⟩
    rw [List.length_append, List.length_singleton] at longer
    omega

/-- The text of a word tells which word it is. -/
theorem lexeme_unique (lexeme : Lexeme text word) (lexeme' : Lexeme text word') :
    word = word' := by
  obtain ⟨proper, more, same⟩ := lexeme_iff.1 lexeme
  obtain ⟨proper', more', same'⟩ := lexeme_iff.1 lexeme'
  have reads : Reads (word.source ++ []) word [] := reads_source proper more nofun
  have reads' : Reads (word'.source ++ []) word' [] := reads_source proper' more' nofun
  rw [← same] at reads
  rw [← same'] at reads'
  exact (reads.unique reads').1

end Reading

end Offside
