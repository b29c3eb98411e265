import Offside.Proofs.Lexing.Tokens

/-!
# A source for given words

Any proper words are those of some source. It is enough to write them one after
the other with a blank before each: no word goes on with a blank, and no word
begins with one. The line end that closes every source then follows the last of
them.

Which words are read from the rest of a source does not depend on what lies
before it. So `ReadsAs` speaks of a text alone, and it can be shown of a text
word by word, from the line end at its end backwards.
-/

namespace Offside

/-- The words, with a blank before each. -/
def spelled : List Word → List Char
  | [] => []
  | word :: words => ' ' :: word.source ++ spelled words

theorem stopsAt_spelled (word : Word) (words : List Word) :
    StopsAt word.goesOn (spelled words ++ ['\n']) := by
  intro c first
  cases words with
  | nil =>
    obtain rfl : '\n' = c := Option.some.inj first
    exact word.not_goesOn_newline
  | cons next words =>
    obtain rfl : ' ' = c := Option.some.inj first
    exact word.not_goesOn_space

namespace Reading

/-- No word begins with what may stand in a gap. -/
theorem Reads.split_eq {text rest : List Char} {word : Word} (reads : Reads text word rest) :
    Gap.split text = ([], text) := by
  obtain ⟨c, more, rfl, found⟩ := reads
  have word : ∀ f, first c more ≠ fault f [c] more := by
    intro f same
    rw [same] at found
    cases congrArg result found
  have unblank : Gap.isBlank c = false := by
    cases blank : Gap.isBlank c with
    | false => rfl
    | true =>
      simp only [Gap.isBlank, Bool.or_eq_true, beq_iff_eq] at blank
      rcases blank with (rfl | rfl) | rfl <;> exact absurd rfl (word (.unknown _))
  have uncommented : c ≠ '#' := by
    intro hash
    subst hash
    exact word (.unknown _) rfl
  simp [Gap.split, Gap.splitFrom, unblank, uncommented]

end Reading

theorem Gap.split_space (text : List Char) :
    Gap.split (' ' :: text) = (' ' :: (Gap.split text).1, (Gap.split text).2) := by
  simp [Gap.split, Gap.splitFrom, Gap.isBlank]

namespace Lexer

theorem skipGap_blank (text : List Char) (position : Nat) :
    skipGap ⟨' ' :: text, position⟩ = skipGap ⟨text, position + 1⟩ := by
  have size : ' '.utf8Size = 1 := rfl
  simp only [skipGap, Gap.split_space, byteLength, size]
  rw [Nat.add_assoc]

end Lexer

/-! ## Texts and the words that are read from them -/

theorem Reading.Reads.more {text rest : List Char} {word : Word} (reads : Reads text word rest) :
    word.kind ≠ .endOfInput := by
  obtain ⟨c, more, rfl, found⟩ := reads
  obtain ⟨kind, -⟩ := first_sound c more word.kind word.text.toList (by rw [found])
  exact kind

/-- Wherever it stands, the rest of a source is read as these words. -/
def ReadsAs (text : List Char) (words : List Word) : Prop :=
  ∀ position, ∃ tokens, (⟨text, position⟩ : Lexer).readAll = (tokens, none) ∧
    tokens.map Token.word = words

namespace ReadsAs

variable {text rest : List Char} {word : Word} {words : List Word}

/-- The line end that closes a source is read, and the end of the input behind it. -/
theorem close : ReadsAs ['\n'] [.fixed .newline, .last] := by
  intro position
  have next : (⟨['\n'], position⟩ : Lexer).next =
      (.ok ⟨.newline, "\n", ⟨position, position + 1⟩⟩, ⟨[], position + 1⟩) := rfl
  have next' : (⟨[], position + 1⟩ : Lexer).next =
      (.ok ⟨.endOfInput, "", ⟨position + 1, position + 1⟩⟩, ⟨[], position + 1⟩) := rfl
  refine ⟨[⟨.newline, "\n", ⟨position, position + 1⟩⟩,
    ⟨.endOfInput, "", ⟨position + 1, position + 1⟩⟩], ?_, rfl⟩
  rw [Lexer.readAll_of_more next (by simp), Lexer.readAll_of_last next' rfl]

/-- Blanks are passed over. -/
theorem blanks (h : ReadsAs text words) (count : Nat) :
    ReadsAs (List.replicate count ' ' ++ text) words := by
  induction count with
  | zero => exact h
  | succ count ih =>
    intro position
    have blank : (⟨' ' :: (List.replicate count ' ' ++ text), position⟩ : Lexer).next =
        (⟨List.replicate count ' ' ++ text, position + 1⟩ : Lexer).next := by
      rw [Lexer.next, Lexer.skipGap_blank, Lexer.next]
    rw [List.replicate_succ, List.cons_append, Lexer.readAll_of_next_eq blank]
    exact ih (position + 1)

/-- The word at the front is read first. -/
theorem cons (reads : Reading.Reads text word rest) (h : ReadsAs rest words) :
    ReadsAs text (word :: words) := by
  intro position
  have next := @Lexer.next_of_split ⟨text, position⟩ _ _ _ _ reads.split_eq reads
  obtain ⟨tokens, read, rfl⟩ := h (position + byteLength [] + byteLength word.source)
  have read' := Lexer.readAll_of_more next reads.more
  rw [read] at read'
  exact ⟨_, read', rfl⟩

/-- The text is that of a source with these words. -/
theorem tokens {source : String} (h : ReadsAs (source.toList ++ ['\n']) words) :
    ∃ tokens, Lexer.tokens source = .ok tokens ∧ tokens.map Token.word = words := by
  obtain ⟨tokens, read, same⟩ := h 0
  exact ⟨tokens, Lexer.tokens_eq_ok_iff.2 read, same⟩

end ReadsAs

theorem readsAs_spelled (words : List Word) (proper : ∀ word ∈ words, word.Proper)
    (more : ∀ word ∈ words, word.kind ≠ .endOfInput) :
    ReadsAs (spelled words ++ ['\n']) (words ++ [.fixed .newline, .last]) := by
  induction words with
  | nil => exact .close
  | cons word words ih =>
    have reads := Reading.reads_source (proper word List.mem_cons_self)
      (more word List.mem_cons_self) (stopsAt_spelled word words)
    have others := ih (fun word member => proper word (List.mem_cons_of_mem _ member))
      fun word member => more word (List.mem_cons_of_mem _ member)
    rw [spelled, List.cons_append, List.cons_append, List.append_assoc]
    exact (ReadsAs.cons reads others).blanks 1

/-- Every list of proper words is the list of words of some source, but for the line end that
closes it. -/
theorem Lexer.exists_source (words : List Word) (proper : ∀ word ∈ words, word.Proper)
    (more : ∀ word ∈ words, word.kind ≠ .endOfInput) : ∃ source tokens,
      Lexer.tokens source = .ok tokens ∧
        tokens.map Token.word = words ++ [.fixed .newline, .last] := by
  have reads := readsAs_spelled words proper more
  rw [← String.toList_ofList (l := spelled words)] at reads
  exact ⟨_, reads.tokens⟩

end Offside
