import Offside.Proofs.Lexing.Lexeme
import Offside.Proofs.Lexing.Tokens

/-!
# Lexing is longest match

At every place that a lexer comes to, also behind errors, it passes over the
longest gap and reads the longest lexeme behind it. Both are said of texts
alone: a gap is a run of blanks and comments, and the lexemes are those of the
lexical grammar. So the tokens of a source are what is left of a decomposition
of its text into longest gaps and longest lexemes, and a source has tokens
exactly if there is such a decomposition down to its end. The text is the source
with one more line end.
-/

namespace Offside

/-- A run of blanks and comments. A comment does not reach beyond its line. -/
inductive IsGap : List Char → Prop where
  | nil : IsGap []
  | blank {c : Char} {text : List Char} (blank : c = ' ' ∨ c = '\t' ∨ c = '\r')
      (others : IsGap text) : IsGap (c :: text)
  | comment {body text : List Char} (line : '\n' ∉ body) (others : IsGap text) :
    IsGap ('#' :: body ++ text)

/-! ## The longest gap -/

namespace Gap

theorem isBlank_iff {c : Char} : isBlank c = true ↔ c = ' ' ∨ c = '\t' ∨ c = '\r' := by
  simp [isBlank, or_assoc]

theorem not_newline_of_isBlank {c : Char} (blank : isBlank c = true) : c ≠ '\n' := by
  rcases isBlank_iff.1 blank with rfl | rfl | rfl <;> decide

theorem newline_not_mem {gap : List Char} (isGap : IsGap gap) : '\n' ∉ gap := by
  induction isGap with
  | nil => exact List.not_mem_nil
  | blank blank others ih =>
    intro member
    rcases List.mem_cons.1 member with rfl | member
    · exact not_newline_of_isBlank (isBlank_iff.2 blank) rfl
    · exact ih member
  | comment line others ih =>
    intro member
    rcases List.mem_append.1 member with member | member
    · rcases List.mem_cons.1 member with same | member
      · cases same
      · exact line member
    · exact ih member

/-- Within a comment everything up to the line end is passed over. -/
theorem splitFrom_true (text : List Char) :
    splitFrom true text = (text.takeWhile (· != '\n'), text.dropWhile (· != '\n')) := by
  induction text with
  | nil => rfl
  | cons c text ih =>
    by_cases newline : c = '\n'
    · simp [splitFrom, newline]
    · simp [splitFrom, newline, ih]

theorem split_blank {c : Char} (blank : isBlank c = true) (text : List Char) :
    (split (c :: text)).1 = c :: (split text).1 := by
  have newline := not_newline_of_isBlank blank
  have hash : c ≠ '#' := by
    rintro rfl
    cases blank
  simp [split, splitFrom, newline, blank, hash]

theorem split_hash (text : List Char) :
    (split ('#' :: text)).1 = '#' :: text.takeWhile (· != '\n') := by
  simp [split, splitFrom, splitFrom_true]

theorem split_other {c : Char} (blank : isBlank c = false) (hash : c ≠ '#') (text : List Char) :
    (split (c :: text)).1 = [] := by
  by_cases newline : c = '\n'
  · simp [split, splitFrom, newline]
  · simp [split, splitFrom, newline, blank, hash]

theorem isGap_split (text : List Char) : IsGap (split text).1 := by
  induction text with
  | nil => exact .nil
  | cons c text ih =>
    by_cases blank : isBlank c = true
    · rw [split_blank blank]
      exact .blank (isBlank_iff.1 blank) ih
    · by_cases hash : c = '#'
      · subst hash
        rw [split_hash, ← List.append_nil (List.takeWhile _ _)]
        refine .comment (fun member => ?_) .nil
        exact absurd (all_of_mem_takeWhile _ _ _ member) (by decide)
      · rw [split_other (Bool.eq_false_iff.2 blank) hash]
        exact .nil

theorem prefix_split {gap : List Char} (isGap : IsGap gap) :
    ∀ {text : List Char}, gap <+: text → gap <+: (split text).1 := by
  induction isGap with
  | nil => exact fun _ => List.nil_prefix
  | blank blank others ih =>
    intro text starts
    obtain ⟨rest, rfl⟩ := starts
    rw [List.cons_append, split_blank (isBlank_iff.2 blank)]
    exact List.cons_prefix_cons.2 ⟨rfl, ih (List.prefix_append _ _)⟩
  | @comment body gap line others ih =>
    intro text starts
    obtain ⟨rest, rfl⟩ := starts
    rw [List.cons_append, List.cons_append, split_hash]
    refine List.cons_prefix_cons.2 ⟨rfl, ?_⟩
    -- what stands behind the comment in the gap is passed over as a part of the comment
    have within : ∀ c ∈ body ++ gap, (c != '\n') = true := by
      intro c member
      refine bne_iff_ne.2 fun newline => ?_
      subst newline
      rcases List.mem_append.1 member with member | member
      · exact line member
      · exact newline_not_mem others member
    rw [List.takeWhile_append_of_pos within]
    exact List.prefix_append _ _

/-- The gap that is passed over is the longest one at the front of the text. -/
theorem longest_split (text : List Char) : LongestPrefix IsGap (split text).1 text where
  holds := isGap_split text
  starts := ⟨(split text).2, split_append text⟩
  longest _ isGap starts := (prefix_split isGap starts).length_le

end Gap

/-! ## One answer -/

namespace Lexer

/-- The lexer passes over the longest gap and goes on with the rest: it answers with the end of
input if there is no rest, and with the longest lexeme at the front of the rest if there is one. -/
structure Answers (lexer : Lexer) (gap rest : List Char) : Prop where
  whole : lexer.rest = gap ++ rest
  skips : LongestPrefix IsGap gap lexer.rest
  ends : rest = [] → lexer.next.1 = .ok ⟨.endOfInput, "",
    ⟨lexer.position + byteLength gap, lexer.position + byteLength gap⟩⟩
  succeeds : rest ≠ [] →
    ((∃ token, lexer.next.1 = .ok token) ↔ ∃ lexeme, IsLexeme lexeme ∧ lexeme <+: rest)
  reads : rest ≠ [] → ∀ token, lexer.next.1 = .ok token →
    ∃ lexeme behind, rest = lexeme ++ behind ∧ Lexeme lexeme token.word ∧
      LongestPrefix IsLexeme lexeme rest ∧
      token.span.start = lexer.position + byteLength gap ∧
      token.span.stop = token.span.start + byteLength lexeme ∧
      lexer.next.2 = ⟨behind, token.span.stop⟩

theorem readHere_ok {c : Char} {text : List Char} {position : Nat} {token : Token}
    (answer : (⟨c :: text, position⟩ : Lexer).readHere.1 = .ok token) :
    ∃ lexeme behind, c :: text = lexeme ++ behind ∧ Reading.Reads (c :: text) token.word behind ∧
      lexeme = token.word.source ∧ token.span.start = position ∧
      token.span.stop = position + byteLength lexeme ∧
      (⟨c :: text, position⟩ : Lexer).readHere.2 = ⟨behind, token.span.stop⟩ := by
  rw [readHere_cons] at answer ⊢
  obtain ⟨result, span⟩ := located_ok answer
  obtain ⟨whole, -⟩ := Reading.first_splits c text
  obtain ⟨-, -, taken⟩ := Reading.first_sound c text _ _ result
  rw [String.ofList_toList] at taken
  refine ⟨(Reading.first c text).taken, (Reading.first c text).rest, whole.symm,
    ⟨c, text, rfl, ?_⟩, taken, by rw [span], by rw [span], by rw [span]⟩
  rw [← show (Reading.first c text).taken = token.word.source from taken,
    ← show (Reading.first c text).result = .ok (token.word.kind, token.word.text.toList) from
      result]

theorem readHere_of_reads {text behind : List Char} {found : Word}
    (reads : Reading.Reads text found behind) (position : Nat) :
    ∃ token, (⟨text, position⟩ : Lexer).readHere.1 = .ok token := by
  obtain ⟨c, more, rfl, first⟩ := reads
  rw [readHere_cons, first]
  exact ⟨_, rfl⟩

/-- Every answer of a lexer is right. -/
theorem answers (lexer : Lexer) :
    lexer.Answers (Gap.split lexer.rest).1 (Gap.split lexer.rest).2 := by
  have place : lexer.skipGap = ⟨(Gap.split lexer.rest).2,
    lexer.position + byteLength (Gap.split lexer.rest).1⟩ := rfl
  have whole := Gap.split_append lexer.rest
  have skips := Gap.longest_split lexer.rest
  generalize (Gap.split lexer.rest).1 = gap, (Gap.split lexer.rest).2 = rest at place whole skips ⊢
  refine ⟨whole.symm, skips, fun none => ?_, fun more => ?_, fun more token answer => ?_⟩
  · rw [next, place, none]
    rfl
  · obtain ⟨c, text, rfl⟩ := List.exists_cons_of_ne_nil more
    rw [next, place]
    constructor
    · intro answer
      obtain ⟨token, answer⟩ := answer
      obtain ⟨lexeme, behind, same, reads, rfl, -⟩ := readHere_ok answer
      exact ⟨_, ⟨_, reads.lexeme.1⟩, ⟨behind, same.symm⟩⟩
    · intro found
      obtain ⟨lexeme, ⟨word, lexeme'⟩, behind, same⟩ := found
      obtain ⟨found, behind', reads, -⟩ := Reading.exists_reads_of_lexeme lexeme' behind
      rw [same] at reads
      exact readHere_of_reads reads _
  · obtain ⟨c, text, rfl⟩ := List.exists_cons_of_ne_nil more
    rw [next, place] at answer ⊢
    obtain ⟨lexeme, behind, same, reads, rfl, start, stop, answer'⟩ := readHere_ok answer
    obtain ⟨-, lexeme, longest⟩ := Reading.reads_iff.1 reads
    exact ⟨_, behind, same, lexeme, longest, start, by rw [stop, start], answer'⟩

/-- The lexer after it has been asked a number of times. -/
def after (source : String) : Nat → Lexer
  | 0 => start source
  | count + 1 => (after source count).next.2

theorem next_suffix (lexer : Lexer) : ∃ passed, lexer.rest = passed ++ lexer.next.2.rest ∧
    lexer.next.2.position = lexer.position + byteLength passed := by
  have place : lexer.skipGap = ⟨(Gap.split lexer.rest).2,
    lexer.position + byteLength (Gap.split lexer.rest).1⟩ := rfl
  have whole := Gap.split_append lexer.rest
  generalize (Gap.split lexer.rest).1 = gap, (Gap.split lexer.rest).2 = rest at place whole
  rw [next, place, ← whole]
  cases rest with
  | nil => exact ⟨gap, rfl, rfl⟩
  | cons c text =>
    obtain ⟨whole, -⟩ := Reading.first_splits c text
    rw [readHere_cons]
    refine ⟨gap ++ (Reading.first c text).taken, ?_, ?_⟩
    · rw [List.append_assoc, whole]
    · rw [byteLength_append, Nat.add_assoc]

/-- A lexer counts the bytes before what it has still to read. -/
theorem after_eq (source : String) (count : Nat) : ∃ before,
    source.toList ++ ['\n'] = before ++ (after source count).rest ∧
      (after source count).position = byteLength before := by
  induction count with
  | zero => exact ⟨[], rfl, rfl⟩
  | succ count ih =>
    obtain ⟨before, same, position⟩ := ih
    obtain ⟨passed, same', position'⟩ := (after source count).next_suffix
    refine ⟨before ++ passed, ?_, ?_⟩
    · rw [same, same', List.append_assoc]
      rfl
    · rw [byteLength_append, ← position]
      exact position'

end Lexer

/-! ## All answers -/

/-- The text consists of longest gaps and longest lexemes, which are these words. -/
inductive Decomposes : List Char → List Word → Prop where
  | done {gap : List Char} (skips : LongestPrefix IsGap gap gap) : Decomposes gap []
  | next {gap lexeme behind : List Char} {word : Word} {words : List Word}
      (skips : LongestPrefix IsGap gap (gap ++ (lexeme ++ behind))) (reads : Lexeme lexeme word)
      (longest : LongestPrefix IsLexeme lexeme (lexeme ++ behind))
      (others : Decomposes behind words) :
    Decomposes (gap ++ (lexeme ++ behind)) (word :: words)

theorem Lexeme.ne_nil {text : List Char} {word : Word} (lexeme : Lexeme text word) :
    text ≠ [] := by
  obtain ⟨proper, more, rfl⟩ := lexeme_iff.1 lexeme
  have reads : Reading.Reads (word.source ++ []) word [] :=
    Reading.reads_source proper more nofun
  obtain ⟨c, text, same, -⟩ := reads
  rw [List.append_nil] at same
  rw [same]
  exact List.cons_ne_nil c text

namespace Lexer

variable {lexer : Lexer} {gap rest : List Char}

theorem Answers.endOfInput_iff (answers : lexer.Answers gap rest) {token : Token}
    (answer : lexer.next.1 = .ok token) : token.kind = .endOfInput ↔ rest = [] := by
  by_cases none : rest = []
  · have ends := answers.ends none
    rw [answer] at ends
    rw [Except.ok.inj ends]
    exact iff_of_true rfl none
  · obtain ⟨lexeme, behind, -, lexeme', -⟩ := answers.reads none token answer
    exact iff_of_false (lexeme_iff.1 lexeme').2.1 none

/-- A token is read behind the gap, and from there the lexer goes on. -/
theorem exists_split {behind : Lexer} {token : Token} (answer : lexer.next = (.ok token, behind))
    (more : token.kind ≠ .endOfInput) :
    ∃ gap text, Gap.split lexer.rest = (gap, text) ∧
      Reading.Reads text token.word behind.rest := by
  have answers := lexer.answers
  have here := congrArg Prod.fst answer
  have nonempty := mt (answers.endOfInput_iff here).2 more
  obtain ⟨lexeme, rest, split, lexeme', longest, -, -, place⟩ := answers.reads nonempty token here
  obtain ⟨-, -, rfl⟩ := lexeme_iff.1 lexeme'
  obtain rfl : behind = ⟨rest, token.span.stop⟩ := (congrArg Prod.snd answer).symm.trans place
  exact ⟨_, _, rfl, Reading.reads_iff.2 ⟨split, lexeme', longest⟩⟩

theorem decomposes_of_readAll {tokens : List Token} (read : lexer.readAll = (tokens, none)) :
    ∃ words, tokens.map Token.word = words ++ [.last] ∧ Decomposes lexer.rest words := by
  fun_induction readAll lexer generalizing tokens with
  | case1 => cases read
  | case2 lexer token mid answer last =>
    cases read
    have answers := lexer.answers
    have none := (answers.endOfInput_iff (congrArg Prod.fst answer)).1 last
    have skips := answers.skips
    have whole := answers.whole
    have ends := answers.ends none
    rw [none, List.append_nil] at whole
    rw [← whole] at skips
    rw [answer] at ends
    rw [Except.ok.inj ends]
    exact ⟨[], rfl, .done skips⟩
  | case3 lexer token mid answer more _ others error? rest ih =>
    obtain ⟨rfl, rfl⟩ := Prod.mk.inj read
    obtain ⟨words, same, decomposes⟩ := ih rest
    obtain ⟨gap, text, answers⟩ : ∃ gap text, lexer.Answers gap text := ⟨_, _, lexer.answers⟩
    have nonempty := mt (answers.endOfInput_iff (congrArg Prod.fst answer)).2 more
    obtain ⟨lexeme, behind, split, lexeme', longest, -, -, place⟩ :=
      answers.reads nonempty token (congrArg Prod.fst answer)
    have place : mid = ⟨behind, token.span.stop⟩ := (congrArg Prod.snd answer).symm.trans place
    have skips := answers.skips
    have whole := answers.whole
    rw [split] at whole longest
    rw [whole] at skips
    rw [place] at decomposes
    rw [whole]
    refine ⟨token.word :: words, ?_, .next skips lexeme' longest decomposes⟩
    rw [List.map_cons, same]
    rfl

theorem readAll_of_decomposes {text : List Char} {words : List Word}
    (decomposes : Decomposes text words) : ∀ {lexer : Lexer}, lexer.rest = text →
      ∃ tokens, lexer.readAll = (tokens, none) ∧ tokens.map Token.word = words ++ [.last] := by
  induction decomposes with
  | @done gap skips =>
    intro lexer place
    have answers := lexer.answers
    rw [← place] at skips
    have whole := Gap.split_append lexer.rest
    have same := skips.unique answers.skips
    have none : (Gap.split lexer.rest).2 = [] := by
      rw [← same] at whole
      exact List.append_right_eq_self.1 whole
    have ends := answers.ends none
    cases answer : lexer.next with
    | mk told behind =>
      rw [answer] at ends
      obtain rfl := ends
      exact ⟨_, readAll_of_last answer rfl, rfl⟩
  | @next gap lexeme behind word words skips reads longest others ih =>
    intro lexer place
    have answers := lexer.answers
    rw [← place] at skips
    have whole := Gap.split_append lexer.rest
    have same := skips.unique answers.skips
    have rest : (Gap.split lexer.rest).2 = lexeme ++ behind := by
      rw [← same] at whole
      exact List.append_cancel_left (whole.trans place)
    rw [rest] at answers
    have more : lexeme ++ behind ≠ [] := List.append_ne_nil_of_left_ne_nil reads.ne_nil _
    obtain ⟨token, answer⟩ := (answers.succeeds more).2
      ⟨lexeme, ⟨word, reads⟩, List.prefix_append _ _⟩
    obtain ⟨lexeme', behind', split, reads', longest', -, -, place'⟩ :=
      answers.reads more token answer
    obtain rfl := longest.unique longest'
    obtain rfl := List.append_cancel_left split
    obtain rfl := Reading.lexeme_unique reads reads'
    obtain ⟨tokens, read, same⟩ := @ih lexer.next.2 (by rw [place'])
    refine ⟨token :: tokens, ?_, by rw [List.map_cons, same]; rfl⟩
    have delivered : lexer.next = (.ok token, lexer.next.2) := by rw [← answer]
    rw [readAll_of_more delivered ?_, read]
    exact mt (answers.endOfInput_iff answer).1 more

end Lexer

/-- Wherever a lexer comes to in a source, it passes over the longest gap and reads the longest
lexeme; and a source has tokens exactly if its text, with one more line end, consists of such gaps
and lexemes, which are then the words of its tokens. -/
theorem lexing_longest (source : String) :
    (∀ count, ∃ before, source.toList ++ ['\n'] = before ++ (Lexer.after source count).rest ∧
      (Lexer.after source count).position = byteLength before ∧
      ∃ gap rest, (Lexer.after source count).Answers gap rest) ∧
    ((∃ tokens, Lexer.tokens source = .ok tokens) ↔
      ∃ words, Decomposes (source.toList ++ ['\n']) words) ∧
    ∀ words, Decomposes (source.toList ++ ['\n']) words ↔
      ∃ tokens, Lexer.tokens source = .ok tokens ∧
        tokens.map Token.word = words ++ [.last] := by
  have sound {tokens : List Token} (read : Lexer.tokens source = .ok tokens) :
      ∃ words, tokens.map Token.word = words ++ [.last] ∧
        Decomposes (source.toList ++ ['\n']) words :=
    Lexer.decomposes_of_readAll (Lexer.tokens_eq_ok_iff.1 read)
  have complete {words : List Word} (decomposes : Decomposes (source.toList ++ ['\n']) words) :
      ∃ tokens, Lexer.tokens source = .ok tokens ∧ tokens.map Token.word = words ++ [.last] := by
    obtain ⟨tokens, read, same⟩ :=
      @Lexer.readAll_of_decomposes _ _ decomposes (Lexer.start source) rfl
    exact ⟨tokens, Lexer.tokens_eq_ok_iff.2 read, same⟩
  refine ⟨fun count => ?_, ⟨fun found => ?_, fun found => ?_⟩,
    fun words => ⟨complete, fun found => ?_⟩⟩
  · obtain ⟨before, same, position⟩ := Lexer.after_eq source count
    exact ⟨before, same, position, _, _, Lexer.answers _⟩
  · obtain ⟨tokens, read⟩ := found
    obtain ⟨words, -, decomposes⟩ := sound read
    exact ⟨words, decomposes⟩
  · obtain ⟨words, decomposes⟩ := found
    obtain ⟨tokens, read, -⟩ := complete decomposes
    exact ⟨tokens, read⟩
  · obtain ⟨tokens, read, same⟩ := found
    obtain ⟨words', same', decomposes⟩ := sound read
    obtain rfl : words = words' := List.append_cancel_right (same.symm.trans same')
    exact decomposes

end Offside
