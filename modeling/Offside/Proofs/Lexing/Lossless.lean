import Mathlib
import Offside.Proofs.Lexing.Progress

/-!
# Nothing is lost between tokens

The tokens of a source lie one behind the other, each on the very bytes that it
was read from, and what lies between them is blanks and comments. A comment is
complete: behind it stands the line end. So gaps and tokens in turn are the
source with one more line end, character by character, and the last of the
tokens are that line end and the end of the input.
-/

namespace Offside

/-- These characters are what stands in the text on the bytes of the span. -/
def Occupies (text part : List Char) (span : Span) : Prop :=
  ∃ before after, text = before ++ part ++ after ∧
    span.start = byteLength before ∧ span.stop = span.start + byteLength part

/-- The gaps are what lies in the text before each of the tokens: the first of them begins at the
byte `position`, every other where the token before it ends. And each token is on its own bytes. -/
def Separates (text : List Char) (position : Nat) :
    (gaps : List (List Char)) → (tokens : List Token) → Prop
  | [], [] => True
  | gap :: gaps, token :: tokens =>
    IsGap gap ∧ ('#' ∈ gap → token.kind = .newline) ∧
      Occupies text gap ⟨position, token.span.start⟩ ∧
      Occupies text token.word.source token.span ∧ Separates text token.span.stop gaps tokens
  | _, _ => False

/-- Gaps and tokens in turn. -/
def interleaved (gaps : List (List Char)) (tokens : List Token) : List Char :=
  (gaps.zipWith (fun gap token => gap ++ token.word.source) tokens).flatten

theorem Occupies.le {text part : List Char} {span : Span} (occupies : Occupies text part span) :
    span.start ≤ span.stop := by
  obtain ⟨before, after, -, -, stop⟩ := occupies
  omega

namespace Gap

/-- A comment is not left before its line end. -/
theorem newline_of_hash_mem {text : List Char} (comment : '#' ∈ (split text).1) {c : Char}
    {rest : List Char} (behind : (split text).2 = c :: rest) : c = '\n' := by
  induction text with
  | nil => cases behind
  | cons d text ih =>
    by_cases blank : isBlank d = true
    · have whole := split_append (d :: text)
      rw [split_blank blank, List.cons_append, List.cons.injEq] at whole
      have same : (split (d :: text)).2 = (split text).2 :=
        List.append_cancel_left (whole.2.trans (split_append text).symm)
      rw [split_blank blank] at comment
      rcases List.mem_cons.1 comment with rfl | comment
      · cases blank
      · exact ih comment (same.symm.trans behind)
    · by_cases hash : d = '#'
      · subst hash
        have rest' : (split ('#' :: text)).2 = text.dropWhile (· != '\n') := by
          simp [split, splitFrom, splitFrom_true]
        rw [rest'] at behind
        have stops := List.head?_dropWhile_not (· != '\n') text
        rw [behind] at stops
        simpa using stops
      · rw [split_other (Bool.eq_false_iff.2 blank) hash] at comment
        cases comment

end Gap

namespace Reading

theorem Reads.newline {word : Word} {text rest : List Char}
    (reads : Reads ('\n' :: text) word rest) : word.kind = .newline := by
  obtain ⟨c, more, same, found⟩ := reads
  obtain ⟨rfl, rfl⟩ := List.cons.inj same
  have result := congrArg Reading.result found
  exact (Prod.mk.inj (Except.ok.inj result)).1.symm

end Reading

namespace Lexer

variable {source : String} {lexer : Lexer}

/-- A token with the gap before it, as they are passed over in one call. -/
theorem exists_gap {token : Token} (answer : lexer.next.1 = .ok token)
    (more : token.kind ≠ .endOfInput) : ∃ gap, IsGap gap ∧
      ('#' ∈ gap → token.kind = .newline) ∧
      lexer.rest = gap ++ token.word.source ++ lexer.next.2.rest ∧
      token.span.start = lexer.position + byteLength gap ∧
      token.span.stop = token.span.start + byteLength token.word.source ∧
      lexer.next.2.position = token.span.stop := by
  obtain ⟨gap, text, split, reads⟩ := exists_split (Prod.ext answer rfl) more
  have whole := Gap.split_append lexer.rest
  have isGap := Gap.isGap_split lexer.rest
  have newline := @Gap.newline_of_hash_mem lexer.rest
  rw [split] at whole isGap newline
  have delivered := next_of_split split reads
  have span := congrArg Token.span (Except.ok.inj (answer.symm.trans (congrArg Prod.fst delivered)))
  have place := congrArg (fun answer => answer.2.position) delivered
  obtain ⟨text', lexeme, -⟩ := Reading.reads_iff.1 reads
  refine ⟨gap, isGap, fun comment => ?_, ?_, by rw [span], by rw [span], by rw [span]; exact place⟩
  · obtain ⟨c, behind, source⟩ := List.exists_cons_of_ne_nil lexeme.ne_nil
    rw [text', source, List.cons_append] at reads newline
    rw [newline comment rfl] at reads
    exact reads.newline
  · rw [List.append_assoc, ← text', whole]

/-- From any place of a source on, gaps and tokens in turn are what is still to be read. -/
theorem exists_separates {tokens : List Token} {before : List Char}
    (whole : source.toList ++ ['\n'] = before ++ lexer.rest)
    (position : lexer.position = byteLength before) (read : lexer.readAll = (tokens, none)) :
    ∃ gaps, Separates (source.toList ++ ['\n']) lexer.position gaps tokens ∧
      interleaved gaps tokens = lexer.rest := by
  fun_induction readAll lexer generalizing tokens before with
  | case1 => cases read
  | case2 lexer token behind answer last =>
    cases read
    have within : Within source lexer := ⟨before, whole, position⟩
    have ended := within.endOfInput_iff.1 ⟨token, congrArg Prod.fst answer, last⟩
    have none := within.rest_eq_nil_iff.2 ended
    rw [within.next_of_last ended] at answer
    obtain rfl : _ = token := Except.ok.inj (congrArg Prod.fst answer)
    rw [none, List.append_nil] at whole
    have nothing (stop : Nat) (here : stop = byteLength before) :
        Occupies (source.toList ++ ['\n']) [] ⟨stop, stop⟩ :=
      ⟨before, [], by rw [whole, List.append_nil, List.append_nil], here, rfl⟩
    have here := ended.symm.trans position
    refine ⟨[[]], ⟨.nil, fun comment => absurd comment List.not_mem_nil, ?_,
      nothing _ here, trivial⟩, none.symm⟩
    rw [ended]
    exact nothing _ here
  | case3 lexer token behind answer more _ others error? rest ih =>
    obtain ⟨rfl, rfl⟩ := Prod.mk.inj read
    obtain ⟨gap, isGap, comment, split, start, stop, place⟩ :=
      exists_gap (congrArg Prod.fst answer) more
    rw [answer] at split place
    have whole' : source.toList ++ ['\n'] = before ++ gap ++ token.word.source ++ behind.rest := by
      rw [whole, split, ← List.append_assoc, ← List.append_assoc]
    obtain ⟨gaps, separates, same⟩ := ih whole' (by
      rw [place, stop, start, position, byteLength_append, byteLength_append]) rest
    refine ⟨gap :: gaps, ⟨isGap, comment, ?_, ?_, place ▸ separates⟩, ?_⟩
    · exact ⟨before, token.word.source ++ behind.rest,
        by rw [whole', List.append_assoc _ _ behind.rest], position, start⟩
    · exact ⟨before ++ gap, behind.rest, whole', by rw [start, position, byteLength_append], stop⟩
    · rw [split, ← same]
      rfl

/-- The last tokens of a source are the line end that is read past it and the end of the input. -/
theorem exists_closing {tokens : List Token} (read : Lexer.tokens source = .ok tokens) :
    ∃ front, tokens = front ++
        [⟨.newline, "\n", ⟨source.utf8ByteSize, source.utf8ByteSize + 1⟩⟩,
          ⟨.endOfInput, "", ⟨source.utf8ByteSize + 1, source.utf8ByteSize + 1⟩⟩] ∧
      ∀ token ∈ front, token.kind ≠ .endOfInput := by
  obtain ⟨front, answers, ended⟩ := exists_calls source
  rcases ended with ⟨last, answer, ended, read'⟩ | ⟨error, -, read'⟩
  · obtain rfl := Except.ok.inj (read.symm.trans read')
    have place := (progresses_after source front.length).endOfInput_iff.1 ⟨last, answer, ended⟩
    rw [(progresses_after source front.length).ends place] at answer
    obtain rfl := Except.ok.inj answer
    -- The call before the last has come to the end of the source, so it has passed its line end.
    rcases List.eq_nil_or_concat front with rfl | ⟨front, token, rfl⟩
    · cases place
    · rw [List.concat_eq_append, List.length_append] at place
      obtain ⟨answer', more⟩ := answers front.length (by simp)
      simp only [List.concat_eq_append, List.getElem_concat_length] at answer' more
      have before := progresses_after source front.length
      have notLast : (after source front.length).position ≠ source.utf8ByteSize + 1 := by
        intro last
        rw [before.ends last] at answer'
        exact more (by rw [← Except.ok.inj answer'])
      have inside := (within_after source front.length).position_add
      rw [before.closes (by omega) place] at answer'
      obtain rfl := Except.ok.inj answer'
      refine ⟨front, by simp, fun token member => ?_⟩
      obtain ⟨index, h, rfl⟩ := List.mem_iff_getElem.1 member
      have answers := (answers index (by simp; omega)).2
      simpa [List.getElem_append_left h] using answers
  · rw [read] at read'
    cases read'

end Lexer

theorem Separates.ordered {text : List Char} {position : Nat} {gaps : List (List Char)}
    {tokens : List Token} (separates : Separates text position gaps tokens) :
    (∀ token ∈ tokens, position ≤ token.span.start) ∧
      tokens.Pairwise fun left right => left.span.stop ≤ right.span.start := by
  induction tokens generalizing position gaps with
  | nil => exact ⟨nofun, .nil⟩
  | cons token tokens ih =>
    cases gaps with
    | nil => cases separates
    | cons gap gaps =>
      obtain ⟨-, -, between, within, others⟩ := separates
      obtain ⟨behind, ordered⟩ := ih others
      refine ⟨List.forall_mem_cons.2 ⟨between.le, fun other member => ?_⟩, .cons behind ordered⟩
      have start := between.le
      have stop := within.le
      have start' := behind other member
      exact Nat.le_trans start (Nat.le_trans stop start')

/-- The tokens of a source lie in their order and apart, each on the bytes of its own characters,
with gaps between them, and gaps and tokens in turn are the source with one more line end. The last
tokens are that line end and the end of the input. -/
theorem tokens_lossless {source : String} {tokens : List Token}
    (read : Lexer.tokens source = .ok tokens) :
    (tokens.Pairwise fun left right => left.span.stop ≤ right.span.start) ∧
    (∃ gaps, Separates (source.toList ++ ['\n']) 0 gaps tokens ∧
      interleaved gaps tokens = source.toList ++ ['\n']) ∧
    ∃ front, tokens = front ++
        [⟨.newline, "\n", ⟨source.utf8ByteSize, source.utf8ByteSize + 1⟩⟩,
          ⟨.endOfInput, "", ⟨source.utf8ByteSize + 1, source.utf8ByteSize + 1⟩⟩] ∧
      ∀ token ∈ front, token.kind ≠ .endOfInput := by
  obtain ⟨gaps, separates, same⟩ :=
    @Lexer.exists_separates source (Lexer.start source) tokens [] rfl rfl
      (Lexer.tokens_eq_ok_iff.1 read)
  exact ⟨separates.ordered.2, ⟨gaps, separates, same⟩, Lexer.exists_closing read⟩

/-- The two quotes and the two bytes of the letter between them belong to the string literal, and
the comment, of which the last letter has two bytes as well, to the gap before the line end. -/
theorem tokens_lossless_comment : ∃ tokens,
    Lexer.tokens "PRINT \"é\"# ü" = .ok tokens ∧
      tokens.map Token.span = [⟨0, 5⟩, ⟨6, 10⟩, ⟨14, 15⟩, ⟨15, 15⟩] ∧
      ∃ gaps, Separates ("PRINT \"é\"# ü".toList ++ ['\n']) 0 gaps tokens ∧
        interleaved gaps tokens = "PRINT \"é\"# ü".toList ++ ['\n'] := by
  have read : Lexer.tokens "PRINT \"é\"# ü" = .ok [⟨.keyword .print, "PRINT", ⟨0, 5⟩⟩,
      ⟨.stringLiteral, "é", ⟨6, 10⟩⟩, ⟨.newline, "\n", ⟨14, 15⟩⟩,
      ⟨.endOfInput, "", ⟨15, 15⟩⟩] := by cbv
  exact ⟨_, read, rfl, (tokens_lossless read).2.1⟩

end Offside
