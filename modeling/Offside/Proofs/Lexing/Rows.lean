import Mathlib
import Offside.Proofs.Lexing.Lossless
import Offside.Proofs.Source.Coordinates

/-!
# Line ends and lines

Tokens and positions tell the lines of a source apart independently of each
other. They agree because no line end goes by unnoticed: a gap holds none, and
of all words only the line end itself does. So wherever the lexer has come to,
what it has passed is whole lines, one for each newline token that it has
delivered, and the front of the line that it is in. The line of a position is
then the number of newline tokens before it, and its column the distance from
the last of them.
-/

namespace Offside

/-- The token for the line end at a byte offset. -/
def Token.lineEnd (offset : Nat) : Token := ⟨.newline, "\n", ⟨offset, offset + 1⟩⟩

/-- Those of the tokens that end a line. -/
def newlines (tokens : List Token) : List Token := tokens.filter (·.kind = .newline)

/-- Where the line begins that is not ended by the tokens: behind the last line end among them, or
at the front of the source. -/
def lineStart (tokens : List Token) : Nat := ((newlines tokens).getLast?.map (·.span.stop)).getD 0

/-- The byte offsets of the line ends in a text that stands at the byte `offset`. -/
def lineEnds (offset : Nat) : List Char → List Nat
  | [] => []
  | c :: text =>
    if c = '\n' then offset :: lineEnds (offset + 1) text else lineEnds (offset + c.utf8Size) text

/-! ## Line ends of a text -/

section

variable {text : List Char}

theorem lineEnds_append (offset : Nat) (text more : List Char) :
    lineEnds offset (text ++ more) =
      lineEnds offset text ++ lineEnds (offset + byteLength text) more := by
  induction text generalizing offset with
  | nil => rfl
  | cons c text ih =>
    rw [List.cons_append, lineEnds, lineEnds, ih, ih, byteLength_cons]
    split
    · next newline =>
      have size : c.utf8Size = 1 := by rw [newline]; rfl
      rw [size, List.cons_append, Nat.add_assoc]
    · rw [Nat.add_assoc]

theorem lineEnds_of_not_mem (offset : Nat) (unbroken : '\n' ∉ text) :
    lineEnds offset text = [] := by
  induction text generalizing offset with
  | nil => rfl
  | cons c text ih =>
    obtain ⟨other, unbroken⟩ := List.ne_and_not_mem_of_not_mem_cons unbroken
    rw [lineEnds, if_neg (Ne.symm other), ih _ unbroken]

theorem length_lineEnds (offset : Nat) (text : List Char) :
    (lineEnds offset text).length = text.count '\n' := by
  induction text generalizing offset with
  | nil => rfl
  | cons c text ih =>
    rw [lineEnds]
    split
    · next newline => rw [newline, List.length_cons, ih, List.count_cons_self]
    · next other => rw [ih, List.count_cons_of_ne other]

end

@[simp] theorem newlines_append (tokens more : List Token) :
    newlines (tokens ++ more) = newlines tokens ++ newlines more := List.filter_append _ _

theorem newlines_singleton_of_ne {token : Token} (other : token.kind ≠ .newline) :
    newlines [token] = [] := by
  simp [newlines, other]

/-! ## Line ends of words -/

namespace Lexer

variable {source : String} {lexer behind : Lexer} {token : Token} {tokens passed : List Token}
  {lines front : List Char}

/-- A word other than the line end holds no line end. -/
theorem newline_not_mem_source (answer : lexer.next = (.ok token, behind))
    (more : token.kind ≠ .endOfInput) (other : token.kind ≠ .newline) :
    '\n' ∉ token.word.source := by
  obtain ⟨gap, text, -, reads⟩ := exists_split answer more
  obtain ⟨c, rest, rfl, found⟩ := id reads
  by_cases newline : c = '\n'
  · subst newline
    exact absurd reads.newline other
  · have absent := Reading.newline_not_mem_first newline rest
    rwa [found] at absent

theorem source_ne_nil (answer : lexer.next = (.ok token, behind))
    (more : token.kind ≠ .endOfInput) : token.word.source ≠ [] := by
  obtain ⟨gap, text, -, reads⟩ := exists_split answer more
  exact (Reading.reads_iff.1 reads).2.1.ne_nil

/-- The line end is the only word of its kind. -/
theorem source_of_newline (answer : lexer.next = (.ok token, behind))
    (newline : token.kind = .newline) : token.text = "\n" ∧ token.word.source = ['\n'] := by
  have proper := (next_ok answer).1.eq_fixed (by rw [Token.word_kind, newline]; rfl)
  rw [Token.word_kind, newline] at proper
  exact ⟨congrArg Word.text proper, by rw [proper]; rfl⟩

/-! ## The line that a lexer is in -/

/-- After these tokens the lexer has passed the lines, each of which has been delivered with its
line end, and the front of one more. -/
structure InRow (source : String) (passed : List Token) (lexer : Lexer)
    (lines front : List Char) : Prop where
  whole : source.toList ++ ['\n'] = lines ++ front ++ lexer.rest
  position : lexer.position = byteLength (lines ++ front)
  closed : IsClosed lines
  unbroken : '\n' ∉ front
  delivered : newlines passed = (lineEnds 0 lines).map Token.lineEnd

namespace InRow

theorem start (source : String) : InRow source [] (Lexer.start source) [] [] where
  whole := rfl
  position := rfl
  closed := .inl rfl
  unbroken := List.not_mem_nil
  delivered := rfl

theorem length_newlines (row : InRow source passed lexer lines front) :
    (newlines passed).length = lines.count '\n' := by
  rw [row.delivered, List.length_map, length_lineEnds]

theorem lineStart_eq (row : InRow source passed lexer lines front) :
    lineStart passed = byteLength lines := by
  rw [lineStart, row.delivered]
  obtain rfl | ⟨others, rfl⟩ := row.closed
  · rfl
  · have last : lineEnds (0 + byteLength others) ['\n'] = [byteLength others] := by
      rw [Nat.zero_add]
      rfl
    rw [lineEnds_append, last, List.map_append, List.map_singleton, List.getLast?_concat,
      byteLength_append]
    rfl

/-- The next token begins in the same line, behind what the gap adds to the front. -/
theorem exists_front (row : InRow source passed lexer lines front)
    (answer : lexer.next = (.ok token, behind)) (more : token.kind ≠ .endOfInput) :
    ∃ front', '\n' ∉ front' ∧
      source.toList ++ ['\n'] = lines ++ front' ++ token.word.source ++ behind.rest ∧
      token.span.start = byteLength (lines ++ front') ∧
      token.span.stop = token.span.start + byteLength token.word.source ∧
      behind.position = token.span.stop := by
  obtain ⟨gap, isGap, -, rest, start, stop, place⟩ :=
    exists_gap (congrArg Prod.fst answer) more
  rw [answer] at rest place
  refine ⟨front ++ gap, ?_, ?_, ?_, stop, place⟩
  · simp [row.unbroken, Gap.newline_not_mem isGap]
  · rw [row.whole, rest]
    simp only [List.append_assoc]
  · rw [start, row.position, ← byteLength_append, List.append_assoc]

/-- Behind the next token the lexer is in the same line, or in the next one if it was a line
end. -/
theorem next (row : InRow source passed lexer lines front)
    (answer : lexer.next = (.ok token, behind)) (more : token.kind ≠ .endOfInput) :
    ∃ lines' front', InRow source (passed ++ [token]) behind lines' front' := by
  obtain ⟨front', unbroken, whole, start, stop, place⟩ := row.exists_front answer more
  have position : behind.position = byteLength (lines ++ front' ++ token.word.source) := by
    rw [place, stop, start, ← byteLength_append]
  by_cases newline : token.kind = .newline
  · obtain ⟨text, ended⟩ := source_of_newline answer newline
    rw [ended] at whole stop position
    have span : token.span =
        ⟨byteLength (lines ++ front'), byteLength (lines ++ front') + 1⟩ := by
      rw [← start]
      exact congrArg (Span.mk token.span.start) stop
    have same : token = .lineEnd (byteLength (lines ++ front')) := by
      rw [Token.lineEnd, ← newline, ← text, ← span]
    refine ⟨lines ++ front' ++ ['\n'], [], ?_, ?_, .inr ⟨_, rfl⟩, List.not_mem_nil, ?_⟩
    · rw [whole, List.append_nil]
    · rw [position, List.append_nil]
    · rw [newlines_append, row.delivered, lineEnds_append, lineEnds_append,
        lineEnds_of_not_mem _ unbroken, List.append_nil, List.map_append, Nat.zero_add, same]
      rfl
  · have inside := newline_not_mem_source answer more newline
    refine ⟨lines, front' ++ token.word.source, ?_, ?_, row.closed, ?_, ?_⟩
    · rw [whole, ← List.append_assoc]
    · rw [position, List.append_assoc]
    · simp [unbroken, inside]
    · rw [newlines_append, newlines_singleton_of_ne newline, List.append_nil, row.delivered]

/-- Wherever tokens lead the lexer to, it is in some line. -/
theorem delivers (row : InRow source passed lexer lines front)
    (delivers : lexer.Delivers tokens behind) :
    ∃ lines' front', InRow source (passed ++ tokens) behind lines' front' := by
  induction tokens generalizing lexer passed lines front with
  | nil =>
    cases delivers
    exact ⟨lines, front, by rwa [List.append_nil]⟩
  | cons token tokens ih =>
    obtain ⟨mid, answer, more, delivers⟩ := delivers
    obtain ⟨lines', front', row⟩ := row.next answer more
    rw [List.append_cons]
    exact ih row delivers

end InRow

/-! ## The lines of a source -/

/-- If the line end that is read past a source is not in the front of a text, then all of the front
is in the source. -/
theorem exists_rest {before more : List Char} (whole : source.toList ++ ['\n'] = before ++ more)
    (nonempty : more ≠ []) : ∃ rest, source.toList = before ++ rest := by
  obtain ⟨rest, last, same⟩ := (List.eq_nil_or_concat more).resolve_left nonempty
  rw [same, List.concat_eq_append, ← List.append_assoc] at whole
  exact ⟨rest, (List.append_inj' whole rfl).1⟩

/-- Each token that is read is delivered behind those before it. -/
theorem delivers_of_readAll_append {before after : List Token} (more : token.kind ≠ .endOfInput)
    (read : lexer.readAll = (before ++ token :: after, none)) :
    ∃ mid behind, lexer.Delivers before mid ∧ mid.next = (.ok token, behind) := by
  fun_induction readAll lexer generalizing before with
  | case1 => cases congrArg Prod.snd read
  | case2 lexer last behind answer ended =>
    obtain ⟨same, -⟩ := Prod.mk.inj read
    cases before with
    | nil => exact absurd ((List.cons.inj same).1 ▸ ended) more
    | cons _ before => simp at same
  | case3 lexer first behind answer others _ tokens error? rest ih =>
    obtain ⟨same, rfl⟩ := Prod.mk.inj read
    cases before with
    | nil =>
      obtain ⟨rfl, -⟩ := List.cons.inj same
      exact ⟨lexer, behind, rfl, answer⟩
    | cons _ before =>
      obtain ⟨rfl, others'⟩ := List.cons.inj same
      obtain ⟨mid, behind', delivers, answer'⟩ := ih (rest.trans (congrArg (·, none) others'))
      exact ⟨mid, behind', ⟨behind, answer, others, delivers⟩, answer'⟩

/-- The newline tokens of a source are its line ends, with the one that is read past it. -/
theorem newlines_of_readAll (read : (Lexer.start source).readAll = (tokens, none)) :
    newlines tokens = (lineEnds 0 source.toList).map Token.lineEnd ++
      [.lineEnd source.utf8ByteSize] := by
  obtain ⟨found, mid, last, rfl, delivers, answer, ended⟩ := delivers_of_readAll_none read
  obtain ⟨lines, front, row⟩ := (InRow.start source).delivers delivers
  have within : Within source mid := ⟨lines ++ front, row.whole, row.position⟩
  have none := within.rest_eq_nil_iff.2 (within.endOfInput_iff.1 ⟨last, answer, ended⟩)
  have all := row.whole
  rw [none, List.append_nil] at all
  have closing : lineEnds 0 (source.toList ++ ['\n']) =
      lineEnds 0 source.toList ++ [source.utf8ByteSize] := by
    rw [lineEnds_append, Nat.zero_add, byteLength_toList]
    rfl
  have same : lineEnds 0 lines = lineEnds 0 source.toList ++ [source.utf8ByteSize] := by
    rw [← closing, all, lineEnds_append, lineEnds_of_not_mem _ row.unbroken, List.append_nil]
  rw [newlines_append, newlines_singleton_of_ne (by rw [ended]; nofun), List.append_nil,
    ← List.nil_append found, row.delivered, same, List.map_append]
  rfl

end Lexer

open Lexer

/-- The line of a token is one more than there are newline tokens before it, and its column one
more than there are characters between it and the last of them, or the front of the source. The
newline tokens are one for each line end of the source, at its place, and one for the line end that
is read past the source. -/
theorem newlines_count_lines {source : String} {tokens : List Token}
    (read : Lexer.tokens source = .ok tokens) :
    (∀ before token after, tokens = before ++ token :: after → token.kind ≠ .endOfInput →
      ∃ front, Occupies source.toList front ⟨lineStart before, token.span.start⟩ ∧
        Position.ofOffset source token.span.start =
          ⟨1 + (newlines before).length, 1 + front.length⟩) ∧
    newlines tokens =
      (lineEnds 0 source.toList).map Token.lineEnd ++ [.lineEnd source.utf8ByteSize] := by
  have read := tokens_eq_ok_iff.1 read
  refine ⟨fun before token after same more => ?_, newlines_of_readAll read⟩
  rw [same] at read
  obtain ⟨mid, behind, delivers, answer⟩ := delivers_of_readAll_append more read
  obtain ⟨lines, front, row⟩ := (InRow.start source).delivers delivers
  rw [List.nil_append] at row
  obtain ⟨front, unbroken, whole, start, -⟩ := row.exists_front answer more
  rw [List.append_assoc _ token.word.source] at whole
  obtain ⟨rest, whole⟩ := exists_rest whole
    (List.append_ne_nil_of_left_ne_nil (source_ne_nil answer more) _)
  refine ⟨front, ⟨lines, rest, whole, row.lineStart_eq, ?_⟩, ?_⟩
  · rw [start, row.lineStart_eq, byteLength_append]
  · rw [start, Position.ofOffset_byteLength whole, Position.behind_lines row.closed unbroken,
      row.length_newlines, Nat.add_comm 1, Nat.add_comm 1]

/-- Neither the comment nor the carriage return keeps the line from being ended once. The tab is
what stands before the `x` in its line, and the wide letters before it do not count. -/
theorem newlines_count_lines_comment :
    Lexer.tokens "\"é\"# ü\r\n\tx" = .ok [⟨.stringLiteral, "é", ⟨0, 4⟩⟩, .lineEnd 9,
        ⟨.identifier, "x", ⟨11, 12⟩⟩, .lineEnd 12, ⟨.endOfInput, "", ⟨13, 13⟩⟩] ∧
      ∃ front, Occupies "\"é\"# ü\r\n\tx".toList front ⟨10, 11⟩ ∧
        Position.ofOffset "\"é\"# ü\r\n\tx" 11 = ⟨1 + 1, 1 + front.length⟩ := by
  have read : Lexer.tokens "\"é\"# ü\r\n\tx" = .ok [⟨.stringLiteral, "é", ⟨0, 4⟩⟩, .lineEnd 9,
      ⟨.identifier, "x", ⟨11, 12⟩⟩, .lineEnd 12, ⟨.endOfInput, "", ⟨13, 13⟩⟩] := by cbv
  exact ⟨read, (newlines_count_lines read).1 [_, _] _ _ rfl (by decide)⟩

end Offside
