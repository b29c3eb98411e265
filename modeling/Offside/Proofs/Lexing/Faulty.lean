import Offside.Proofs.Lexing.Progress
import Offside.Proofs.Lexing.Spelling

/-!
# What a faulty word leaves behind

A lexer that has found a fault has passed over the faulty word and goes on
behind it. Nothing else tells of the word: from there on all is delivered as if
there had been blanks in its place. And since every word ends at a blank, the
tokens before it would be delivered from a text with these blanks as well, with
the same spans.
-/

namespace Offside

namespace Reading

/-- A word that is read does not go on behind itself. -/
theorem Reads.stopsAt {text rest : List Char} {word : Word} (reads : Reads text word rest) :
    StopsAt word.goesOn rest := by
  obtain ⟨same, lexeme, longest⟩ := reads_iff.1 reads
  refine fun c first => Bool.eq_false_iff.2 fun goesOn => ?_
  obtain ⟨behind, rfl⟩ := List.head?_eq_some_iff.1 first
  have longer := longest.longest _ (lexeme.longer goesOn) ⟨behind, by
    rw [same, List.append_assoc]
    rfl⟩
  rw [List.length_append, List.length_singleton] at longer
  omega

end Reading

/-- Every word ends at a blank. -/
theorem Word.stopsAt_blank (word : Word) (text : List Char) :
    StopsAt word.goesOn (' ' :: text) := by
  intro c first
  obtain rfl : ' ' = c := Option.some.inj first
  exact word.not_goesOn_space

namespace Gap

/-- How far a gap goes does not depend on more than the next character. -/
theorem splitFrom_of_head {inComment : Bool} {text gap rest : List Char} {c : Char}
    (split : splitFrom inComment text = (gap, c :: rest)) (rest' : List Char) :
    splitFrom inComment (gap ++ c :: rest') = (gap, c :: rest') := by
  fun_induction splitFrom inComment text generalizing gap with
  | case1 => cases split
  | case2 inComment text =>
    cases split
    simp [splitFrom]
  | case3 inComment d text newline passed gap' behind whole ih =>
    cases split
    have ih := ih whole
    simp only [List.cons_append, splitFrom, newline, passed, if_true, if_false, ih]
  | case4 inComment d text newline ended =>
    cases split
    simp only [List.nil_append, splitFrom, newline, ended, if_false]
    rfl

end Gap

namespace Lexer

variable {lexer behind behind' : Lexer} {token : Token}

theorem skipGap_blanks (count : Nat) (text : List Char) (position : Nat) :
    skipGap ⟨List.replicate count ' ' ++ text, position⟩ = skipGap ⟨text, position + count⟩ := by
  induction count generalizing position with
  | zero => rfl
  | succ count ih =>
    rw [List.replicate_succ, List.cons_append, skipGap_blank, ih, Nat.add_right_comm, Nat.add_assoc]

/-- A lexer goes on as if there were blanks in the place of what it has passed over. -/
theorem exists_blanks {position : Nat} (lt : position < lexer.position) :
    ∃ text, (⟨' ' :: text, position⟩ : Lexer).next = lexer.next := by
  refine ⟨List.replicate (lexer.position - position - 1) ' ' ++ lexer.rest, ?_⟩
  rw [next, next, skipGap_blank, skipGap_blanks,
    show position + 1 + (lexer.position - position - 1) = lexer.position by omega]

/-- What stands behind a token may be replaced by anything with which the token does not go on. -/
theorem exists_next (answer : lexer.next = (.ok token, behind)) (more : token.kind ≠ .endOfInput)
    (stops : StopsAt token.word.goesOn behind'.rest) (here : behind'.position = behind.position) :
    ∃ lexer' : Lexer, lexer'.next = (.ok token, behind') ∧
      lexer'.position = lexer.position ∧ lexer'.rest.head? = lexer.rest.head? := by
  obtain ⟨gap, text, split, reads⟩ := exists_split answer more
  have whole := Gap.split_append lexer.rest
  have answer' := next_of_split split reads
  obtain ⟨rfl, lexeme, -⟩ := Reading.reads_iff.1 reads
  have reads' := Reading.reads_source (lexeme_iff.1 lexeme).1 more stops
  rw [split] at whole
  obtain ⟨c, more, source⟩ := List.exists_cons_of_ne_nil lexeme.ne_nil
  have split' : Gap.split (gap ++ (token.word.source ++ behind'.rest)) =
      (gap, token.word.source ++ behind'.rest) := by
    rw [source] at split ⊢
    exact Gap.splitFrom_of_head split (more ++ behind'.rest)
  refine ⟨⟨gap ++ (token.word.source ++ behind'.rest), lexer.position⟩, ?_, rfl, ?_⟩
  · obtain ⟨same, place⟩ := Prod.mk.inj (answer.symm.trans answer')
    have stop := here.trans (congrArg position place)
    rw [next_of_split split' reads', ← Except.ok.inj same]
    exact congrArg (fun stop => (Except.ok token, Lexer.mk behind'.rest stop)) stop.symm
  · rw [← whole, source]
    cases gap <;> rfl

end Lexer

end Offside
