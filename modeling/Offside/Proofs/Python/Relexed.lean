import Mathlib
import Offside.Proofs.Lexing.Faulty
import Offside.Proofs.Render.Inline
import Offside.Proofs.Session.Monotone

/-!
# What is written within a line can be read again

The lexer can read a line of Python as well. What is written there are the words
of a tree, side by side and mostly without a space between them, and none of
them goes on with what stands behind it: so they are read again one by one, and
the spaces before and behind them are passed over. A literal holds nothing that
could end it. The only words that are read as others are `AND`, `OR` and `NOT`,
which are written as names.

A run writes nothing else for a phrase than the words that it has taken, but for
the margin if the line has not been begun. That is so wherever a call comes to
the phrase, also behind calls that have ended with an error.
-/

namespace Offside

/-! ## Reading a line -/

namespace Word

variable {word : Word} {opening : Bool} {next : Token.Kind} {rest : List Char}

theorem exists_blanks_before (word : Word) :
    ∃ count, word.spaceBefore = List.replicate count ' ' := by
  unfold spaceBefore
  split
  · exact ⟨1, rfl⟩
  · exact ⟨0, rfl⟩

theorem exists_blanks_behind (word : Word) :
    ∃ count, word.spaceBehind = List.replicate count ' ' := by
  rcases word.spaceBehind_cases with none | space
  · exact ⟨0, none⟩
  · exact ⟨1, space⟩

theorem stopsAt_closed (stops : StopsAt word.goesOn rest) :
    StopsAt word.goesOn (rest ++ ['\n']) := by
  intro c first
  cases rest with
  | nil =>
    obtain rfl : '\n' = c := Option.some.inj first
    exact word.not_goesOn_newline
  | cons d rest => exact stops c first

/-- A word that stands in a line is read as its face if the line is closed. -/
theorem Stands.reads_closed (stands : word.Stands opening next rest) :
    Reading.Reads (word.face.source ++ (word.spaceBehind ++ (rest ++ ['\n']))) word.face
      (word.spaceBehind ++ (rest ++ ['\n'])) := by
  have reads := reads_face stands.proper stands.precedes stands.starts
  have closed := Reading.reads_source (proper_face stands.proper) reads.more
    (stopsAt_closed reads.stopsAt)
  rwa [List.append_assoc] at closed

/-- So it is the first word of the line, and the others are read behind it. -/
theorem Stands.readsAs (stands : word.Stands opening next rest) {words : List Word}
    (others : ReadsAs (rest ++ ['\n']) words) :
    ReadsAs ((word.written .python).toList ++ (rest ++ ['\n'])) (word.face :: words) := by
  obtain ⟨before, spaceBefore⟩ := word.exists_blanks_before
  obtain ⟨behind, spaceBehind⟩ := word.exists_blanks_behind
  have reads := stands.reads_closed
  rw [written_append stands.proper, spaceBefore]
  rw [spaceBehind] at reads ⊢
  exact (ReadsAs.cons reads (others.blanks behind)).blanks before

end Word

/-- Words that may stand side by side are read again from their text within a line. -/
theorem readsAs_line {leaves : List Leaf} {last : Leaf} {opening : Bool}
    (apart : Apart opening (leaves ++ [last])) (proper : ∀ leaf ∈ leaves, leaf.word.Proper) :
    ReadsAs (Leaf.line leaves ++ ['\n'])
      (leaves.map (fun leaf => leaf.word.face) ++ [.fixed .newline, .last]) := by
  induction leaves generalizing opening with
  | nil => exact .close
  | cons leaf leaves ih =>
    have others := ih (apart_head apart).2 fun next member =>
      proper next (List.mem_cons_of_mem _ member)
    have reads := (stands_line apart proper).readsAs others
    rw [← List.append_assoc] at reads
    exact reads

theorem Tree.readsAs {category : Category} (tree : Tree category)
    (inline_ : category.isInline = true) (proper : ∀ leaf ∈ tree.leaves, leaf.word.Proper) :
    ReadsAs ((tree.written .python).toList ++ ['\n'])
      (tree.leaves.map (fun leaf => leaf.word.face) ++ [.fixed .newline, .last]) := by
  obtain ⟨kind, follows, fits⟩ := Category.exists_place inline_
  have apart : Apart true (tree.leaves ++ [.fixed kind]) :=
    tree.apart inline_ follows fits fun _ => trivial
  rw [tree.toList_written]
  exact readsAs_line apart proper

/-- A string literal is read again as it has been read. -/
theorem Lexer.readsAs_quote {lexer behind : Lexer} {token : Token}
    (answer : lexer.next = (.ok token, behind)) (literal : token.kind = .stringLiteral) :
    ReadsAs ((Target.python.quote token.text).toList ++ ['\n'])
      [token.word, .fixed .newline, .last] := by
  have source : (Target.python.quote token.text).toList = token.word.source := by
    rw [Word.toList_quote, Word.source, Token.word_kind, literal]
    rfl
  have more : token.word.kind ≠ .endOfInput := by
    rw [Token.word_kind, literal]
    intro same
    cases same
  have stops : StopsAt token.word.goesOn ([] ++ ['\n']) := by
    refine Word.stopsAt_closed fun c first => ?_
    cases first
  rw [source]
  exact .cons (Reading.reads_source (next_ok answer).1 more stops) .close

/-! ## Writing a phrase -/

/-- What pieces add to a draft are the pieces, behind a margin if no line has been begun. -/
theorem Draft.body_foldl_write (pieces : List String) (draft : Draft) : ∃ count,
    (pieces.foldl write draft).body =
      draft.body ++ (Text.spaces count ++ String.join pieces) := by
  have nothing : Text.spaces 0 = "" := rfl
  cases isOpen : draft.lineOpen with
  | true =>
    refine ⟨0, ?_⟩
    rw [foldl_write pieces isOpen, nothing, String.empty_append, append]
  | false =>
    cases pieces with
    | nil => exact ⟨0, String.append_empty.symm⟩
    | cons first pieces =>
      have begun : draft.write first =
          { draft with body := draft.body ++ draft.margin ++ first, lineOpen := true } :=
        if_neg (by rw [isOpen]; exact Bool.false_ne_true)
      refine ⟨draft.depth * draft.width, ?_⟩
      rw [List.foldl_cons, begun, foldl_write pieces rfl, String.join_cons, append]
      simp only [String.append_assoc, margin]

namespace Session

variable {s s' : Session} {phrase : Phrase}

/-- A phrase takes the words of a tree from what the session has before it, and draws that tree. -/
theorem Placed.exists_tree (placed : s.Placed) (done : s.run [.phrase phrase] = .done s') :
    ∃ (consumed : List Token) (tree : Tree phrase.category),
      s.ahead = (consumed ++ s'.ahead.1, s'.ahead.2) ∧
      consumed.map Token.word = tree.leaves.map Leaf.word ∧
      (∀ token ∈ consumed, token.word.Proper) ∧ s'.draft = tree.draw s.target s.draft := by
  obtain ⟨t, lexer, alike, at_⟩ := placed
  have runs := bisimulation_alike.run alike [.phrase phrase]
  rw [done] at runs
  generalize ended : t.run [.phrase phrase] = outcome at runs
  cases runs with
  | @done _ t' alike' =>
    obtain ⟨leaves, reaches⟩ := reaches_of_run_done ended
    obtain ⟨consumed, behind, delivers, at_', same⟩ := reaches.place at_
    have nothing : Covers t.target [] t'.work [] t'.work := ⟨rfl, rfl⟩
    have covers := reaches.covers at_ nothing
    rw [List.append_nil] at covers
    obtain ⟨tree, rfl, -, drawn⟩ := covers_part covers
    refine ⟨consumed, tree, ?_, same, fun token member =>
      (Lexer.proper_of_delivers delivers token member).1, ?_⟩
    · rw [alike.ahead, alike'.ahead, ← at_.readAll_eq, ← at_'.readAll_eq,
        Lexer.readAll_of_delivers delivers]
    · obtain ⟨lexer, rfl, -⟩ := alike
      obtain ⟨lexer', rfl, -⟩ := alike'
      exact congrArg Work.draft drawn

/-- What a phrase within a line adds to the body is read as the words that it has taken. -/
theorem Placed.readsAs (placed : s.Placed) (python : s.target = .python)
    (inline_ : phrase.category.isInline = true) (done : s.run [.phrase phrase] = .done s') :
    ∃ (text : String) (consumed : List Token), s'.draft.body = s.draft.body ++ text ∧
      s.ahead = (consumed ++ s'.ahead.1, s'.ahead.2) ∧
      ReadsAs (text.toList ++ ['\n'])
        (consumed.map (fun token => token.word.face) ++ [.fixed .newline, .last]) := by
  obtain ⟨consumed, tree, ahead, same, proper, drawn⟩ := placed.exists_tree done
  rw [python, tree.draw_eq_foldl _ inline_] at drawn
  obtain ⟨count, body⟩ := Draft.body_foldl_write (tree.leaves.map (Leaf.written .python)) s.draft
  have proper' : ∀ leaf ∈ tree.leaves, leaf.word.Proper := by
    intro leaf member
    obtain ⟨token, found, word⟩ := List.mem_map.1 (same ▸ List.mem_map_of_mem member)
    rw [← word]
    exact proper token found
  have faces : consumed.map (fun token => token.word.face) =
      tree.leaves.map (fun leaf => leaf.word.face) := by
    have faces := congrArg (List.map Word.face) same
    rw [List.map_map, List.map_map] at faces
    exact faces
  refine ⟨Text.spaces count ++ tree.written .python, consumed, ?_, ahead, ?_⟩
  · rw [drawn, body]
    rfl
  · rw [faces, String.toList_append, Text.spaces, String.toList_ofList, List.append_assoc]
    exact (tree.readsAs inline_ proper').blanks count

theorem target_of_comesTo {symbols symbols' : List Symbol}
    (comes : s.ComesTo symbols s' symbols') : s'.target = s.target := by
  obtain ⟨leaves, reaches⟩ := comes.reaches
  exact reaches.target

end Session

/-- What is evaluated at a point of a first call and behind the phrase that is compiled there. -/
theorem exists_compiled {source : String} {width steps : Nat} {target : Target} {phrase : Phrase}
    {body body' : String}
    (evaluated : (match Session.start source width target with
      | .error _ => none
      | .ok first => match first.writePreamble.pointAfter Session.programSymbols steps with
        | some (s, .phrase phrase :: _) => match s.run [.phrase phrase] with
          | .done s' => some (phrase, s.draft.body, s'.draft.body)
          | .halted _ _ => none
        | _ => none) = some (phrase, body, body')) :
    ∃ first s s' rest, Session.start source width target = .ok first ∧
      first.writePreamble.ComesTo Session.programSymbols s (.phrase phrase :: rest) ∧
      s.run [.phrase phrase] = .done s' ∧ s.draft.body = body ∧ s'.draft.body = body' := by
  split at evaluated
  · cases evaluated
  · next first started =>
    split at evaluated
    · next s phrase rest point =>
      split at evaluated
      · next s' done =>
        cases evaluated
        exact ⟨first, s, s', rest, started, Session.comesTo_iff.2 ⟨steps, point⟩, done, rfl, rfl⟩
      · cases evaluated
    · cases evaluated

/-- Wherever a call comes to a phrase that is written within a line, what is printed, an expression
or a condition among them: if it is compiled, what that adds to the body is read again as the words
that have been taken, with `AND`, `OR` and `NOT` as names, and as nothing else. And every literal is
read again as the one that it has been written for. -/
theorem written_relexes {source : String} {width : Nat} {first : Session}
    (started : Session.start source width .python = .ok first) :
    (∀ (calls : Nat) (s s' : Session) (phrase : Phrase) (rest : List Symbol),
      (first.afterCalls calls).writePreamble.ComesTo Session.programSymbols s
        (.phrase phrase :: rest) →
      phrase.category.isInline = true → s.run [.phrase phrase] = .done s' →
      ∃ (text : String) (consumed tokens : List Token),
        s'.draft.body = s.draft.body ++ text ∧
        s.ahead = (consumed ++ s'.ahead.1, s'.ahead.2) ∧
        Lexer.tokens text = .ok tokens ∧ tokens.map Token.word =
          consumed.map (fun token => token.word.face) ++ [.fixed .newline, .last]) ∧
    ∀ (lexer behind : Lexer) (token : Token), lexer.next = (.ok token, behind) →
      token.kind = .stringLiteral → ∃ tokens,
        Lexer.tokens (Target.python.quote token.text) = .ok tokens ∧
          tokens.map Token.word = [token.word, .fixed .newline, .last] := by
  obtain ⟨at_, -, -, -, python⟩ := Session.start_eq_ok started
  constructor
  · intro calls s s' phrase rest comes inline_ done
    have called : (first.afterCalls calls).Placed := .afterCalls ⟨first, _, .refl first, at_⟩ calls
    have placed : s.Placed := called.writePreamble.comesTo comes
    have target : s.target = .python := by
      rw [Session.target_of_comesTo comes]
      exact (first.target_afterCalls calls).trans python
    obtain ⟨text, consumed, body, ahead, readsAs⟩ := placed.readsAs target inline_ done
    obtain ⟨tokens, read, words⟩ := readsAs.tokens
    exact ⟨text, consumed, tokens, body, ahead, read, words⟩
  · intro lexer behind token answer literal
    exact (Lexer.readsAs_quote answer literal).tokens

example : [Phrase.printed, .expression, .condition].all (·.category.isInline) = true := by decide

/-- A condition is written almost without spaces, and every word of it is found again. A literal may
hold what would begin a comment elsewhere. -/
theorem written_relexes_condition : ∃ (first s s' : Session) (rest : List Symbol)
    (text : String) (consumed tokens tokens' : List Token),
    Session.start "IF NOT 1. * -2 < 3 AND 4 == 4 THEN" 4 .python = .ok first ∧
      first.writePreamble.ComesTo Session.programSymbols s (.phrase .condition :: rest) ∧
      s.run [.phrase .condition] = .done s' ∧
      s.draft.body = "if " ∧ s'.draft.body = "if not 1.*-2<3 and 4==4" ∧
      s'.draft.body = s.draft.body ++ text ∧ Lexer.tokens text = .ok tokens ∧
      tokens.map Token.word =
        consumed.map (fun token => token.word.face) ++ [.fixed .newline, .last] ∧
      Lexer.tokens (Target.python.quote "a # b") = .ok tokens' ∧
      tokens'.map Token.word = [⟨.stringLiteral, "a # b"⟩, .fixed .newline, .last] := by
  obtain ⟨first, s, s', rest, started, comes, done, before, behind⟩ :=
    @exists_compiled "IF NOT 1. * -2 < 3 AND 4 == 4 THEN" 4 3 .python .condition "if "
      "if not 1.*-2<3 and 4==4" (by cbv)
  have literal : (Lexer.start "\"a # b\"").next =
      (.ok ⟨.stringLiteral, "a # b", ⟨0, 7⟩⟩, ⟨['\n'], 7⟩) := by cbv
  obtain ⟨relexed, literals⟩ := written_relexes started
  obtain ⟨text, consumed, tokens, body, -, read, words⟩ :=
    relexed 0 s s' .condition rest comes rfl done
  obtain ⟨tokens', read', words'⟩ := literals _ _ _ literal rfl
  exact ⟨first, s, s', rest, text, consumed, tokens, tokens', started, comes, done, before, behind,
    body, read, words, read', words'⟩

end Offside
