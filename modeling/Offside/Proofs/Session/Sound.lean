import Offside.Proofs.Grammar.Resolved
import Offside.Proofs.Session.Covers
import Offside.Proofs.Session.Predict

/-!
# What a run has taken

A run makes leaves of the tokens that it takes. Here the facts about single
moves are put together for whole runs: the leaves stand for the tokens in their
order, every name among them has been declared when it is read, and with
whatever the symbols to come may cover they are covered by the symbols at the
beginning.

One symbol is not safe in every place. The phrase for a call takes a name
without a look at the scope, because it is only ever put in the place of an
operand whose name has been looked up. `Session.Ready` keeps track of that: a
call is to come only as the very next thing, when the window shows its name
and the parenthesis behind it.
-/

namespace Offside

namespace Session

variable {s s' : Session} {symbol : Symbol} {symbols symbols' more rest : List Symbol}
  {leaf : Leaf} {leaves leaves' : List Leaf} {work work' : Work} {phrase : Phrase}

theorem Takes.takesToken (takes : s.Takes (.phrase phrase) leaf more work) :
    (s.predict phrase).takesToken = true ∧ leaf = s.current.leaf := by
  cases takes with
  | take predicted => exact ⟨by rw [predicted]; rfl, rfl⟩
  | copy predicted => exact ⟨by rw [predicted]; rfl, rfl⟩

/-- The end of the input is never taken. -/
theorem Takes.kind_ne_endOfInput (takes : s.Takes symbol leaf more work) :
    s.current.kind ≠ .endOfInput := by
  cases symbol with
  | expect terminal =>
    cases takes with
    | expect met =>
      rw [met]
      cases terminal <;> simp [Terminal.kind]
  | declare role =>
    cases takes with
    | declare met => simp [met]
  | phrase phrase => exact (Outlook.takesToken_predict takes.takesToken.1).1
  | _ => cases takes

theorem Terminal.hasText (terminal : Terminal) : terminal.kind.hasText = false := by
  cases terminal <;> rfl

/-- A leaf stands for the token that it was made of. -/
theorem Takes.leaf_word (takes : s.Takes symbol leaf more work) (proper : s.current.word.Proper) :
    leaf.word = s.current.word := by
  cases takes with
  | @expect terminal met =>
    have plain : s.current.word.kind.hasText = false := by
      rw [Token.word_kind, met]
      exact Terminal.hasText terminal
    rw [proper.eq_fixed plain, Token.word_kind, met]
    rfl
  | declare met =>
    show Word.mk .identifier s.current.text = s.current.word
    rw [← met]
    rfl
  | take predicted => exact Token.leaf_word proper
  | copy predicted => exact Token.leaf_word proper

/-- The leaves of a move stand for the tokens by which it moves the window. -/
theorem Moves.place (moves : s.Moves symbol leaves more s') {lexer : Lexer} (at_ : s.At lexer) :
    ∃ tokens behind, lexer.Delivers tokens behind ∧ s'.At behind ∧
      tokens.map Token.word = leaves.map Leaf.word := by
  cases moves with
  | derive predicted => exact ⟨[], lexer, rfl, at_, rfl⟩
  | take takes advances scope =>
    obtain ⟨behind, delivers, at_'⟩ := advances.place takes.kind_ne_endOfInput lexer at_
    exact ⟨[s.current], behind, delivers, at_', by simp [takes.leaf_word at_.proper]⟩
  | perform silent stays work =>
    obtain ⟨mid, answer, answer'⟩ := at_
    refine ⟨[], lexer, rfl, ⟨mid, ?_, ?_⟩, rfl⟩
    · rw [stays.current]
      exact answer
    · rw [stays.lookahead, stays.lexer]
      exact answer'

theorem Reaches.place (reaches : Reaches s symbols leaves s' symbols') {lexer : Lexer}
    (at_ : s.At lexer) : ∃ tokens behind, lexer.Delivers tokens behind ∧ s'.At behind ∧
      tokens.map Token.word = leaves.map Leaf.word := by
  induction reaches generalizing lexer with
  | here s symbols => exact ⟨[], lexer, rfl, at_, rfl⟩
  | move moves reaches ih =>
    obtain ⟨tokens, mid, delivers, at_', same⟩ := moves.place at_
    obtain ⟨tokens', behind, delivers', at_'', same'⟩ := ih at_'
    exact ⟨tokens ++ tokens', behind, Lexer.delivers_append delivers delivers', at_'',
      by rw [List.map_append, List.map_append, same, same']⟩

/-! ## Names -/

/-- The window shows the name of something that has been declared, and a parenthesis behind it. -/
structure ShowsCall (s : Session) : Prop where
  identifier : s.current.kind = .identifier
  declared : s.scope.declares s.current.text = true
  openParen : s.lookahead.kind = .openParen

/-- A call is to come only where the window shows one. -/
inductive Ready (s : Session) : List Symbol → Prop where
  | plain {symbols : List Symbol} (plain : .phrase .call ∉ symbols) : Ready s symbols
  | call {symbols : List Symbol} (shows : s.ShowsCall) (plain : .phrase .call ∉ symbols) :
    Ready s (.phrase .call :: symbols)
  | noted {name : String} {symbols : List Symbol} (shows : s.ShowsCall)
      (plain : .phrase .call ∉ symbols) :
    Ready s (.noteVariableCall name :: .phrase .call :: symbols)

theorem Ready.behind (ready : s.Ready (symbol :: rest)) (loud : symbol.isSilent = false) :
    .phrase .call ∉ rest := by
  cases ready with
  | plain plain => exact fun member => plain (List.mem_cons_of_mem _ member)
  | call shows plain => exact plain
  | noted shows plain => cases loud

theorem ready_operand (predicted : s.toOutlook.operand = .derive symbols)
    (plain : .phrase .call ∉ rest) : s.Ready (symbols ++ rest) := by
  unfold Outlook.operand at predicted
  split at predicted
  · cases predicted
  · next is =>
    split at predicted
    · cases predicted
    · next known paren =>
      cases predicted
      exact .noted ⟨is, by simp [Scope.declares, known], paren⟩ plain
    · next known paren =>
      cases predicted
      exact .call ⟨is, by simp [Scope.declares, known], paren⟩ plain
    · cases predicted
  · cases predicted

theorem Takes.loud (takes : s.Takes symbol leaf more work) : symbol.isSilent = false := by
  cases takes <;> rfl

theorem Takes.plain (takes : s.Takes symbol leaf more work) : .phrase .call ∉ more := by
  cases takes with
  | expect met => simp
  | @declare role met => cases role <;> simp [declaration]
  | @take phrase _ predicted =>
    by_cases operand : phrase = .primary
    · subst operand
      exact absurd predicted Outlook.operand_ne_take
    · have plain := Outlook.plain_predict (o := s.toOutlook) operand
      rw [predicted] at plain
      exact plain
  | @copy phrase _ predicted =>
    by_cases operand : phrase = .primary
    · subst operand
      rw [Outlook.eq_nil_of_operand_eq_copy predicted]
      exact List.not_mem_nil
    · have plain := Outlook.plain_predict (o := s.toOutlook) operand
      rw [predicted] at plain
      exact plain

theorem not_mem_append {symbol : Symbol} (h : symbol ∉ more) (h' : symbol ∉ rest) :
    symbol ∉ more ++ rest := by
  rw [List.mem_append]
  exact not_or.2 ⟨h, h'⟩

theorem Moves.ready (moves : s.Moves symbol leaves more s') (ready : s.Ready (symbol :: rest)) :
    s'.Ready (more ++ rest) := by
  cases moves with
  | @derive phrase _ predicted =>
    have behind := ready.behind rfl
    by_cases operand : phrase = .primary
    · subst operand
      exact ready_operand predicted behind
    · have plain := Outlook.plain_predict (o := s.toOutlook) operand
      rw [predicted] at plain
      exact .plain (not_mem_append plain behind)
  | take takes advances scope =>
    exact .plain (not_mem_append takes.plain (ready.behind takes.loud))
  | perform silent stays work =>
    cases ready with
    | plain plain => exact .plain fun member => plain (List.mem_cons_of_mem _ member)
    | call shows plain => cases silent
    | noted shows plain =>
      refine .call ⟨?_, ?_, ?_⟩ plain
      · rw [stays.current]
        exact shows.identifier
      · rw [stays.scope, stays.current]
        exact shows.declared
      · rw [stays.lookahead]
        exact shows.openParen

theorem Takes.allowed (takes : s.Takes symbol leaf more work) (ready : s.Ready (symbol :: rest)) :
    leaf.Allowed s.scope := by
  cases symbol with
  | phrase phrase =>
    obtain ⟨takesToken, rfl⟩ := takes.takesToken
    unfold Token.leaf
    split
    · trivial
    · next is =>
      rcases (Outlook.takesToken_predict takesToken).2 is with rfl | declared
      · cases ready with
        | plain plain => exact absurd List.mem_cons_self plain
        | call shows plain => exact shows.declared
      · exact declared
    · trivial
    · trivial
  | expect terminal =>
    cases takes
    trivial
  | declare role =>
    cases takes
    trivial
  | _ => cases takes

/-- The names that a run reads have been declared, and its scope holds those that it has
declared. -/
theorem Reaches.resolved (reaches : Reaches s symbols leaves s' symbols')
    (ready : s.Ready symbols) :
    Resolved s.scope leaves ∧ s'.scope = s.scope.behindAll leaves ∧ s'.Ready symbols' := by
  induction reaches with
  | here s symbols => exact ⟨trivial, rfl, ready⟩
  | move moves reaches ih =>
    obtain ⟨resolved, scope, ready'⟩ := ih (moves.ready ready)
    cases moves with
    | derive predicted => exact ⟨resolved, scope, ready'⟩
    | take takes advances scope' =>
      rw [scope'] at resolved scope
      exact ⟨⟨takes.allowed ready, resolved⟩, scope, ready'⟩
    | perform silent stays work =>
      rw [stays.scope] at resolved scope
      exact ⟨resolved, scope, ready'⟩

/-! ## Trees -/

theorem Moves.target (moves : s.Moves symbol leaves more s') : s'.target = s.target := by
  cases moves with
  | derive predicted => rfl
  | take takes advances scope => exact advances.target
  | perform silent stays work => exact stays.target

theorem Reaches.target (reaches : Reaches s symbols leaves s' symbols') :
    s'.target = s.target := by
  induction reaches with
  | here s symbols => rfl
  | move moves reaches ih => exact ih.trans moves.target

/-- What the symbols cover that are left when a token is taken, the symbol covers with the leaf of
that token. -/
theorem Takes.covers {work'' : Work} (takes : s.Takes symbol leaf more work)
    (proper : s.current.word.Proper) (covers : Covers s.target more work leaves work'') :
    Covers s.target [symbol] s.work (leaf :: leaves) work'' := by
  cases takes with
  | expect met => exact ⟨leaves, rfl, covers⟩
  | declare met => exact ⟨_, leaves, rfl, covers_declaration.1 covers⟩
  | @take phrase _ predicted =>
    have builds := builds_predict proper phrase
    rw [predicted] at builds
    obtain ⟨tree, same, belongs, rfl⟩ := builds _ _ covers
    exact ⟨tree, [], by rw [same, List.append_nil], belongs, rfl, rfl⟩
  | @copy phrase _ predicted =>
    have builds := builds_predict proper phrase
    rw [predicted] at builds
    obtain ⟨tree, same, belongs, rfl⟩ := builds _ _ covers
    exact ⟨tree, [], by rw [same, List.append_nil], belongs, rfl, rfl⟩

theorem Moves.covers (moves : s.Moves symbol leaves more s') (proper : s.current.word.Proper)
    (covers : Covers s.target more s'.work leaves' work') :
    Covers s.target [symbol] s.work (leaves ++ leaves') work' := by
  cases moves with
  | @derive phrase _ predicted =>
    have builds := builds_predict proper phrase
    rw [predicted] at builds
    obtain ⟨tree, same, belongs, rfl⟩ := builds _ _ covers
    exact ⟨tree, [], by rw [List.append_nil]; exact same, belongs, rfl, rfl⟩
  | take takes advances scope => exact takes.covers proper covers
  | perform silent stays work =>
    obtain ⟨rfl, rfl⟩ := covers
    exact (covers_silent silent).2 ⟨rfl, work⟩

/-- What the symbols cover that are still to come, the symbols at the beginning cover with the
leaves that the run has taken. -/
theorem Reaches.covers (reaches : Reaches s symbols leaves s' symbols') {lexer : Lexer}
    (at_ : s.At lexer) (covers : Covers s.target symbols' s'.work leaves' work') :
    Covers s.target symbols s.work (leaves ++ leaves') work' := by
  induction reaches generalizing lexer leaves' with
  | here s symbols => exact covers
  | move moves reaches ih =>
    obtain ⟨-, behind, -, at_', -⟩ := moves.place at_
    rw [← moves.target] at covers
    have covers := ih at_' covers
    rw [moves.target] at covers
    obtain ⟨front, back, mid, same, covers, covers'⟩ := covers_append.1 covers
    rw [List.append_assoc, same, ← List.append_assoc]
    exact covers_append.2 ⟨_, back, mid, rfl, moves.covers at_.proper covers, covers'⟩

end Session

end Offside
