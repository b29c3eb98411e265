import Offside.Proofs.Session.Awaits
import Offside.Proofs.Session.Sound

/-!
# What a run refuses

Let the symbols of a run await some text. As long as the run meets no other
words than those of the text, it takes the leaves of the text one by one, and
the symbols to come await the rest of it. So a token is refused only if it is
not the next word of any text that is awaited, and a text of the language is
never refused.
-/

namespace Offside.Session

variable {s s' : Session} {symbol : Symbol} {symbols symbols' more rest : List Symbol}
  {leaf : Leaf} {leaves leaves' awaited : List Leaf} {work : Work} {phrase : Phrase}

/-! ## One move -/

theorem not_refuses_operand {operand : Tree .primary} {others : List Leaf} {fault : GrammarFault}
    (fits : s.toOutlook.Fits (operand.leaves ++ others))
    (resolved : Resolved s.scope (operand.leaves ++ others)) :
    s.toOutlook.operand ≠ .refuse fault := by
  intro refused
  have begins := operand.begins_primary.first others
  rw [← fits.kind] at begins
  unfold Outlook.operand at refused
  rcases Token.Kind.eq_of_beginsOperand begins with is | is
  · rw [is] at refused
    cases refused
  · have declared : s.scope.declares s.current.text = true := by
      cases operand with
      | number text =>
        have is' : s.current.kind = .number := fits.kind
        rw [is] at is'
        cases is'
      | read name =>
        have same : s.current.text = name := congrArg Word.text fits
        rw [same]
        exact resolved.1
      | called application =>
        cases application with
        | call name values =>
          have same : s.current.text = name := congrArg Word.text fits
          rw [same]
          exact resolved.1
    rw [is] at refused
    simp only at refused
    split at refused
    · next unknown => simp [Scope.declares, unknown] at declared
    · cases refused
    · cases refused
    · cases refused

/-- The next word of an awaited text is not refused. -/
theorem not_refuses (awaits : Awaits (symbol :: rest) s.inFunction awaited)
    (fits : s.toOutlook.Fits awaited) (resolved : Resolved s.scope awaited) :
    ¬s.Refuses symbol := by
  intro refuses
  cases refuses with
  | expect unmet =>
    obtain ⟨others, rfl, -⟩ := awaits
    exact unmet fits.kind
  | declare unmet =>
    obtain ⟨name, others, rfl, -⟩ := awaits
    exact unmet fits.kind
  | @phrase phrase fault refused =>
    obtain ⟨tree, others, rfl, belongs, ends, awaits⟩ := awaits
    by_cases two : phrase = .primary
    · subst two
      exact not_refuses_operand fits resolved refused
    · have meets := Outlook.meets_predict two fits belongs ends awaits
      rw [refused] at meets
      exact meets

/-- A token that is the next word of an awaited text is taken as its first leaf. -/
theorem Takes.awaits (takes : s.Takes symbol leaf more work)
    (awaits : Awaits (symbol :: rest) s.inFunction awaited) (fits : s.toOutlook.Fits awaited)
    (fits' : s.lookahead.kind = firstKind awaited.tail) (resolved : Resolved s.scope awaited) :
    ∃ others, awaited = leaf :: others ∧ Awaits (more ++ rest) work.inFunction others := by
  cases takes with
  | expect met => exact awaits
  | @declare role met =>
    obtain ⟨name, others, rfl, awaits⟩ := awaits
    have same : s.current.text = name := congrArg Word.text fits
    subst same
    exact ⟨others, rfl, by cases role <;> exact awaits⟩
  | @take phrase _ predicted =>
    obtain ⟨tree, others, rfl, belongs, ends, awaits⟩ := awaits
    by_cases two : phrase = .primary
    · subst two
      exact absurd predicted Outlook.operand_ne_take
    · have meets := Outlook.meets_predict two fits belongs ends awaits
      rw [predicted] at meets
      exact meets
  | @copy phrase _ predicted =>
    obtain ⟨tree, others, rfl, belongs, ends, awaits⟩ := awaits
    by_cases two : phrase = .primary
    · subst two
      have meets := Outlook.meets_operand fits fits' ends resolved awaits
      rw [show s.toOutlook.operand = _ from predicted] at meets
      exact meets
    · have meets := Outlook.meets_predict two fits belongs ends awaits
      rw [predicted] at meets
      exact meets

/-! ## Words in their order -/

/-- The first word that a run meets is the token at hand. -/
theorem Reaches.first_word (reaches : Reaches s symbols leaves s' symbols') {lexer : Lexer}
    (at_ : s.At lexer) :
    ∃ words, leaves.map Leaf.word ++ [s'.current.word] = s.current.word :: words := by
  induction reaches generalizing lexer with
  | here s symbols => exact ⟨[], rfl⟩
  | @move s mid s' symbol more rest symbols' leaves leaves' moves reaches ih =>
    obtain ⟨-, behind, -, at_', -⟩ := moves.place at_
    cases moves with
    | derive predicted => exact ih at_
    | take takes advances scope =>
      exact ⟨leaves'.map Leaf.word ++ [s'.current.word], by
        rw [← takes.leaf_word at_.proper]
        rfl⟩
    | perform silent stays work =>
      obtain ⟨words, same⟩ := ih at_'
      exact ⟨words, by rw [← stays.current]; exact same⟩

theorem ne_nil_of_call (reaches : Reaches s (.phrase .call :: rest) leaves s' symbols')
    (is : s.current.kind = .identifier) (plain : .phrase .call ∉ symbols') : leaves ≠ [] := by
  cases reaches with
  | here => exact absurd List.mem_cons_self plain
  | move moves reaches =>
    cases moves with
    | derive predicted =>
      simp only [Outlook.predict, is, if_true] at predicted
      cases predicted
    | take takes advances scope => exact List.cons_ne_nil _ _
    | perform silent stays work => cases silent

/-- Where a call is to come, its name is taken before anything is refused. -/
theorem ne_nil_of_operand (predicted : s.toOutlook.operand = .derive more)
    (reaches : Reaches s (more ++ rest) leaves s' symbols') (plain : .phrase .call ∉ symbols') :
    leaves ≠ [] := by
  unfold Outlook.operand at predicted
  split at predicted
  · cases predicted
  · next is =>
    split at predicted
    · cases predicted
    · cases predicted
      cases reaches with
      | here => exact absurd (List.mem_cons_of_mem _ List.mem_cons_self) plain
      | move moves reaches =>
        cases moves with
        | take takes advances scope => exact List.cons_ne_nil _ _
        | perform silent stays work =>
          exact ne_nil_of_call reaches (by rw [stays.current]; exact is) plain
    · cases predicted
      exact ne_nil_of_call reaches is plain
    · cases predicted
  · cases predicted

theorem fits_of_starts {words : List Word}
    (same : s.current.word :: words <+: awaited.map Leaf.word ++ [.last]) :
    s.toOutlook.Fits awaited := by
  obtain ⟨behind, same⟩ := same
  cases awaited with
  | nil => exact (List.cons.inj same).1
  | cons leaf others => exact (List.cons.inj same).1

theorem second_of_starts {word word' : Word} {words : List Word}
    (same : word :: word' :: words <+: awaited.map Leaf.word ++ [.last]) :
    word'.kind = firstKind awaited.tail := by
  obtain ⟨behind, same⟩ := same
  cases awaited with
  | nil => cases (List.cons.inj same).2
  | cons leaf others =>
    have same := (List.cons.inj same).2
    cases others with
    | nil => rw [show word' = _ from (List.cons.inj same).1]; rfl
    | cons leaf' others => rw [show word' = _ from (List.cons.inj same).1]; rfl

/-- If a run takes the token at hand, the next word that it meets is the one behind it. -/
theorem Reaches.second_word (reaches : Reaches s symbols leaves s' symbols') {lexer : Lexer}
    (at_ : s.At lexer) (taken : leaves ≠ []) : ∃ words,
      leaves.map Leaf.word ++ [s'.current.word] = s.current.word :: s.lookahead.word :: words := by
  induction reaches generalizing lexer with
  | here s symbols => exact absurd rfl taken
  | @move s mid s' symbol more rest symbols' leaves leaves' moves reaches ih =>
    obtain ⟨-, behind, -, at_', -⟩ := moves.place at_
    cases moves with
    | derive predicted => exact ih at_ taken
    | take takes advances scope =>
      obtain ⟨words, same⟩ := reaches.first_word at_'
      refine ⟨words, ?_⟩
      rw [← advances.current, ← same, ← takes.leaf_word at_.proper]
      rfl
    | perform silent stays work =>
      obtain ⟨words, same⟩ := ih at_' taken
      exact ⟨words, by rw [← stays.current, ← stays.lookahead]; exact same⟩

/-- As long as a run meets the words of an awaited text, it takes its leaves, and the symbols to
come await the rest. -/
theorem Reaches.awaits (reaches : Reaches s symbols leaves s' symbols') {lexer : Lexer}
    (at_ : s.At lexer) (plain : .phrase .call ∉ symbols')
    (awaits : Awaits symbols s.inFunction awaited) (resolved : Resolved s.scope awaited)
    (same : leaves.map Leaf.word ++ [s'.current.word] <+: awaited.map Leaf.word ++ [.last]) :
    ∃ others, awaited = leaves ++ others ∧ Awaits symbols' s'.inFunction others ∧
      Resolved s'.scope others := by
  induction reaches generalizing awaited lexer with
  | here s symbols => exact ⟨awaited, rfl, awaits, resolved⟩
  | @move s mid s' symbol more rest symbols' leaves leaves' moves reaches ih =>
    have whole := Reaches.move moves reaches
    obtain ⟨words, first⟩ := whole.first_word at_
    have fits : s.toOutlook.Fits awaited := fits_of_starts (by rw [← first]; exact same)
    have fits' (taken : leaves ++ leaves' ≠ []) : s.lookahead.kind = firstKind awaited.tail := by
      obtain ⟨words', second⟩ := whole.second_word at_ taken
      rw [second] at same
      exact second_of_starts same
    obtain ⟨-, behind, -, at_', -⟩ := moves.place at_
    cases moves with
    | @derive phrase _ predicted =>
      obtain ⟨tree, others, rfl, belongs, ends, awaits⟩ := awaits
      by_cases two : phrase = .primary
      · subst two
        -- What is derived from an operand is a call, whose name the run takes.
        have taken := ne_nil_of_operand predicted reaches plain
        have meets := Outlook.meets_operand fits (fits' taken) ends resolved awaits
        rw [show s.toOutlook.operand = _ from predicted] at meets
        exact ih at_' plain meets resolved same
      · have meets := Outlook.meets_predict two fits belongs ends awaits
        rw [predicted] at meets
        exact ih at_' plain meets resolved same
    | @take _ leaf _ _ takes advances scope =>
      obtain ⟨others, rfl, awaits'⟩ :=
        takes.awaits awaits fits (fits' (List.cons_ne_nil _ _)) resolved
      obtain ⟨further, rfl, awaits', resolved'⟩ := ih at_' plain awaits'
        (by rw [scope]; exact resolved.2) (List.cons_prefix_cons.1 same).2
      exact ⟨further, rfl, awaits', resolved'⟩
    | perform silent stays work =>
      have awaits := awaits_silent s.target s.work silent awaits
      rw [← work] at awaits
      exact ih at_' plain awaits (by rw [stays.scope]; exact resolved) same

/-- A call that is to come is not refused, so no call is to come where something is refused. -/
theorem Refuses.plain (refuses : s.Refuses symbol)
    (ready : s.Ready (symbol :: symbols)) : .phrase .call ∉ symbol :: symbols := by
  cases ready with
  | plain plain => exact plain
  | call shows plain =>
    cases refuses with
    | phrase refused =>
      simp only [Outlook.predict, shows.identifier, if_true] at refused
      cases refused
  | noted shows plain => cases refuses

/-- A run that refuses a token has met words that no awaited text begins with. -/
theorem Reaches.not_awaited (reaches : Reaches s symbols leaves s' (symbol :: rest))
    (refuses : s'.Refuses symbol) {lexer : Lexer} (at_ : s.At lexer) (ready : s.Ready symbols)
    (awaits : Awaits symbols s.inFunction awaited) (resolved : Resolved s.scope awaited) :
    ¬leaves.map Leaf.word ++ [s'.current.word] <+: awaited.map Leaf.word ++ [.last] := by
  intro same
  obtain ⟨-, -, ready'⟩ := reaches.resolved ready
  obtain ⟨-, behind, -, at_', -⟩ := reaches.place at_
  obtain ⟨others, rfl, awaits, resolved⟩ :=
    reaches.awaits at_ (refuses.plain ready') awaits resolved same
  rw [List.map_append, List.append_assoc, List.prefix_append_right_inj] at same
  exact not_refuses awaits (fits_of_starts same) resolved refuses

end Offside.Session
