import Mathlib.Data.List.Induction
import Mathlib.Data.Prod.Lex
import Mathlib.Order.Bounds.Defs
import Mathlib.Order.Interval.Set.Defs
import Offside.Proofs.Lexing.Progress
import Offside.Source.Position

/-!
# Positions are coordinates

The position of a place between two characters is known from the characters
before it. They are whole lines and the front of one more: as many line ends as
the whole lines have is the line, and as many characters as the front has is the
column, both counted from one. So a position is as good as a byte offset. Later
places have later positions, and to find the place of a position again, one goes
behind so many line ends and then so many characters further.

An offset that is not between two characters has no position of its own. Inside
a character it has that of the place behind the character, and past the end that
of the end.
-/

namespace Offside

/-- The byte offsets between the characters of a source, with its two ends. -/
def boundaries (source : String) : Set Nat := {offset | String.Pos.Raw.IsValid source ⟨offset⟩}

theorem mem_boundaries_iff {source : String} {offset : Nat} : offset ∈ boundaries source ↔
    ∃ before after, source.toList = before ++ after ∧ offset = byteLength before := by
  constructor
  · intro valid
    obtain ⟨before, after, rfl, place⟩ := String.Pos.Raw.isValid_iff_exists_append.1 valid
    refine ⟨before.toList, after.toList, String.toList_append, ?_⟩
    rw [byteLength_toList]
    exact congrArg String.Pos.Raw.byteIdx place
  · rintro ⟨before, after, whole, rfl⟩
    exact isValid_of_append whole

/-- A text that ends with a line end, or is empty. -/
def IsClosed (text : List Char) : Prop := text = [] ∨ ∃ lines, text = lines ++ ['\n']

/-- Every text is whole lines with the front of one more behind them. -/
theorem exists_lines (text : List Char) :
    ∃ lines front, text = lines ++ front ∧ IsClosed lines ∧ '\n' ∉ front := by
  induction text using List.reverseRecOn with
  | nil => exact ⟨[], [], rfl, .inl rfl, List.not_mem_nil⟩
  | append_singleton text c ih =>
    by_cases newline : c = '\n'
    · subst newline
      exact ⟨text ++ ['\n'], [], (List.append_nil _).symm, .inr ⟨text, rfl⟩, List.not_mem_nil⟩
    · obtain ⟨lines, front, rfl, closed, unbroken⟩ := ih
      refine ⟨lines, front ++ [c], List.append_assoc _ _ _, closed, ?_⟩
      simp [unbroken, Ne.symm newline]

/-- Behind its first character a closed text is still closed, and there is a line end in it. -/
theorem IsClosed.cons {c : Char} {text : List Char} (closed : IsClosed (c :: text)) :
    IsClosed text ∧ 0 < (c :: text).count '\n' := by
  obtain none | ⟨lines, whole⟩ := closed
  · cases none
  · refine ⟨?_, by simp [whole]⟩
    cases lines with
    | nil => exact .inl (List.cons.inj whole).2
    | cons d lines => exact .inr ⟨lines, (List.cons.inj whole).2⟩

/-! ## The position behind a text -/

namespace Position

variable {source : String} {p : Position} {text before after : List Char}

/-- The position behind a text that begins at `p`. -/
def behind (p : Position) (text : List Char) : Position := text.foldl Position.after p

@[simp] theorem behind_nil (p : Position) : p.behind [] = p := rfl

@[simp] theorem behind_cons (p : Position) (c : Char) (text : List Char) :
    p.behind (c :: text) = (p.after c).behind text := rfl

@[simp] theorem behind_append (p : Position) (text more : List Char) :
    p.behind (text ++ more) = (p.behind text).behind more := List.foldl_append

@[simp] theorem after_newline (p : Position) : p.after '\n' = ⟨p.line + 1, 1⟩ := rfl

theorem after_of_ne {c : Char} (other : c ≠ '\n') (p : Position) :
    p.after c = ⟨p.line, p.column + 1⟩ := if_neg other

theorem line_behind (p : Position) (text : List Char) :
    (p.behind text).line = p.line + text.count '\n' := by
  induction text generalizing p with
  | nil => rfl
  | cons c text ih =>
    rw [behind_cons, ih]
    by_cases newline : c = '\n'
    · subst newline
      simp only [after_newline, List.count_cons_self]
      omega
    · rw [after_of_ne newline, List.count_cons_of_ne newline]

theorem behind_of_not_mem (p : Position) (unbroken : '\n' ∉ text) :
    p.behind text = ⟨p.line, p.column + text.length⟩ := by
  induction text generalizing p with
  | nil => rfl
  | cons c text ih =>
    obtain ⟨other, unbroken⟩ := List.ne_and_not_mem_of_not_mem_cons unbroken
    rw [behind_cons, after_of_ne (Ne.symm other), ih _ unbroken, List.length_cons]
    simp only [Nat.add_assoc, Nat.add_comm 1]

/-- Behind whole lines the column is the first one. -/
theorem behind_of_isClosed (closed : IsClosed text) :
    first.behind text = ⟨text.count '\n' + 1, 1⟩ := by
  obtain rfl | ⟨lines, rfl⟩ := closed
  · rfl
  · rw [behind_append, behind_cons, behind_nil, after_newline, line_behind, List.count_append]
    simp [first, Nat.add_comm]

/-- The line is the number of lines before, and the column the length of the front of the line. -/
theorem behind_lines {lines front : List Char} (closed : IsClosed lines)
    (unbroken : '\n' ∉ front) :
    first.behind (lines ++ front) = ⟨lines.count '\n' + 1, front.length + 1⟩ := by
  rw [behind_append, behind_of_isClosed closed, behind_of_not_mem _ unbroken, Nat.add_comm 1]

/-! ## The position of an offset -/

theorem walk_cons {bytes : Nat} (more : 0 < bytes) (p : Position) (c : Char) (text : List Char) :
    p.walk bytes (c :: text) = (p.after c).walk (bytes - c.utf8Size) text := by
  cases bytes with
  | zero => exact absurd more (Nat.lt_irrefl 0)
  | succ bytes => rfl

theorem walk_nil (p : Position) (bytes : Nat) : p.walk bytes [] = p := by
  cases bytes <;> rfl

/-- As many bytes as a text has take the walk behind it. -/
theorem walk_byteLength (p : Position) (before after : List Char) :
    p.walk (byteLength before) (before ++ after) = p.behind before := by
  induction before generalizing p with
  | nil => rw [byteLength_nil, walk, behind_nil]
  | cons c before ih =>
    have size := c.utf8Size_pos
    rw [byteLength_cons, List.cons_append, walk_cons (by omega), Nat.add_sub_cancel_left, ih,
      behind_cons]

theorem walk_of_le (p : Position) {bytes : Nat} (past : byteLength text ≤ bytes) :
    p.walk bytes text = p.behind text := by
  induction text generalizing p bytes with
  | nil => exact walk_nil p bytes
  | cons c text ih =>
    have size := c.utf8Size_pos
    rw [byteLength_cons] at past
    rw [walk_cons (by omega), ih _ (by omega), behind_cons]

/-- Wherever a walk ends within a text, it is at the first place that so many bytes reach to. -/
theorem exists_walk_eq (p : Position) {bytes : Nat} (inside : bytes ≤ byteLength text) :
    ∃ before after, text = before ++ after ∧ bytes ≤ byteLength before ∧
      p.walk bytes text = p.behind before ∧
      ∀ before' after', text = before' ++ after' → bytes ≤ byteLength before' →
        byteLength before ≤ byteLength before' := by
  induction text generalizing p bytes with
  | nil => exact ⟨[], [], rfl, inside, walk_nil p bytes, fun _ _ _ _ => Nat.zero_le _⟩
  | cons c text ih =>
    by_cases none : bytes = 0
    · subst none
      exact ⟨[], c :: text, rfl, Nat.le_refl 0, by rw [walk, behind_nil],
        fun _ _ _ _ => Nat.zero_le _⟩
    · rw [byteLength_cons] at inside
      obtain ⟨before, after, rfl, reached, walked, least⟩ :=
        ih (p.after c) (show bytes - c.utf8Size ≤ byteLength text by omega)
      refine ⟨c :: before, after, rfl, by rw [byteLength_cons]; omega, ?_, ?_⟩
      · rw [walk_cons (Nat.pos_of_ne_zero none), walked, behind_cons]
      · intro before' after' whole reached'
        cases before' with
        | nil => exact absurd (Nat.le_zero.1 reached') none
        | cons d before' =>
          obtain ⟨rfl, others⟩ := List.cons.inj whole
          rw [byteLength_cons] at reached'
          have le := least before' after' others (by omega)
          rw [byteLength_cons, byteLength_cons]
          omega

theorem ofOffset_byteLength (whole : source.toList = before ++ after) :
    ofOffset source (byteLength before) = first.behind before := by
  rw [ofOffset, whole, walk_byteLength]

/-! ## The order of positions -/

/-- Positions are compared by the line, and in the same line by the column. -/
def key (p : Position) : Nat ×ₗ Nat := toLex (p.line, p.column)

theorem key_lt_after (p : Position) (c : Char) : p.key < (p.after c).key := by
  rw [key, key, Prod.Lex.toLex_lt_toLex]
  by_cases newline : c = '\n'
  · subst newline
    exact .inl (Nat.lt_succ_self _)
  · rw [after_of_ne newline]
    exact .inr ⟨rfl, Nat.lt_succ_self _⟩

theorem key_le_behind (p : Position) (text : List Char) : p.key ≤ (p.behind text).key := by
  induction text generalizing p with
  | nil => exact le_refl _
  | cons c text ih => exact (key_lt_after p c).le.trans (ih _)

theorem key_lt_behind (p : Position) (nonempty : text ≠ []) : p.key < (p.behind text).key := by
  obtain ⟨c, text, rfl⟩ := List.exists_cons_of_ne_nil nonempty
  exact (key_lt_after p c).trans_le (key_le_behind _ text)

/-- Later places have later positions. -/
theorem key_strictMonoOn (source : String) :
    StrictMonoOn (fun offset => (ofOffset source offset).key) (boundaries source) := by
  intro offset valid offset' valid' lt
  obtain ⟨before, after, whole, rfl⟩ := mem_boundaries_iff.1 valid
  obtain ⟨before', after', whole', rfl⟩ := mem_boundaries_iff.1 valid'
  dsimp only
  rw [ofOffset_byteLength whole, ofOffset_byteLength whole']
  obtain ⟨between, rfl, -⟩ | ⟨between, rfl, -⟩ :=
    List.append_eq_append_iff.1 (whole.symm.trans whole')
  · rw [behind_append]
    refine key_lt_behind _ fun none => ?_
    rw [none, List.append_nil] at lt
    exact Nat.lt_irrefl _ lt
  · rw [byteLength_append] at lt
    omega

/-! ## The way back -/

/-- The bytes from the front of a text to the place behind `lines` line ends and `columns` more
characters, if there are so many. -/
def bytesTo? : (lines columns : Nat) → List Char → Option Nat
  | 0, 0, _ => some 0
  | 0, columns + 1, c :: text => (bytesTo? 0 columns text).map (c.utf8Size + ·)
  | lines + 1, columns, c :: text =>
    (bytesTo? (if c = '\n' then lines else lines + 1) columns text).map (c.utf8Size + ·)
  | _, _, [] => none

/-- The place of a position in a source: behind all lines before it, and then behind all characters
before it in its own line. -/
def offset? (p : Position) (source : String) : Option Nat :=
  bytesTo? (p.line - 1) (p.column - 1) source.toList

theorem bytesTo?_front (front rest : List Char) :
    bytesTo? 0 front.length (front ++ rest) = some (byteLength front) := by
  induction front with
  | nil => cases rest <;> rfl
  | cons c front ih =>
    rw [List.length_cons, List.cons_append, bytesTo?, ih]
    rfl

theorem bytesTo?_lines {lines : List Char} (closed : IsClosed lines) (columns : Nat)
    (rest : List Char) : bytesTo? (lines.count '\n') columns (lines ++ rest) =
      (bytesTo? 0 columns rest).map (byteLength lines + ·) := by
  induction lines with
  | nil => simp
  | cons c lines ih =>
    obtain ⟨others, some⟩ := closed.cons
    obtain ⟨count, more⟩ := Nat.exists_eq_add_of_lt some
    have rest' : (if c = '\n' then count else count + 1) = lines.count '\n' := by
      by_cases newline : c = '\n'
      · rw [if_pos newline]
        rw [newline, List.count_cons_self] at more
        omega
      · rw [if_neg newline]
        rw [List.count_cons_of_ne newline] at more
        omega
    rw [more, Nat.zero_add, List.cons_append, bytesTo?, rest', ih others, Option.map_map,
      byteLength_cons]
    simp only [Function.comp_def, Nat.add_assoc]

/-- From the position of a place one comes back to the place. -/
theorem offset?_ofOffset {offset : Nat} (valid : offset ∈ boundaries source) :
    (ofOffset source offset).offset? source = some offset := by
  obtain ⟨before, after, whole, rfl⟩ := mem_boundaries_iff.1 valid
  obtain ⟨lines, front, rfl, closed, unbroken⟩ := exists_lines before
  rw [ofOffset_byteLength whole, behind_lines closed unbroken, offset?, whole, List.append_assoc,
    Nat.add_sub_cancel, Nat.add_sub_cancel, bytesTo?_lines closed, bytesTo?_front,
    byteLength_append]
  rfl

end Position

open Position

/-- Positions are to the places of a source what offsets are. They are in the same order, so no two
places share one, and a place is found again by going behind the lines before its position and then
behind so many characters. An offset that is no place has the position of the next place, and one
past the end that of the end. -/
theorem positions_ordered (source : String) :
    StrictMonoOn (fun offset => (ofOffset source offset).key) (boundaries source) ∧
    Set.InjOn (ofOffset source) (boundaries source) ∧
    (∀ offset ≤ source.utf8ByteSize, ∃ next,
      IsLeast (boundaries source ∩ Set.Ici offset) next ∧
        ofOffset source offset = ofOffset source next) ∧
    (∀ offset, source.utf8ByteSize ≤ offset →
      ofOffset source offset = ofOffset source source.utf8ByteSize) ∧
    ∀ offset ∈ boundaries source, (ofOffset source offset).offset? source = some offset := by
  refine ⟨key_strictMonoOn source, fun offset valid offset' valid' same => ?_,
    fun offset inside => ?_, fun offset past => ?_, fun offset => offset?_ofOffset⟩
  · have back := offset?_ofOffset valid
    rw [same, offset?_ofOffset valid'] at back
    exact (Option.some.inj back).symm
  · rw [← byteLength_toList] at inside
    obtain ⟨before, after, whole, reached, walked, least⟩ := exists_walk_eq first inside
    refine ⟨byteLength before, ⟨⟨mem_boundaries_iff.2 ⟨before, after, whole, rfl⟩, reached⟩, ?_⟩,
      walked.trans (ofOffset_byteLength whole).symm⟩
    rintro other ⟨valid, reached'⟩
    obtain ⟨before', after', whole', rfl⟩ := mem_boundaries_iff.1 valid
    exact least before' after' whole' reached'
  · rw [← byteLength_toList] at past ⊢
    rw [ofOffset, ofOffset, walk_of_le _ past, walk_of_le _ (Nat.le_refl _)]

/-- The second byte of the first letter has the position of the place behind the letter, and an
offset far past the end that of the end. The last letter is found again as the first of the second
line. -/
theorem positions_ordered_inside :
    (∃ next, IsLeast (boundaries "é\nb" ∩ Set.Ici 1) next ∧
      ofOffset "é\nb" 1 = ofOffset "é\nb" next) ∧
    ofOffset "é\nb" 9 = ofOffset "é\nb" 4 ∧
    3 ∈ boundaries "é\nb" ∧ (ofOffset "é\nb" 3).offset? "é\nb" = some 3 := by
  have place : 3 ∈ boundaries "é\nb" := mem_boundaries_iff.2 ⟨['é', '\n'], ['b'], by decide⟩
  obtain ⟨-, -, inside, past, back⟩ := positions_ordered "é\nb"
  exact ⟨inside 1 (by decide), past 9 (by decide), place, back 3 place⟩

end Offside
