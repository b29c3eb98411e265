import Mathlib
import Offside.Proofs.Diagnostic.Shown

/-!
# Two places for one error

A diagnostic names the place of an error twice, above the frame and in the note,
and each has a count of its own. The note walks over the bytes of the source and
starts a new line behind every `\n`. The header looks for the last displayed
line that begins at or before the character.

In a source of one-byte characters without other line ends, the two can differ
only about the end. Behind a last `\n` the walk is in a line that has nothing in
it, and among the displayed lines there is none there. Everywhere else they
agree: the argument is one induction over the lines, in which both counts pass
over the same line or end in it.
-/

namespace Offside

/-- One-byte characters, of which only `\n` ends a displayed line. -/
structure Unixlike (text : List Char) : Prop where
  oneByte : ∀ c ∈ text, c.utf8Size = 1
  lineEnd : ∀ c ∈ text, isLineEnd c = true → c = '\n'

/-- A text as its lines, each but the last with a `\n` behind it. -/
inductive Lined : List Char → Prop where
  | last {body : List Char} (unbroken : '\n' ∉ body) : Lined body
  | line {body rest : List Char} (unbroken : '\n' ∉ body) (others : Lined rest) :
    Lined (body ++ '\n' :: rest)

theorem lined (text : List Char) : Lined text := by
  induction text with
  | nil => exact .last List.not_mem_nil
  | cons c text ih =>
    by_cases newline : c = '\n'
    · subst newline
      exact .line List.not_mem_nil ih
    · have unbroken {body : List Char} (others : '\n' ∉ body) : '\n' ∉ c :: body :=
        List.not_mem_cons_of_ne_of_not_mem (Ne.symm newline) others
      cases ih with
      | last others => exact .last (unbroken others)
      | line others rest => exact .line (unbroken others) rest

namespace Unixlike

variable {text front back : List Char}

theorem left (plain : Unixlike (front ++ back)) : Unixlike front where
  oneByte c member := plain.oneByte c (List.mem_append_left back member)
  lineEnd c member := plain.lineEnd c (List.mem_append_left back member)

theorem right (plain : Unixlike (front ++ back)) : Unixlike back where
  oneByte c member := plain.oneByte c (List.mem_append_right front member)
  lineEnd c member := plain.lineEnd c (List.mem_append_right front member)

theorem tail {c : Char} (plain : Unixlike (c :: text)) : Unixlike text := @right [c] text plain

/-- Of the characters that end a displayed line, only four are ASCII. -/
theorem of_ascii (ascii : ∀ c ∈ text, c.toNat < 128)
    (unix : ∀ c ∈ text, c ≠ '\r' ∧ c ≠ '\x0b' ∧ c ≠ '\x0c') : Unixlike text where
  oneByte c member := Char.utf8Size_eq_one_iff.2 (Nat.le_of_lt_succ (ascii c member))
  lineEnd c member ends := by
    have small := ascii c member
    obtain ⟨carriage, vertical, feed⟩ := unix c member
    simp only [isLineEnd, Bool.or_eq_true, beq_iff_eq] at ends
    rcases ends with (((((newline | same) | same) | same) | rfl) | rfl) | rfl
    · exact newline
    · exact absurd same carriage
    · exact absurd same vertical
    · exact absurd same feed
    all_goals exact absurd small (by decide)

theorem byteLength_eq (plain : Unixlike text) : byteLength text = text.length := by
  induction text with
  | nil => rfl
  | cons c text ih =>
    have others : Unixlike text := plain.tail
    rw [byteLength_cons, plain.oneByte c List.mem_cons_self, ih others, List.length_cons,
      Nat.add_comm]

theorem isLineEnd_eq_false (plain : Unixlike text) (unbroken : '\n' ∉ text) :
    ∀ c ∈ text, isLineEnd c = false := by
  intro c member
  refine Bool.eq_false_iff.2 fun ends => unbroken ?_
  rwa [← plain.lineEnd c member ends]

end Unixlike

/-! ## The displayed lines -/

section Lines

variable {body : List Char}

theorem linesOf_cons {c : Char} (inside : isLineEnd c = false) (text : List Char) :
    linesOf (c :: text) = match linesOf text with
      | [] => [[c]]
      | line :: more => (c :: line) :: more := by
  rw [linesOf.eq_def (c :: text)]
  split
  · next nothing => cases nothing
  · next both =>
    cases both
    cases inside
  · next same =>
    cases same
    exact if_neg (Bool.eq_false_iff.1 inside)

theorem linesOf_line (inside : ∀ c ∈ body, isLineEnd c = false) (rest : List Char) :
    linesOf (body ++ '\n' :: rest) = (body ++ ['\n']) :: linesOf rest := by
  induction body with
  | nil => simp [linesOf, isLineEnd]
  | cons c body ih =>
    rw [List.cons_append, linesOf_cons (inside c List.mem_cons_self),
      ih fun d member => inside d (List.mem_cons_of_mem c member)]
    rfl

theorem linesOf_last (inside : ∀ c ∈ body, isLineEnd c = false) (nonempty : body ≠ []) :
    linesOf body = [body] := by
  induction body with
  | nil => exact absurd rfl nonempty
  | cons c body ih =>
    rw [linesOf_cons (inside c List.mem_cons_self)]
    by_cases last : body = []
    · rw [last]
      rfl
    · rw [ih (fun d member => inside d (List.mem_cons_of_mem c member)) last]

theorem linesOf_ne_nil {text : List Char} (nonempty : text ≠ []) : linesOf text ≠ [] := by
  intro none
  have whole := flatten_linesOf text
  rw [none] at whole
  exact nonempty whole.symm

end Lines

namespace Line

variable {body : List Char}

theorem find_last (inside : ∀ c ∈ body, isLineEnd c = false) (number start offset : Nat) :
    find number start offset (linesOf body) = ⟨number, start, body⟩ := by
  by_cases nonempty : body = []
  · rw [nonempty]
    rfl
  · rw [linesOf_last inside nonempty]
    rfl

/-- A line that holds the offset, or has no other one behind it, is what is found. -/
theorem find_line (inside : ∀ c ∈ body, isLineEnd c = false) {rest : List Char}
    {number start offset : Nat} (here : rest = [] ∨ offset < start + body.length + 1) :
    find number start offset (linesOf (body ++ '\n' :: rest)) =
      ⟨number, start, body ++ ['\n']⟩ := by
  rw [linesOf_line inside]
  rcases lines : linesOf rest with _ | ⟨next, more⟩
  · rfl
  · rcases here with rfl | before
    · cases lines
    · rw [find, List.length_append, List.length_singleton, if_neg (by omega)]

/-- A line that ends before the offset is passed over if there is another one. -/
theorem find_next (inside : ∀ c ∈ body, isLineEnd c = false) {rest : List Char} (more : rest ≠ [])
    {number start offset : Nat} (passed : start + body.length + 1 ≤ offset) :
    find number start offset (linesOf (body ++ '\n' :: rest)) =
      find (number + 1) (start + body.length + 1) offset (linesOf rest) := by
  rw [linesOf_line inside]
  obtain ⟨next, lines, same⟩ := List.exists_cons_of_ne_nil (linesOf_ne_nil more)
  rw [same, find, List.length_append, List.length_singleton, if_pos (by omega), Nat.add_assoc]

end Line

/-! ## The walk -/

namespace Position

variable {body : List Char}

/-- Within a line the walk counts columns. -/
theorem walk_within (plain : Unixlike body) (unbroken : '\n' ∉ body) {offset : Nat}
    (le : offset ≤ body.length) (line column : Nat) (rest : List Char) :
    walk ⟨line, column⟩ offset (body ++ rest) = ⟨line, column + offset⟩ := by
  induction body generalizing offset column with
  | nil =>
    obtain rfl := Nat.le_zero.1 le
    rw [walk, Nat.add_zero]
  | cons c body ih =>
    cases offset with
    | zero => rw [walk, Nat.add_zero]
    | succ offset =>
      obtain ⟨other, unbroken⟩ := List.ne_and_not_mem_of_not_mem_cons unbroken
      have others : Unixlike body := plain.tail
      have step : after ⟨line, column⟩ c = ⟨line, column + 1⟩ := if_neg (Ne.symm other)
      rw [List.cons_append, walk, plain.oneByte c List.mem_cons_self, Nat.add_sub_cancel, step,
        ih others unbroken (Nat.le_of_succ_le_succ le), Nat.add_right_comm, Nat.add_assoc]

/-- Behind the `\n` of a line the walk goes on at the front of the next one. -/
theorem walk_line (plain : Unixlike body) (unbroken : '\n' ∉ body) (line column offset : Nat)
    (rest : List Char) : walk ⟨line, column⟩ (body.length + 1 + offset) (body ++ '\n' :: rest) =
      walk ⟨line + 1, 1⟩ offset rest := by
  induction body generalizing column with
  | nil =>
    rw [List.length_nil, Nat.zero_add, Nat.add_comm, List.nil_append, walk]
    rfl
  | cons c body ih =>
    obtain ⟨other, unbroken⟩ := List.ne_and_not_mem_of_not_mem_cons unbroken
    have others : Unixlike body := plain.tail
    have step : after ⟨line, column⟩ c = ⟨line, column + 1⟩ := if_neg (Ne.symm other)
    rw [List.length_cons, Nat.add_right_comm, List.cons_append, walk,
      plain.oneByte c List.mem_cons_self, Nat.add_sub_cancel, step, ih others unbroken]

end Position

/-! ## Both counts -/

section Counts

open Line Position

variable {text : List Char}

/-- Before a last `\n`, and at the end of a text without one, both counts come to the same place. -/
theorem walk_eq_position (lines : Lined text) (plain : Unixlike text) {offset : Nat}
    (le : offset ≤ text.length) (before : ¬(text.getLast? = some '\n' ∧ offset = text.length))
    (number start : Nat) : walk ⟨number, 1⟩ offset text =
      (find number start (start + offset) (linesOf text)).position (start + offset) := by
  induction lines generalizing offset number start with
  | @last body unbroken =>
    have walked := walk_within plain unbroken le number 1 []
    rw [List.append_nil] at walked
    rw [find_last (plain.isLineEnd_eq_false unbroken), walked, Line.position, Nat.add_sub_cancel_left,
      Nat.add_comm]
  | @line body rest unbroken others ih =>
    have inside := plain.left.isLineEnd_eq_false unbroken
    by_cases passed : body.length + 1 ≤ offset
    · obtain ⟨offset, rfl⟩ := Nat.exists_eq_add_of_le passed
      have more : rest ≠ [] := by
        rintro rfl
        refine before ⟨List.getLast?_concat, ?_⟩
        rw [List.length_append, List.length_singleton] at le ⊢
        omega
      have plain' : Unixlike rest := plain.right.tail
      have le' : offset ≤ rest.length := by
        rw [List.length_append, List.length_cons] at le
        omega
      rw [walk_line plain.left unbroken, find_next inside more (by omega),
        ih plain' le' (fun ended => before ⟨?_, ?_⟩) (number + 1) (start + body.length + 1),
        show start + (body.length + 1 + offset) = start + body.length + 1 + offset by omega]
      · rw [List.getLast?_append_cons, List.getLast?_cons_of_ne_nil more]
        exact ended.1
      · rw [List.length_append, List.length_cons, ended.2]
        omega
    · rw [walk_within plain.left unbroken (by omega), find_line inside (.inr (by omega)),
        Line.position, Nat.add_sub_cancel_left, Nat.add_comm]

/-- At the end of a text that ends with `\n`, the walk is in a line of its own, and the line that is
found is the one before. -/
theorem exists_last_line (lines : Lined text) (plain : Unixlike text)
    (closed : text.getLast? = some '\n') (number start : Nat) : ∃ front line,
      text = front ++ line ++ ['\n'] ∧ '\n' ∉ line ∧
      (front = [] ∨ front.getLast? = some '\n') ∧
      find number start (start + text.length) (linesOf text) =
        ⟨number + front.count '\n', start + front.length, line ++ ['\n']⟩ ∧
      walk ⟨number, 1⟩ text.length text = ⟨number + front.count '\n' + 1, 1⟩ := by
  induction lines generalizing number start with
  | last unbroken => exact absurd (List.mem_of_getLast? closed) unbroken
  | @line body rest unbroken others ih =>
    have inside := plain.left.isLineEnd_eq_false unbroken
    by_cases last : rest = []
    · subst last
      refine ⟨[], body, rfl, unbroken, .inl rfl, find_line inside (.inl rfl), ?_⟩
      have walked := walk_line plain.left unbroken number 1 0 []
      rw [List.length_append]
      exact walked
    · have plain' : Unixlike rest := plain.right.tail
      rw [List.getLast?_append_cons, List.getLast?_cons_of_ne_nil last] at closed
      obtain ⟨front, line, same, unbroken', ends, found, walked⟩ :=
        ih plain' closed (number + 1) (start + body.length + 1)
      have length (others : List Char) :
          (body ++ '\n' :: others).length = body.length + 1 + others.length := by
        rw [List.length_append, List.length_cons]
        omega
      have count : (body ++ '\n' :: front).count '\n' = front.count '\n' + 1 := by
        rw [List.count_append, List.count_eq_zero.2 unbroken, List.count_cons_self, Nat.zero_add]
      have number' : number + (front.count '\n' + 1) = number + 1 + front.count '\n' := by omega
      refine ⟨body ++ '\n' :: front, line, by simp [same], unbroken', .inr ?_, ?_, ?_⟩
      · rw [List.getLast?_append_cons, List.getLast?_cons]
        rcases ends with rfl | ends
        · rfl
        · rw [ends]
          rfl
      · rw [find_next inside last (by rw [length]; omega), length rest, length front, count, number']
        simp only [← Nat.add_assoc] at found ⊢
        exact found
      · rw [length, walk_line plain.left unbroken, walked, count, number']

end Counts

/-! ## Both places -/

theorem Position.shown_injective {p q : Position} (same : p.shown = q.shown) : p = q := by
  have digits (n : Nat) : ∀ c ∈ (toString n).toList, c.isDigit = true := fun c member =>
    Nat.isDigit_of_mem_toDigits (by decide) (by decide) (Nat.toList_repr ▸ member)
  have inverse (n : Nat) : Nat.ofDigitChars 10 (toString n).toList 0 = n :=
    Nat.toList_repr ▸ Nat.ofDigitChars_toDigits (by decide) (by decide)
  have split (p : Position) :
      p.shown.toList = (toString p.line).toList ++ ':' :: (toString p.column).toList := by
    simp [shown, show (toString ":").toList = [':'] from rfl]
  have stops (text : List Char) : StopsAt Char.isDigit (':' :: text) := by
    rintro c first
    obtain rfl := Option.some.inj first
    decide
  have whole := congrArg String.toList same
  rw [split, split] at whole
  obtain ⟨line, column⟩ := run_unique (digits _) (stops _) (digits _) (stops _) whole
  obtain ⟨l, c⟩ := p
  obtain ⟨l', c'⟩ := q
  obtain rfl : l = l' := by rw [← inverse l, line, inverse l']
  obtain rfl : c = c' := by rw [← inverse c, (List.cons.inj column).2, inverse c']
  rfl

/-- The two places of the end of a source that ends with `\n`. -/
theorem places_at_end {source : String} (plain : Unixlike source.toList)
    (closed : source.toList.getLast? = some '\n') : ∃ front line,
      source.toList = front ++ line ++ ['\n'] ∧ '\n' ∉ line ∧
      (front = [] ∨ front.getLast? = some '\n') ∧
      Position.ofOffset source source.toList.length = ⟨source.toList.count '\n' + 1, 1⟩ ∧
      (Line.holding source.toList.length source.toList).position source.toList.length =
        ⟨source.toList.count '\n', (line ++ ['\n']).length + 1⟩ := by
  obtain ⟨front, line, same, unbroken, ends, found, walked⟩ :=
    exists_last_line (lined _) plain closed 1 0
  have count : source.toList.count '\n' = 1 + front.count '\n' := by
    rw [same, List.count_append, List.count_append, List.count_eq_zero.2 unbroken]
    exact Nat.add_comm _ 1
  have length : source.toList.length = front.length + (line ++ ['\n']).length := by
    rw [same, List.append_assoc, List.length_append]
  rw [Nat.zero_add, Nat.zero_add] at found
  refine ⟨front, line, same, unbroken, ends, ?_, ?_⟩
  · rw [count]
    exact walked
  · rw [Line.holding, found, Line.position, count, length, Nat.add_sub_cancel_left]

namespace Diagnostic

variable {source filename : String} {d : Diagnostic}

/-- What is shown has the place `header` in the upper edge of its frame, and in the note above the
lower edge the place `place`. -/
def ShowsPlaces (filename : String) (header place : Position) (shown : String) : Prop :=
  ∃ (stage : Stage) (margin : Nat) (rows rail : String), shown = s!"Error: {stage.title}\n" ++
    (s!"{Text.spaces margin}╭─[ <unknown>:{header.shown} ]\n" ++ rows ++
      annotated s!"{Text.spaces margin}│ {rail}" (note filename place) ++
      String.ofList (List.replicate margin '─') ++ "╯\n")

theorem render_shows_places (reached : reaches source.toList (d.extent source) = true)
    (filename : String) :
    ShowsPlaces filename
      ((Line.holding (d.extent source).start source.toList).position (d.extent source).start)
      (Position.ofOffset source (d.extent source).start) (d.render source filename) := by
  rw [render_of_reaches reached]
  obtain ⟨rows, rail, shown, -⟩ :=
    frame_eq_around source.toList (d.extent source).start (d.extent source).stop
  rw [shown]
  let last := Line.holding (max (d.extent source).start ((d.extent source).stop - 1)) source.toList
  let margin := (toString last.number).length + 2
  refine ⟨d.stage, margin, s!"{Text.spaces margin}│\n" ++ rows d.message ++
    s!"{Text.spaces margin}│ {rail}\n", rail, ?_⟩
  unfold around note
  simp only [String.append_assoc]
  rfl

end Diagnostic

open Diagnostic

/-- In an ASCII source in which only `\n` ends a line, the two places that are shown of an error are
the same one, unless the error begins at the end of the source and behind a `\n`. Then the note is
on the line that follows the last one, and the header is on the last one, behind its `\n`. -/
theorem places_agree {source : String} (ascii : ∀ c ∈ source.toList, c.toNat < 128)
    (unix : ∀ c ∈ source.toList, c ≠ '\r' ∧ c ≠ '\x0b' ∧ c ≠ '\x0c') (d : Diagnostic)
    (filename : String) : ∃ header place,
      ShowsPlaces filename header place (d.render source filename) ∧
      (header.shown = place.shown ↔ ¬(source.toList.getLast? = some '\n' ∧
        (d.extent source).start = source.utf8ByteSize)) ∧
      (source.toList.getLast? = some '\n' → (d.extent source).start = source.utf8ByteSize →
        ∃ front line, source.toList = front ++ line ++ ['\n'] ∧ '\n' ∉ line ∧
          (front = [] ∨ front.getLast? = some '\n') ∧
          place = ⟨source.toList.count '\n' + 1, 1⟩ ∧
          header = ⟨source.toList.count '\n', (line ++ ['\n']).length + 1⟩) := by
  have plain := Unixlike.of_ascii ascii unix
  have bytes : source.utf8ByteSize = source.toList.length := by
    rw [← byteLength_toList, plain.byteLength_eq]
  have stop : (d.extent source).stop ≤ source.utf8ByteSize := Nat.min_le_right _ _
  have begins := d.extent_start_le source
  have reached : reaches source.toList (d.extent source) = true :=
    (reaches_iff _ _).2 (by omega)
  have shown := render_shows_places reached filename
  rw [bytes] at stop ⊢
  generalize (d.extent source).start = start at begins shown ⊢
  have ended (closed : source.toList.getLast? = some '\n') (last : start = source.toList.length) :=
    last ▸ places_at_end plain closed
  refine ⟨_, _, shown, ⟨fun same closed => ?_, fun before => ?_⟩, ended⟩
  · obtain ⟨front, line, -, -, -, place, header⟩ := ended closed.1 closed.2
    have column := congrArg Position.column (Position.shown_injective same)
    rw [place, header] at column
    simp at column
  · have agree := walk_eq_position (lined _) plain (Nat.le_trans begins stop) before 1 0
    rw [Nat.zero_add] at agree
    exact congrArg Position.shown agree.symm

/-- For an error in the only line of a source the places agree. An error behind that line is still
on the first line for the header, and already on the second one for the note. -/
theorem places_agree_print :
    (∃ header place, header.shown = place.shown ∧ ShowsPlaces "demo" header place
      (render ⟨.parsing, "'y' used before declared", ⟨6, 7⟩⟩ "PRINT y\n" "demo")) ∧
    ∃ header place, header.line = 1 ∧ place = ⟨2, 1⟩ ∧ ShowsPlaces "demo" header place
      (render ⟨.parsing, "expected ENDIF", ⟨8, 9⟩⟩ "PRINT y\n" "demo") := by
  have agree := @places_agree "PRINT y\n" (by simp) (by simp)
  constructor
  · obtain ⟨header, place, shown, same, -⟩ :=
      agree ⟨.parsing, "'y' used before declared", ⟨6, 7⟩⟩ "demo"
    exact ⟨header, place, same.2 (by decide), shown⟩
  · obtain ⟨header, place, shown, -, ended⟩ :=
      agree ⟨.parsing, "expected ENDIF", ⟨8, 9⟩⟩ "demo"
    obtain ⟨front, line, -, -, -, note, edge⟩ := ended (by decide) (by decide)
    exact ⟨header, place, congrArg Position.line edge, note, shown⟩

end Offside
