import Mathlib
import Offside.Diagnostic.Frame
import Offside.Proofs.Session.Answered

/-!
# What is shown of an error

The message of an error and the place of it are shown in a frame. The span is
counted in bytes, and the frame takes it for one of characters. A source has no
more characters than bytes, so the span comes to lie too far behind, and it is
shown as long as it still lies in the source. The line that is found for its
last character then holds that character, and the message stands below it. A
span that ends one character behind the source loses the message, and one
further behind loses the frame.

In a source of one-byte characters, the two ways of counting are the same, and
nothing is lost.
-/

namespace Offside

/-- The text stands somewhere in another one. -/
def StandsIn (text whole : String) : Prop := ∃ front back, whole = front ++ text ++ back

namespace StandsIn

variable {text whole : String}

theorem refl (text : String) : StandsIn text text :=
  ⟨"", "", by rw [String.append_empty, String.empty_append]⟩

theorem behind (stands : StandsIn text whole) (front : String) :
    StandsIn text (front ++ whole) := by
  obtain ⟨front', back, rfl⟩ := stands
  exact ⟨front ++ front', back, by simp only [String.append_assoc]⟩

theorem before (stands : StandsIn text whole) (back : String) :
    StandsIn text (whole ++ back) := by
  obtain ⟨front, back', rfl⟩ := stands
  exact ⟨front, back' ++ back, by simp only [String.append_assoc]⟩

theorem trans {further : String} (stands : StandsIn text whole) (stands' : StandsIn whole further) :
    StandsIn text further := by
  obtain ⟨front, back, rfl⟩ := stands'
  exact (stands.behind front).before back

theorem mem {c : Char} (stands : StandsIn text whole) (member : c ∈ text.toList) :
    c ∈ whole.toList := by
  obtain ⟨front, back, rfl⟩ := stands
  simp [member]

theorem join {pieces : List String} {piece : String} (member : piece ∈ pieces)
    (stands : StandsIn text piece) : StandsIn text (String.join pieces) := by
  induction pieces with
  | nil => cases member
  | cons first others ih =>
    rw [String.join_cons]
    rcases List.mem_cons.1 member with rfl | member
    · exact stands.before _
    · exact (ih member).behind _

end StandsIn

/-! ## The line that holds a character -/

namespace Line

variable {lines : List (List Char)} {number start offset offset' : Nat} {text : List Char}

theorem number_le_find (number start offset : Nat) (lines : List (List Char)) :
    number ≤ (find number start offset lines).number := by
  fun_induction find number start offset lines with
  | case3 number start line next more passed ih => exact Nat.le_of_succ_le ih
  | _ => exact Nat.le_refl _

/-- The line ends within the text, and behind the character. -/
theorem find_stop (number start offset : Nat) (lines : List (List Char)) :
    let line := find number start offset lines
    let length := start + lines.flatten.length
    line.start + line.text.length ≤ length ∧
      min (offset + 1) length ≤ line.start + line.text.length := by
  fun_induction find number start offset lines with
  | case1 => simp
  | case2 => simp
  | case3 number start line next more passed ih =>
    rw [List.flatten_cons, List.length_append, ← Nat.add_assoc]
    exact ih
  | case4 number start line next more open_ =>
    rw [List.flatten_cons, List.length_append]
    dsimp only
    omega

/-- Lines of one number are one line. -/
theorem find_eq_of_number (le : offset ≤ offset')
    (same : (find number start offset lines).number = (find number start offset' lines).number) :
    find number start offset lines = find number start offset' lines := by
  fun_induction find number start offset lines with
  | case1 => rfl
  | case2 => rfl
  | case3 number start line next more passed ih =>
    rw [find, if_pos (passed.trans le)] at same ⊢
    exact ih same
  | case4 number start line next more open_ =>
    rw [find] at same ⊢
    split
    · next passed =>
      rw [if_pos passed] at same
      have later := number_le_find (number + 1) (start + line.length) offset' (next :: more)
      dsimp only at same
      omega
    · rfl

theorem holding_eq_of_number (le : offset ≤ offset')
    (same : (holding offset text).number = (holding offset' text).number) :
    holding offset text = holding offset' text :=
  find_eq_of_number le same

theorem holding_stop_le (offset : Nat) (text : List Char) :
    (holding offset text).start + (holding offset text).text.length ≤ text.length := by
  have stop := (find_stop 1 0 offset (linesOf text)).1
  rwa [flatten_linesOf, Nat.zero_add] at stop

theorem le_holding_stop (offset : Nat) (text : List Char) :
    min (offset + 1) text.length ≤
      (holding offset text).start + (holding offset text).text.length := by
  have stop := (find_stop 1 0 offset (linesOf text)).2
  rwa [flatten_linesOf, Nat.zero_add] at stop

end Line

namespace Diagnostic

variable {text : List Char} {start stop : Nat} {message place : String}

/-! ## The message -/

namespace Label

variable {label : Label} {line : Line} {margin : String}

theorem shows_message (within : label.stop ≤ line.text.length) (margin message : String) :
    StandsIn message (label.shown line margin message) := by
  rw [shown, if_neg (Nat.not_lt.2 within)]
  exact (((StandsIn.refl message).behind _).before _).behind _

/-- A label that runs out of its line has no room for the message. -/
theorem shown_congr (open_ : line.text.length < label.stop) (margin message message' : String) :
    label.shown line margin message = label.shown line margin message' := by
  rw [shown, shown, if_pos open_, if_pos open_]

end Label

namespace Bracket

variable {bracket : Bracket}

theorem foot_shows_message (bracket : Bracket) (margin message : String) :
    StandsIn message (bracket.foot margin message) := by
  unfold foot
  exact (((StandsIn.refl message).behind _).before _).behind _

theorem shows_message (closed : bracket.closed = true) (digits : Nat) (message : String) :
    StandsIn message (bracket.shown digits message) := by
  dsimp only [shown]
  rw [if_pos closed]
  exact ((bracket.foot_shows_message _ message).behind _).behind _

/-- A bracket that stays open has no foot, and so no room for the message. -/
theorem shown_congr (open_ : ¬bracket.closed = true) (digits : Nat) (message message' : String) :
    bracket.shown digits message = bracket.shown digits message' := by
  dsimp only [shown]
  rw [if_neg open_, if_neg open_]

end Bracket

/-- The frame around rows that show a label, with the rail that goes on beside the note. -/
def around (text : List Char) (start stop : Nat) (rows rail place : String) : String :=
  let last := Line.holding (max start (stop - 1)) text
  let digits := (toString last.number).length
  let margin := Text.spaces (digits + 2)
  s!"{margin}╭─[ <unknown>:{((Line.holding start text).position start).shown} ]\n"
    ++ s!"{margin}│\n"
    ++ rows
    ++ s!"{margin}│ {rail}\n"
    ++ annotated s!"{margin}│ {rail}" s!"at {place}"
    ++ String.ofList (List.replicate (digits + 2) '─') ++ "╯\n"

theorem around_shows_rows (text : List Char) (start stop : Nat) (rows rail place : String) :
    StandsIn rows (around text start stop rows rail place) :=
  (((((StandsIn.refl rows).behind _).before _).before _).before _).before _

theorem around_shows_note (text : List Char) (start stop : Nat) (rows rail place : String) :
    ∃ margin, StandsIn (annotated margin s!"at {place}") (around text start stop rows rail place) :=
  ⟨_, (((StandsIn.refl _).behind _).before _).before _⟩

/-- The frame stands around rows that have room for the message as long as the label ends within the
text. Otherwise they are the same for every message. -/
theorem frame_eq_around (text : List Char) (start stop : Nat) :
    ∃ (rows : String → String) (rail : String),
      (∀ message place, frame text start stop message place =
        around text start stop (rows message) rail place) ∧
      (stop ≤ text.length → ∀ message, StandsIn message (rows message)) ∧
      (text.length < stop → ∀ message message', rows message = rows message') := by
  have ends := Line.holding_stop_le (max start (stop - 1)) text
  have reached := Line.le_holding_stop (max start (stop - 1)) text
  generalize found : Line.holding (max start (stop - 1)) text = last at ends reached
  by_cases same : (Line.holding start text).number = last.number
  · have first : Line.holding start text = last := by
      rw [← found] at same ⊢
      exact Line.holding_eq_of_number (le_max_left start (stop - 1)) same
    let label : Label := ⟨start - last.start, stop - last.start, (start + stop) / 2 - last.start⟩
    refine ⟨label.shown last (Text.spaces ((toString last.number).length + 2)), "",
      fun message place => ?_, fun within message => Label.shows_message ?_ _ message,
      fun open_ => Label.shown_congr ?_ _⟩
    · unfold frame around
      rw [found, first]
      dsimp only
      rw [if_pos rfl]
    · dsimp only [label]
      omega
    · dsimp only [label]
      omega
  · let bracket : Bracket := ⟨Line.holding start text, last,
      start - (Line.holding start text).start, stop - last.start⟩
    have closed_iff : bracket.closed = true ↔ stop - last.start ≤ last.text.length :=
      decide_eq_true_iff
    refine ⟨bracket.shown (toString last.number).length, bracket.rail, fun message place => ?_,
      fun within => Bracket.shows_message ?_ _, fun open_ => Bracket.shown_congr ?_ _⟩
    · unfold frame around
      rw [found]
      dsimp only
      rw [if_neg same]
    · rw [closed_iff]
      omega
    · rw [closed_iff]
      omega

theorem frame_shows_message (within : stop ≤ text.length) (start : Nat) (message place : String) :
    StandsIn message (frame text start stop message place) := by
  obtain ⟨rows, rail, shown, stands, -⟩ := frame_eq_around text start stop
  rw [shown]
  exact (stands within message).trans (around_shows_rows _ _ _ _ _ _)

/-- Behind the text no line has room for the message. -/
theorem frame_congr (open_ : text.length < stop) (start : Nat) (message message' place : String) :
    frame text start stop message place = frame text start stop message' place := by
  obtain ⟨rows, rail, shown, -, same⟩ := frame_eq_around text start stop
  rw [shown, shown, same open_ message message']

/-! ## The note -/

/-- The lines of a note. -/
def noteRows (note : String) : List String :=
  ((noteLines note.toList).1 :: (noteLines note.toList).2).map String.ofList

theorem noteLines_of_unbroken {note : List Char} (unbroken : '\n' ∉ note) :
    noteLines note = (note, []) := by
  fun_induction noteLines note with
  | case1 => rfl
  | case2 => simp at unbroken
  | case3 => simp at unbroken
  | case4 c note _ _ line more lines ih =>
    rw [ih (fun inside => unbroken (List.mem_cons_of_mem c inside))] at lines
    obtain ⟨rfl, rfl⟩ := Prod.mk.inj lines
    rfl

theorem annotated_shows (margin note : String) :
    ∀ row ∈ noteRows note, StandsIn row (annotated margin note) := by
  intro row member
  unfold noteRows at member
  unfold annotated
  generalize noteLines note.toList = lines at member ⊢
  obtain ⟨first, others⟩ := lines
  obtain ⟨line, found, rfl⟩ := List.mem_map.1 member
  rcases List.mem_cons.1 found with rfl | later
  · exact (((StandsIn.refl _).behind _).before _).before _
  · refine (StandsIn.join (List.mem_map_of_mem later) ?_).behind _
    exact ((StandsIn.refl _).behind _).before _

theorem frame_shows_note (text : List Char) (start stop : Nat) (message place : String) :
    ∀ row ∈ noteRows s!"at {place}", StandsIn row (frame text start stop message place) := by
  intro row member
  obtain ⟨rows, rail, shown, -⟩ := frame_eq_around text start stop
  rw [shown]
  obtain ⟨margin, stands⟩ := around_shows_note text start stop (rows message) rail place
  exact (annotated_shows margin _ row member).trans stands

/-! ## The diagnostic -/

variable {source filename : String} {d : Diagnostic}

theorem newline_not_mem_shown (p : Position) : '\n' ∉ p.shown.toList := by
  have digits (n : Nat) : '\n' ∉ (toString n).toList := fun member =>
    absurd (Nat.isDigit_of_mem_toDigits (by decide) (by decide) (Nat.toList_repr ▸ member))
      (by decide)
  unfold Position.shown
  simp only [String.toList_append, List.mem_append, not_or]
  exact ⟨⟨digits _, by decide⟩, digits _⟩

/-- A place in a file. -/
def placeIn (filename : String) (p : Position) : String := s!"{filename}:{p.shown}"

/-- The note on where an error is. -/
def note (filename : String) (p : Position) : String := s!"at {placeIn filename p}"

/-- What is shown holds the note, line by line. -/
def ShowsNote (filename : String) (p : Position) (shown : String) : Prop :=
  (∀ row ∈ noteRows (note filename p), StandsIn row shown) ∧
    ('\n' ∉ filename.toList → StandsIn (note filename p) shown)

theorem showsNote_of_rows {p : Position} {shown : String}
    (rows : ∀ row ∈ noteRows (note filename p), StandsIn row shown) :
    ShowsNote filename p shown := by
  refine ⟨rows, fun unbroken => rows _ ?_⟩
  have whole : '\n' ∉ (note filename p).toList := by
    have place : '\n' ∉ (placeIn filename p).toList := by
      unfold placeIn
      simp only [String.toList_append, List.mem_append, not_or]
      exact ⟨⟨unbroken, by decide⟩, newline_not_mem_shown p⟩
    unfold note
    rw [String.toList_append, List.mem_append, not_or]
    exact ⟨by decide, place⟩
  rw [noteRows, noteLines_of_unbroken whole, List.map_cons, String.ofList_toList]
  exact List.mem_cons_self

theorem extent_start_le (d : Diagnostic) (source : String) :
    (d.extent source).start ≤ (d.extent source).stop :=
  Nat.min_le_right _ _

theorem reaches_iff (text : List Char) (span : Span) : reaches text span = true ↔
    span.start ≤ text.length ∧ (span.stop ≤ span.start ∨ span.stop ≤ text.length + 1) := by
  simp [reaches]

theorem render_of_reaches (reached : reaches source.toList (d.extent source) = true) :
    d.render source filename = s!"Error: {d.stage.title}\n" ++
      frame source.toList (d.extent source).start (d.extent source).stop d.message
        (placeIn filename (Position.ofOffset source (d.extent source).start)) := by
  unfold render
  dsimp only
  rw [if_pos reached]
  rfl

theorem render_of_not_reaches (passed : ¬reaches source.toList (d.extent source) = true) :
    d.render source filename = s!"Error: {d.stage.title}\n" := by
  unfold render
  dsimp only
  rw [if_neg passed, String.append_empty]

theorem render_shows_note (reached : reaches source.toList (d.extent source) = true) :
    ShowsNote filename (Position.ofOffset source (d.extent source).start)
      (d.render source filename) := by
  rw [render_of_reaches reached]
  exact showsNote_of_rows fun row member => (frame_shows_note _ _ _ _ _ row member).behind _

theorem render_shows_message (within : (d.extent source).stop ≤ source.toList.length) :
    StandsIn d.message (d.render source filename) := by
  have start := d.extent_start_le source
  rw [render_of_reaches ((reaches_iff _ _).2 (by omega))]
  exact (frame_shows_message within _ _ _).behind _

/-- A message that has no room is not told from any other. -/
theorem render_congr (open_ : source.toList.length < (d.extent source).stop) (message : String) :
    Diagnostic.render { d with message := message } source filename =
      d.render source filename := by
  have extent : ({ d with message := message } : Diagnostic).extent source = d.extent source := rfl
  unfold render
  dsimp only
  rw [extent, frame_congr open_ _ message d.message]

/-- The span of an error of a source begins before it ends. -/
theorem extent_of_le (le : d.span.start ≤ d.span.stop) (source : String) : d.extent source =
    ⟨min d.span.start source.utf8ByteSize, min d.span.stop source.utf8ByteSize⟩ := by
  simp only [extent, Span.mk.injEq, and_true]
  omega

end Diagnostic

open Diagnostic

variable {source : String} {width : Nat} {error : Error}

theorem message_of_diagnostic? {d : Diagnostic} (same : error.diagnostic? = some d) :
    error.message = d.message := by
  cases error with
  | io fault => cases same
  | _ =>
    cases same
    rfl

theorem exists_diagnostic_of_compile (failed : compile source width = .error error) :
    ∃ d, error.diagnostic? = some d ∧ d.span.start ≤ d.span.stop := by
  rw [compile_eq_compileFor] at failed
  obtain ⟨count, answers⟩ := answers_of_compileFor failed
  obtain ⟨d, same⟩ := answers.exists_diagnostic
  refine ⟨d, same, ((Lexer.progresses_after source count).span d.span ?_).2.2⟩
  rw [answers.span, Error.span?, same]
  rfl

/-- What is shown of an error holds its message and its place as long as the span ends within the
source, its bytes taken for characters. If it ends one character behind the source, the message is
lost, and if it ends further behind or is empty there, only the title is left. In a source of
one-byte characters neither happens. -/
theorem render_of_compile_error (failed : compile source width = .error error)
    (filename : String) : ∃ d, error.diagnostic? = some d ∧
      let start := min d.span.start source.utf8ByteSize
      let stop := min d.span.stop source.utf8ByteSize
      let place := Position.ofOffset source start
      let shown := error.render source filename
      (stop ≤ source.length → StandsIn error.message shown ∧ ShowsNote filename place shown) ∧
      (stop = source.length + 1 → start < stop → ShowsNote filename place shown ∧
        ∀ message, Diagnostic.render { d with message := message } source filename = shown) ∧
      (source.length + 1 < stop ∨ stop = source.length + 1 ∧ start = stop →
        shown = s!"Error: {d.stage.title}\n") ∧
      (source.utf8ByteSize = source.length →
        StandsIn error.message shown ∧ ShowsNote filename place shown) := by
  obtain ⟨d, same, le⟩ := exists_diagnostic_of_compile failed
  refine ⟨d, same, ?_⟩
  have render : error.render source filename = d.render source filename := by
    rw [Error.render, same]
  have length : source.toList.length = source.length := String.length_toList
  have extent := extent_of_le le source
  have noted (reached : reaches source.toList (d.extent source) = true) := by
    have shown : ShowsNote filename _ (d.render source filename) := render_shows_note reached
    rwa [extent] at shown
  have within (inside : min d.span.stop source.utf8ByteSize ≤ source.length) :
      StandsIn error.message (d.render source filename) ∧ ShowsNote filename
        (Position.ofOffset source (min d.span.start source.utf8ByteSize))
        (d.render source filename) := by
    rw [message_of_diagnostic? same]
    exact ⟨render_shows_message (by rw [extent, length]; exact inside),
      noted (by rw [reaches_iff, extent, length]; dsimp only; omega)⟩
  dsimp only
  rw [render]
  refine ⟨within, fun behind begins => ⟨noted ?_, render_congr ?_⟩,
    fun behind => render_of_not_reaches ?_, fun single => within (by omega)⟩
  · rw [reaches_iff, extent, length]
    dsimp only
    omega
  · rw [extent, length]
    dsimp only
    omega
  · rw [reaches_iff, extent, length]
    dsimp only
    omega

/-- In an ASCII source the message and the place are shown. -/
theorem render_of_compile_error_undeclared :
    compile "PRINT y" 4 = .error (.grammatical (.undeclared "y") ⟨6, 7⟩) ∧
      StandsIn "'y' used before declared"
        (Error.render (.grammatical (.undeclared "y") ⟨6, 7⟩) "PRINT y" "demo") ∧
      StandsIn "at demo:1:7"
        (Error.render (.grammatical (.undeclared "y") ⟨6, 7⟩) "PRINT y" "demo") := by
  have failed : compile "PRINT y" 4 = .error (.grammatical (.undeclared "y") ⟨6, 7⟩) := by cbv
  obtain ⟨d, same, -, -, -, shows_⟩ := render_of_compile_error failed "demo"
  cases same
  obtain ⟨message, -, place⟩ := shows_ (by decide)
  exact ⟨failed, message, place (by decide)⟩

/-- Behind a comment with two characters of two bytes, neither the message nor the place of an error
is shown. -/
theorem render_loses_message : ∃ error, compile "#éé\ny" defaultWidth = .error error ∧
    error.render "#éé\ny" "f" = "Error: Syntax error\n" ∧
    ¬StandsIn error.message (error.render "#éé\ny" "f") ∧
    ¬StandsIn (note "f" (Position.ofOffset "#éé\ny" 6)) (error.render "#éé\ny" "f") := by
  have failed : compile "#éé\ny" defaultWidth =
      .error (.grammatical (.noStatement ⟨.identifier, "y", ⟨6, 7⟩⟩) ⟨6, 7⟩) := by cbv
  have shown : Error.render (.grammatical (.noStatement ⟨.identifier, "y", ⟨6, 7⟩⟩) ⟨6, 7⟩)
      "#éé\ny" "f" = "Error: Syntax error\n" :=
    render_of_not_reaches (by decide)
  refine ⟨_, failed, shown, fun stands => ?_, fun stands => ?_⟩
  · rw [shown] at stands
    exact absurd (stands.mem (show '(' ∈ _ by decide)) (by decide)
  · rw [shown] at stands
    exact absurd (stands.mem (show '2' ∈ _ by decide)) (by decide)

end Offside
