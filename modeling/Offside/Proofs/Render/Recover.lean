import Offside.Proofs.Render.Inline
import Offside.Proofs.Render.Lines

/-!
# Lines of Python are known from their text

A line of Python begins with a name. If ` =` stands behind it, it is the name of
a variable, which may look like any word of Python; if not, it is one of seven
fixed words, and tells what kind of line it is. Either way the rest of the line
is known up to the words that stand in it, and these are known from their text.

Only an input looks like an assignment: of a call of `float`, which the program
may have declared. A line that does not hold that name is known from its text.
-/

namespace Offside

/-! ## One line -/

namespace Word

variable {word : Word}

/-- The characters of the words that are not string literals, and of the spaces between them. -/
def isPlain (c : Char) : Bool := c.isAlphanum || " .+-*/=!<>(),".toList.contains c

theorem isPlain_of_mem_written {c : Char} (proper : word.Proper)
    (isWritten : word.kind.isWritten = true) (unquoted : word.kind ≠ .stringLiteral)
    (member : c ∈ (word.written .python).toList) : isPlain c = true := by
  obtain ⟨kind, text⟩ := word
  cases kind with
  | number =>
    have member : c ∈ text.toList := member
    obtain ⟨whole, -, digits, same | ⟨fraction, further, same⟩⟩ := proper
    · have member : c ∈ whole := same ▸ member
      simp [isPlain, Char.isAlphanum, digits c member]
    · have member : c ∈ whole ++ '.' :: fraction := same ▸ member
      simp only [List.mem_append, List.mem_cons] at member
      rcases member with member | rfl | member
      · simp [isPlain, Char.isAlphanum, digits c member]
      · rfl
      · simp [isPlain, Char.isAlphanum, further c member]
  | identifier =>
    have member : c ∈ text.toList := member
    obtain ⟨⟨first, more, same, letter, others⟩, -⟩ := proper
    have member : c ∈ first :: more := same ▸ member
    rcases List.mem_cons.1 member with rfl | member
    · simp [isPlain, Char.isAlphanum, letter]
    · simp [isPlain, others c member]
  | stringLiteral => exact absurd rfl unquoted
  | keyword keyword =>
    obtain rfl : text = keyword.text := proper
    cases keyword <;> exact List.all_eq_true.1 (by decide) c member
  | endOfInput | newline => cases isWritten
  | _ =>
    simp only [Proper, Token.Kind.spelling] at proper
    subst proper
    exact List.all_eq_true.1 (by decide) c member

theorem newline_not_mem_written (proper : word.Proper) (isWritten : word.kind.isWritten = true) :
    '\n' ∉ (word.written .python).toList := by
  intro member
  by_cases quoted : word.kind = .stringLiteral
  · obtain ⟨kind, text⟩ := word
    obtain rfl : kind = .stringLiteral := quoted
    have member : '\n' ∈ '"' :: text.toList ++ ['"'] := toList_quote text ▸ member
    simp only [List.mem_append, List.mem_cons, List.not_mem_nil, or_false] at member
    rcases member with (member | member) | member
    · cases member
    · exact absurd (proper _ member) (by decide)
    · cases member
  · exact absurd (isPlain_of_mem_written proper isWritten quoted member) (by decide)

end Word

namespace CodeLine

/-- The name with which a line of Python begins. -/
def name : CodeLine → String
  | .print _ => "print"
  | .branch _ => "if"
  | .loop _ => "while"
  | .function _ _ => "def"
  | .assign name _ | .input name => name
  | .giveBack _ => "return"
  | .otherwise => "else"
  | .nothing => "pass"

/-- What stands behind the name. -/
def others : CodeLine → List Char
  | .print printed => '(' :: (Leaf.line printed.leaves ++ [')'])
  | .branch test | .loop test => ' ' :: (Leaf.line test.leaves ++ [':'])
  | .function name names =>
    ' ' :: (name.toList ++ '(' :: (Leaf.line names.leaves ++ [')', ':']))
  | .assign _ value => ' ' :: '=' :: ' ' :: Leaf.line value.leaves
  | .input _ => ' ' :: '=' :: ' ' :: "float(input())".toList
  | .giveBack value => ' ' :: Leaf.line value.leaves
  | .otherwise => [':']
  | .nothing => []

/-- Whether the line gives a value to a name. -/
def assigns : CodeLine → Bool
  | .assign _ _ | .input _ => true
  | _ => false

/-- The words of the line are proper. -/
def Proper (line : CodeLine) : Prop := ∀ leaf ∈ line.leaves, leaf.word.Proper

/-- The words of the line are proper, and `float` is not one of them. -/
structure Legible (line : CodeLine) : Prop where
  proper : line.Proper
  noFloat : ∀ leaf ∈ line.leaves, leaf.word ≠ ⟨.identifier, "float"⟩

theorem toList_text (line : CodeLine) :
    (line.text .python).toList = line.name.toList ++ line.others := by
  cases line <;>
    simp [text, name, others, Target.python, pythonSpelling, ← Tree.toList_written]

variable {line line' : CodeLine}

theorem isName_of_mem {text : String}
    (fixed : text ∈ ["print", "if", "while", "def", "return", "else", "pass"]) :
    Word.IsName text.toList := by
  simp only [List.mem_cons, List.not_mem_nil, or_false] at fixed
  rcases fixed with rfl | rfl | rfl | rfl | rfl | rfl | rfl <;>
    exact ⟨_, _, rfl, rfl, List.all_eq_true.1 rfl⟩

theorem Proper.isName (proper : line.Proper) : Word.IsName line.name.toList := by
  cases line with
  | assign name value => exact (proper _ List.mem_cons_self).1
  | input name => exact (proper _ List.mem_cons_self).1
  | _ => exact isName_of_mem (by simp [name])

theorem alphanum_of_isName {text : List Char} (named : Word.IsName text) :
    ∀ c ∈ text, c.isAlphanum = true := by
  obtain ⟨c, more, rfl, letter, others⟩ := named
  intro d member
  rcases List.mem_cons.1 member with rfl | member
  · simp [Char.isAlphanum, letter]
  · exact others d member

theorem not_mem_of_isName {c : Char} {text : List Char} (other : c.isAlphanum = false)
    (named : Word.IsName text) : c ∉ text := by
  intro member
  rw [alphanum_of_isName named c member] at other
  cases other

theorem stopsAt_others (line : CodeLine) : StopsAt Char.isAlphanum line.others := by
  intro c first
  cases line with
  | nothing => cases first
  | _ =>
    obtain rfl := Option.some.inj first
    rfl

/-- What is tested, and what is given back, does not begin with `=`. -/
theorem not_equals_of_begins {category : Category} {tree : Tree category} {p : Token.Kind → Bool}
    (inline_ : category.isInline = true) (begins : tree.Begins p) (not : p .equal = false)
    (proper : ∀ leaf ∈ tree.leaves, leaf.word.Proper) :
    ∃ c text, Leaf.line tree.leaves = c :: text ∧ c ≠ '=' := by
  have isWritten := tree.isWritten_of_mem_leaves inline_
  obtain ⟨leaf, leaves, same, begins⟩ := begins
  rw [same] at proper isWritten ⊢
  obtain ⟨c, text, written, starts⟩ := Word.starts_written (proper leaf List.mem_cons_self)
    (isWritten leaf List.mem_cons_self)
  refine ⟨c, text ++ Leaf.line leaves, ?_, fun equals => ?_⟩
  · rw [Leaf.line, List.flatMap_cons, Leaf.written, written]
    rfl
  · subst equals
    have kind : leaf.kind = .equal := Token.Kind.eq_equal_of_starts starts
    rw [kind, not] at begins
    cases begins

/-- A line that gives a value to a name is known from what stands behind the name. -/
theorem Legible.assigns_eq (legible : line.Legible) :
    line.assigns = (line.others.take 2 == [' ', '=']) := by
  cases line with
  | branch test | loop test =>
    obtain ⟨c, text, same, not⟩ :=
      not_equals_of_begins rfl test.begins_condition rfl legible.proper
    simp [assigns, others, same, not]
  | giveBack value =>
    obtain ⟨c, text, same, not⟩ :=
      not_equals_of_begins rfl value.begins_expression rfl legible.proper
    simp [assigns, others, same, not]
  | function name names =>
    obtain ⟨⟨c, more, same, letter, -⟩, -⟩ := legible.proper _ List.mem_cons_self
    have same : name.toList = c :: more := same
    have not : c ≠ '=' := by
      intro equals
      subst equals
      cases letter
    simp [assigns, others, same, not]
  | _ => rfl

theorem Proper.names {name : String} {names : Tree .parameters}
    (proper : (function name names).Proper) : ∀ leaf ∈ names.leaves, leaf.word.Proper := by
  intro leaf member
  exact proper leaf (List.mem_cons_of_mem _ member)

theorem Proper.value {name : String} {value : Tree .expression}
    (proper : (assign name value).Proper) : ∀ leaf ∈ value.leaves, leaf.word.Proper := by
  intro leaf member
  exact proper leaf (List.mem_cons_of_mem _ member)

/-- What reads a number begins with a name that is not in a legible line. -/
theorem Legible.ne_readNumber {name : String} {value : Tree .expression}
    (legible : (assign name value).Legible) :
    Leaf.line value.leaves ≠ "float(input())".toList := by
  intro same
  have apart : Apart true (value.leaves ++ [.fixed .closeParen]) :=
    value.apart rfl rfl (fun _ => rfl) fun _ => trivial
  have proper := legible.proper.value
  obtain ⟨leaf, leaves, split, begins⟩ := value.begins_expression
  rw [split] at apart proper same
  have stands := stands_line apart proper
  have spaceless : leaf.word.spaceBefore = [] ∧ leaf.word.spaceBehind = [] := by
    have kind : leaf.word.kind = leaf.kind := rfl
    rw [Word.spaceBefore, Word.spaceBehind, kind]
    rcases Token.Kind.beginsExpression_cases begins with kind | kind | kind | kind <;>
      rw [kind] <;> exact ⟨rfl, rfl⟩
  have reads := Word.reads_face stands.proper stands.precedes stands.starts
  have text : Leaf.line (leaf :: leaves) = _ := Word.written_append stands.proper _
  rw [spaceless.1, List.nil_append, same] at text
  have reads' : Reading.Reads "float(input())".toList ⟨.identifier, "float"⟩
    "(input())".toList := ⟨_, _, rfl, rfl⟩
  have word := (reads.unique (text ▸ reads')).1
  rw [Word.face_of_spaceless spaceless.2] at word
  have member : leaf ∈ value.leaves := split ▸ List.mem_cons_self
  exact legible.noFloat leaf (List.mem_cons_of_mem _ member) word

/-- A legible line is known from its text in Python. -/
theorem text_injective (legible : line.Legible) (legible' : line'.Legible)
    (same : line.text .python = line'.text .python) : line = line' := by
  have chars : line.name.toList ++ line.others = line'.name.toList ++ line'.others := by
    rw [← toList_text, ← toList_text, same]
  obtain ⟨name, others⟩ := run_unique
    (alphanum_of_isName legible.proper.isName) (stopsAt_others line)
    (alphanum_of_isName legible'.proper.isName) (stopsAt_others line') chars
  have name := String.toList_inj.1 name
  have assigns : line.assigns = line'.assigns := by
    rw [legible.assigns_eq, legible'.assigns_eq, others]
  cases line with
  | print printed =>
    cases line' with
    | print printed' =>
      have words := List.append_cancel_right (List.cons.inj others).2
      rw [Tree.eq_of_line_eq rfl legible.proper legible'.proper words]
    | assign | input => cases assigns
    | _ => simp [CodeLine.name] at name
  | branch test =>
    cases line' with
    | branch test' =>
      have words := List.append_cancel_right (List.cons.inj others).2
      rw [Tree.eq_of_line_eq rfl legible.proper legible'.proper words]
    | assign | input => cases assigns
    | _ => simp [CodeLine.name] at name
  | loop test =>
    cases line' with
    | loop test' =>
      have words := List.append_cancel_right (List.cons.inj others).2
      rw [Tree.eq_of_line_eq rfl legible.proper legible'.proper words]
    | assign | input => cases assigns
    | _ => simp [CodeLine.name] at name
  | function declared names =>
    cases line' with
    | function declared' names' =>
      have stops (names : Tree .parameters) :
          StopsAt Char.isAlphanum ('(' :: (Leaf.line names.leaves ++ [')', ':'])) := by
        intro c first
        obtain rfl := Option.some.inj first
        rfl
      obtain ⟨same, rest⟩ := run_unique
        (alphanum_of_isName (legible.proper _ List.mem_cons_self).1) (stops names)
        (alphanum_of_isName (legible'.proper _ List.mem_cons_self).1) (stops names')
        (List.cons.inj others).2
      have words := List.append_cancel_right (List.cons.inj rest).2
      obtain rfl : declared = declared' := String.toList_inj.1 same
      rw [Tree.eq_of_line_eq rfl legible.proper.names legible'.proper.names words]
    | assign | input => cases assigns
    | _ => simp [CodeLine.name] at name
  | assign declared value =>
    cases line' with
    | assign declared' value' =>
      obtain rfl : declared = declared' := name
      have words : Leaf.line value.leaves = Leaf.line value'.leaves := by
        simpa [CodeLine.others] using others
      rw [Tree.eq_of_line_eq rfl legible.proper.value legible'.proper.value words]
    | input declared' =>
      have words : Leaf.line value.leaves = "float(input())".toList := by
        simpa [CodeLine.others] using others
      exact absurd words legible.ne_readNumber
    | _ => cases assigns
  | input declared =>
    cases line' with
    | assign declared' value' =>
      have words : Leaf.line value'.leaves = "float(input())".toList := by
        simpa [CodeLine.others] using others.symm
      exact absurd words legible'.ne_readNumber
    | input declared' => rw [show declared = declared' from name]
    | _ => cases assigns
  | giveBack value =>
    cases line' with
    | giveBack value' =>
      have words := (List.cons.inj others).2
      rw [Tree.eq_of_line_eq rfl legible.proper legible'.proper words]
    | assign | input => cases assigns
    | _ => simp [CodeLine.name] at name
  | otherwise =>
    cases line' with
    | otherwise => rfl
    | assign | input => cases assigns
    | _ => simp [CodeLine.name] at name
  | nothing =>
    cases line' with
    | nothing => rfl
    | assign | input => cases assigns
    | _ => simp [CodeLine.name] at name

/-! ## All lines -/

theorem newline_not_mem_line {category : Category} (tree : Tree category)
    (inline_ : category.isInline = true) (proper : ∀ leaf ∈ tree.leaves, leaf.word.Proper) :
    '\n' ∉ Leaf.line tree.leaves := by
  intro member
  obtain ⟨leaf, leafMember, member⟩ := List.mem_flatMap.1 member
  exact Word.newline_not_mem_written (proper leaf leafMember)
    (tree.isWritten_of_mem_leaves inline_ leaf leafMember) member

theorem Proper.newline_not_mem (proper : line.Proper) : '\n' ∉ (line.text .python).toList := by
  rw [toList_text, List.mem_append]
  intro member
  rcases member with member | member
  · exact not_mem_of_isName rfl proper.isName member
  cases line with
  | print printed | branch test | loop test =>
    have words := newline_not_mem_line _ rfl proper
    simp [others, words] at member
  | giveBack value =>
    have words := newline_not_mem_line value rfl proper
    simp [others, words] at member
  | function name names =>
    have words := newline_not_mem_line names rfl proper.names
    have named := not_mem_of_isName (c := '\n') rfl (proper _ List.mem_cons_self).1
    simp [others, words] at member
    exact named member
  | assign name value =>
    have words := newline_not_mem_line value rfl proper.value
    simp [others, words] at member
  | input name => simp [others] at member
  | otherwise | nothing => simp [others] at member

theorem Proper.stopsAt_space (proper : line.Proper) (rest : List Char) :
    StopsAt (· == ' ') ((line.text .python).toList ++ rest) := by
  obtain ⟨c, more, same, letter, -⟩ := proper.isName
  rw [toList_text, same]
  intro d first
  obtain rfl : c = d := Option.some.inj first
  refine beq_eq_false_iff_ne.2 fun space => ?_
  subst space
  cases letter

theorem toList_textLine (width depth : Nat) (text : String) :
    (Text.line width depth text).toList =
      List.replicate (depth * width) ' ' ++ (text.toList ++ ['\n']) := by
  simp [Text.line, Text.spaces]

/-- The first line of a text is known from the text, and so is its depth. -/
theorem textLine_unique {width depth depth' : Nat} (wide : 1 ≤ width) (legible : line.Legible)
    (legible' : line'.Legible) {rest rest' : List Char}
    (same : (Text.line width depth (line.text .python)).toList ++ rest =
      (Text.line width depth' (line'.text .python)).toList ++ rest') :
    (depth, line) = (depth', line') ∧ rest = rest' := by
  simp only [toList_textLine, List.append_assoc] at same
  have blank (count : Nat) : ∀ c ∈ List.replicate count ' ', (c == ' ') = true := by
    intro c member
    exact beq_iff_eq.2 (List.eq_of_mem_replicate member)
  obtain ⟨margin, behind⟩ := run_unique (blank _) (legible.proper.stopsAt_space _) (blank _)
    (legible'.proper.stopsAt_space _) same
  have depths : depth * width = depth' * width := by
    simpa using congrArg List.length margin
  obtain rfl : depth = depth' := Nat.eq_of_mul_eq_mul_right wide depths
  have within {line : CodeLine} (legible : line.Legible) :
      ∀ c ∈ (line.text .python).toList, (c != '\n') = true := by
    intro c member
    refine bne_iff_ne.2 fun newline => ?_
    subst newline
    exact legible.proper.newline_not_mem member
  have ends (rest : List Char) : StopsAt (· != '\n') (['\n'] ++ rest) := by
    intro c first
    obtain rfl := Option.some.inj first
    rfl
  obtain ⟨text, others⟩ :=
    run_unique (within legible) (ends rest) (within legible') (ends rest') behind
  exact ⟨by rw [text_injective legible legible' (String.toList_inj.1 text)],
    (List.cons.inj others).2⟩

/-- Lines are known from their text in Python, and so are their depths. -/
theorem join_injective {width : Nat} (wide : 1 ≤ width) {lines lines' : List (Nat × CodeLine)}
    (legible : ∀ line ∈ lines, line.2.Legible) (legible' : ∀ line ∈ lines', line.2.Legible)
    (same : CodeLine.join .python width lines = CodeLine.join .python width lines') :
    lines = lines' := by
  have ne_empty (line : Nat × CodeLine) (lines : List (Nat × CodeLine)) :
      CodeLine.join .python width (line :: lines) ≠ "" := by
    rw [join_cons]
    intro empty
    have empty := congrArg String.toList empty
    simp [toList_textLine] at empty
  induction lines generalizing lines' with
  | nil =>
    cases lines' with
    | nil => rfl
    | cons line' lines' => exact absurd same.symm (ne_empty line' lines')
  | cons line lines ih =>
    cases lines' with
    | nil => exact absurd same (ne_empty line lines)
    | cons line' lines' =>
      rw [join_cons, join_cons] at same
      have same := congrArg String.toList same
      rw [String.toList_append, String.toList_append] at same
      obtain ⟨first, rest⟩ := textLine_unique wide (legible line List.mem_cons_self)
        (legible' line' List.mem_cons_self) same
      have others := ih (fun other member => legible other (List.mem_cons_of_mem _ member))
        (fun other member => legible' other (List.mem_cons_of_mem _ member))
        (String.toList_inj.1 rest)
      rw [others]
      exact congrArg (· :: lines') first

end CodeLine

end Offside
