import Offside.Proofs.Render.Blocks
import Offside.Proofs.Render.Code
import Offside.Proofs.Render.Recover

/-!
# The margins of the code

Python reads the blocks of a program off the margins of its lines, and has only
their texts to tell which of them open a block: those that end in `:`. So the
blocks of the lines are those of their texts if no other line ends that way,
whatever words stand in it. What is printed is closed by a parenthesis, and no
other word but a string literal holds a colon. In the same way a line that reads
`else:` is one of a second branch, because the name it begins with is followed by
` =` in the lines that begin with a name of the program.
-/

namespace Offside

/-- Python takes a line with this text for the beginning of a block. -/
def EndsInColon (text : String) : Prop := text.toList.getLast? = some ':'

/-- The rules by which Python finds the blocks of lines that stand at some depths. -/
structure LaidOut (lines : List (Nat × String)) : Prop where
  /-- The margin is told apart from the text, and the text from the next line. -/
  texts : ∀ line ∈ lines,
    line.2 ≠ "" ∧ line.2.toList.head? ≠ some ' ' ∧ '\n' ∉ line.2.toList
  blocks : Blocks EndsInColon 0 lines
  branches : Resumed (fun text => "if ".toList <+: text.toList ∧ EndsInColon text) (· = "else:")
    [] lines

namespace Tree

variable {category : Category}

/-- Only what is printed may be a string literal. -/
theorem kind_ne_stringLiteral (tree : Tree category) (inline_ : category.isInline = true)
    (other : category ≠ .printed) : ∀ leaf ∈ tree.leaves, leaf.kind ≠ .stringLiteral := by
  induction tree with
  | program | blankLines | noStatement | nextStatement | statement | body | print | branch | loop
  | function | assign | input | giveBack | noElse | otherwise => cases inline_
  | literal | printedValue => exact absurd rfl other
  | rightSide operator isOperator | nextTerm operator isOperator | nextFactor operator isOperator
  | signed operator isOperator =>
    have unquoted : operator ≠ .stringLiteral := by
      rintro rfl
      cases isOperator
    simp_all [leaves, Leaf.kind, Leaf.word, Word.fixed, Category.isInline, or_imp]
  | _ => simp_all [leaves, Leaf.kind, Leaf.word, Word.fixed, Category.isInline, or_imp]

theorem colon_not_mem_line (tree : Tree category) (inline_ : category.isInline = true)
    (other : category ≠ .printed) (proper : ∀ leaf ∈ tree.leaves, leaf.word.Proper) :
    ':' ∉ Leaf.line tree.leaves := by
  intro member
  obtain ⟨leaf, leafMember, member⟩ := List.mem_flatMap.1 member
  exact absurd (Word.isPlain_of_mem_written (proper leaf leafMember)
    (tree.isWritten_of_mem_leaves inline_ leaf leafMember)
    (tree.kind_ne_stringLiteral inline_ other leaf leafMember) member) (by decide)

end Tree

namespace CodeLine

variable {line : CodeLine}

/-- The lines of Python that end in a colon are those that open a block. -/
theorem Proper.endsInColon_iff (proper : line.Proper) :
    EndsInColon (line.text .python) ↔ line.opens := by
  -- without a colon behind its first name, a line has none at all
  have closed (colon : ':' ∉ line.others) : ¬EndsInColon (line.text .python) := by
    intro ends
    have member := List.mem_of_getLast? ends
    rw [toList_text] at member
    rcases List.mem_append.1 member with member | member
    · exact not_mem_of_isName rfl proper.isName member
    · exact colon member
  cases line with
  | branch | loop | function | otherwise | print =>
    simp [EndsInColon, toList_text, others, opens, List.getLast?_cons]
  | assign name value =>
    have words := value.colon_not_mem_line rfl (by decide) proper.value
    exact iff_of_false (closed (by simp [others, words])) id
  | giveBack value =>
    have words := value.colon_not_mem_line rfl (by decide) proper
    exact iff_of_false (closed (by simp [others, words])) id
  | input | nothing => exact iff_of_false (closed (by simp [others])) id

theorem Proper.eq_otherwise (proper : line.Proper) (same : line.text .python = "else:") :
    line = .otherwise := by
  have chars : line.name.toList ++ line.others = "else".toList ++ [':'] := by
    rw [← toList_text, same]
    rfl
  have stops : StopsAt Char.isAlphanum [':'] := by
    intro c first
    obtain rfl := Option.some.inj first
    rfl
  obtain ⟨-, others⟩ := run_unique (alphanum_of_isName proper.isName) (stopsAt_others line)
    (alphanum_of_isName (isName_of_mem (by simp))) stops chars
  cases line with
  | otherwise => rfl
  | _ => cases others

theorem begins_of_isBranch (isBranch : line.isBranch) :
    "if ".toList <+: (line.text .python).toList ∧ EndsInColon (line.text .python) := by
  cases line with
  | branch test => simp [EndsInColon, toList_text, name, others, List.getLast?_cons]
  | _ => cases isBranch

theorem Proper.text_apart (proper : line.Proper) : line.text .python ≠ "" ∧
    (line.text .python).toList.head? ≠ some ' ' ∧ '\n' ∉ (line.text .python).toList := by
  obtain ⟨c, more, same, letter, -⟩ := proper.isName
  have first : (line.text .python).toList = c :: (more ++ line.others) := by
    rw [toList_text, same]
    rfl
  refine ⟨fun empty => ?_, fun space => ?_, proper.newline_not_mem⟩
  · rw [empty] at first
    cases first
  · rw [first] at space
    obtain rfl := Option.some.inj space
    cases letter

end CodeLine

/-- The texts of lines that are laid out in blocks are laid out in blocks. -/
theorem Tree.laidOut_lines (program : Tree .program)
    (proper : ∀ line ∈ program.lines 0, line.2.Proper) :
    LaidOut ((program.lines 0).map fun line => (line.1, line.2.text .python)) where
  texts line member := by
    obtain ⟨found, among, rfl⟩ := List.mem_map.1 member
    exact (proper found among).text_apart
  blocks := (program.blocks_lines 0).map _ fun line member => (proper line member).endsInColon_iff
  branches := (program.resumed_lines 0 [] nofun).map _
    (fun line member => CodeLine.begins_of_isBranch)
    fun line member => (proper line member).eq_otherwise

/-- Below the preamble, the code for a source consists of lines with margins by which Python finds
the blocks. -/
theorem code_laidOut {source code : String} {width : Nat}
    (h : compileFor source width .python = .ok code) :
    ∃ lines, LaidOut lines ∧ code = "import sys\n" ++
      String.join (lines.map fun line => Text.line width line.1 line.2) := by
  obtain ⟨tokens, read, program, spells, -, rfl⟩ := code_eq_render h
  refine ⟨_, program.laidOut_lines fun line member leaf leafMember =>
    spells.proper read leaf (program.mem_leaves_of_mem_lines member leafMember), ?_⟩
  rw [List.map_map, Tree.code, Tree.render_eq_join]
  rfl

theorem code_laidOut_branch :
    compileFor "IF 1 < 2 THEN\nPRINT \"a:\"\nELSE\nENDIF" 2 .python =
        .ok "import sys\nif 1<2:\n  print(\"a:\")\nelse:\n  pass\n" ∧
      ∃ lines, LaidOut lines ∧ "import sys\nif 1<2:\n  print(\"a:\")\nelse:\n  pass\n" =
        "import sys\n" ++ String.join (lines.map fun line => Text.line 2 line.1 line.2) := by
  have compiled : compileFor "IF 1 < 2 THEN\nPRINT \"a:\"\nELSE\nENDIF" 2 .python =
      .ok "import sys\nif 1<2:\n  print(\"a:\")\nelse:\n  pass\n" := by cbv
  exact ⟨compiled, code_laidOut compiled⟩

end Offside
