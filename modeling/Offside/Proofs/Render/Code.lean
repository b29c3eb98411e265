import Mathlib
import Offside.Proofs.Grammar.Unique
import Offside.Proofs.Render.Layout
import Offside.Proofs.Session.Accepts

/-!
# The code for a source

What a run writes is the rendering of the one tree that its tokens spell, below
the lines of the preamble. Nothing of the order in which it was written is left.
-/

namespace Offside

/-- The code for a program: the preamble, and the program at depth 0. -/
def Tree.code (target : Target) (width : Nat) (program : Tree .program) : String :=
  String.join (target.preamble.map (· ++ "\n")) ++ program.render target width 0

namespace Tree

theorem unique_program {program other : Tree .program} {tokens : List Token}
    (spells : program.Spells tokens) (spells' : other.Spells tokens) : other = program := by
  have same : SameWords (other.leaves ++ []) (program.leaves ++ []) := by
    rw [SameWords, List.append_nil, List.append_nil]
    exact List.append_cancel_right (spells'.symm.trans spells)
  exact (other.unique_tree program [] [] same rfl rfl).1

theorem Spells.word_mem {program : Tree .program} {tokens : List Token} {leaf : Leaf}
    (spells : program.Spells tokens) (member : leaf ∈ program.leaves) :
    leaf.word ∈ tokens.map Token.word := by
  rw [spells]
  exact List.mem_append_left _ (List.mem_map_of_mem member)

/-- The words of a program that was read are proper. -/
theorem Spells.proper {program : Tree .program} {source : String} {tokens : List Token}
    (spells : program.Spells tokens) (read : Lexer.tokens source = .ok tokens) :
    ∀ leaf ∈ program.leaves, leaf.word.Proper := by
  intro leaf member
  exact Lexer.proper_of_tokens read _ (spells.word_mem member)

end Tree

theorem writeHeader_foldl (lines : List String) (draft : Draft) :
    lines.foldl Draft.writeHeader draft =
      { draft with header := draft.header ++ String.join (lines.map (· ++ "\n")) } := by
  induction lines generalizing draft with
  | nil => simp
  | cons line lines ih => simp [ih, Draft.writeHeader, String.append_assoc]

theorem code_draw (target : Target) (width : Nat) (program : Tree .program) :
    (program.draw target (target.preamble.foldl Draft.writeHeader ⟨width, "", "", 0, false⟩)).code =
      program.code target width := by
  rw [writeHeader_foldl]
  have draws : Draft.AppendsLines (program.draw target)
      fun depth width => program.render target width depth := program.appendsRendering
  rw [draws _ rfl]
  simp only [Draft.code, Draft.append, Tree.code, String.empty_append]

/-- The code for a source is the preamble and the rendering of the one program that its tokens
spell. -/
theorem code_eq_render {source code : String} {width : Nat} {target : Target}
    (h : compileFor source width target = .ok code) :
    ∃ tokens, Lexer.tokens source = .ok tokens ∧ ∃ program : Tree .program,
      program.Spells tokens ∧ (∀ other : Tree .program, other.Spells tokens → other = program) ∧
        code = program.code target width := by
  obtain ⟨tokens, read, program, spells, -, -, drawn⟩ := spells_of_compileFor h
  refine ⟨tokens, read, program, spells, fun other => Tree.unique_program spells, ?_⟩
  rw [drawn, code_draw]

theorem code_eq_render_loop :
    compileFor "INPUT n\nWHILE n > 0 REPEAT\nLET n = n - 1\nENDWHILE" 2 .python =
        .ok "import sys\nn = float(input())\nwhile n>0:\n  n = n-1\n" ∧
      ∃ tokens, Lexer.tokens "INPUT n\nWHILE n > 0 REPEAT\nLET n = n - 1\nENDWHILE" = .ok tokens ∧
        ∃ program : Tree .program, program.Spells tokens ∧
          (∀ other : Tree .program, other.Spells tokens → other = program) ∧
          "import sys\nn = float(input())\nwhile n>0:\n  n = n-1\n" =
            program.code .python 2 := by
  have compiled : compileFor "INPUT n\nWHILE n > 0 REPEAT\nLET n = n - 1\nENDWHILE" 2 .python =
      .ok "import sys\nn = float(input())\nwhile n>0:\n  n = n-1\n" := by cbv
  exact ⟨compiled, code_eq_render compiled⟩

end Offside
