import Mathlib
import Offside.Proofs.Render.Code
import Offside.Proofs.Render.Nesting
import Offside.Proofs.Render.Recover

/-!
# No two programs have the same code

Code in Python tells its lines, the lines tell the program without its blank
lines, and that tells the words of the source without those of blank lines.
-/

namespace Offside

variable {source source' code : String} {width : Nat} {tokens tokens' : List Token}

/-- The lines of a program that was read are legible. -/
theorem legible_of_spells (read : Lexer.tokens source = .ok tokens)
    (noFloat : ∀ token ∈ tokens, token.word ≠ ⟨.identifier, "float"⟩) {program : Tree .program}
    (spells : program.Spells tokens) : ∀ line ∈ program.lines 0, line.2.Legible := by
  intro line member
  constructor
  · intro leaf leafMember
    exact spells.proper read leaf (program.mem_leaves_of_mem_lines member leafMember)
  · intro leaf leafMember
    have words := spells.word_mem (program.mem_leaves_of_mem_lines member leafMember)
    obtain ⟨token, tokenMember, same⟩ := List.mem_map.1 words
    rw [← same]
    exact noFloat token tokenMember

/-- A program without its blank lines is known from its code in Python. -/
theorem unblanked_eq_of_code_eq {program program' : Tree .program} (wide : 1 ≤ width)
    (legible : ∀ line ∈ program.lines 0, line.2.Legible)
    (legible' : ∀ line ∈ program'.lines 0, line.2.Legible)
    (same : program.code .python width = program'.code .python width) :
    program.unblanked = program'.unblanked := by
  have rendered := (String.append_right_inj _).1 same
  rw [Tree.render_eq_join, Tree.render_eq_join] at rendered
  have lines := CodeLine.join_injective wide legible legible' rendered
  refine (program.unblanked_unique rfl program' 0 [] [] ?_ nofun nofun).1
  rw [lines]

/-- Two sources that are compiled to the same code have the same words, but for those of blank
lines, if `float` is not one of them. -/
theorem collapsed_eq_of_compile_eq (wide : 1 ≤ width) (h : compile source width = .ok code)
    (h' : compile source' width = .ok code) (read : Lexer.tokens source = .ok tokens)
    (read' : Lexer.tokens source' = .ok tokens')
    (noFloat : ∀ token ∈ tokens, token.word ≠ ⟨.identifier, "float"⟩)
    (noFloat' : ∀ token ∈ tokens', token.word ≠ ⟨.identifier, "float"⟩) :
    collapsed (tokens.map Token.word) = collapsed (tokens'.map Token.word) := by
  rw [compile_eq_compileFor] at h h'
  obtain ⟨found, at_, program, spells, -, -, drawn⟩ := spells_of_compileFor h
  obtain ⟨found', at_', program', spells', -, -, drawn'⟩ := spells_of_compileFor h'
  obtain rfl : tokens = found := Except.ok.inj (read.symm.trans at_)
  obtain rfl : tokens' = found' := Except.ok.inj (read'.symm.trans at_')
  rw [code_draw] at drawn drawn'
  rw [spells.collapsed, spells'.collapsed, unblanked_eq_of_code_eq wide
    (legible_of_spells read noFloat spells) (legible_of_spells read' noFloat' spells')
    (drawn.symm.trans drawn')]

theorem collapsed_eq_of_compile_eq_loop : ∃ tokens tokens',
    Lexer.tokens "WHILE 1<2 REPEAT\nENDWHILE" = .ok tokens ∧
      Lexer.tokens "\nWHILE 1 < 2 REPEAT # and so on\n\nENDWHILE\n" = .ok tokens' ∧
        collapsed (tokens.map Token.word) = collapsed (tokens'.map Token.word) := by
  have compiled : compile "WHILE 1<2 REPEAT\nENDWHILE" 2 =
      .ok "import sys\nwhile 1<2:\n  pass\n" := by cbv
  have compiled' : compile "\nWHILE 1 < 2 REPEAT # and so on\n\nENDWHILE\n" 2 =
      .ok "import sys\nwhile 1<2:\n  pass\n" := by cbv
  have read : Lexer.tokens "WHILE 1<2 REPEAT\nENDWHILE" = .ok
      [⟨.keyword .while, "WHILE", ⟨0, 5⟩⟩, ⟨.number, "1", ⟨6, 7⟩⟩, ⟨.less, "<", ⟨7, 8⟩⟩,
        ⟨.number, "2", ⟨8, 9⟩⟩, ⟨.keyword .repeat, "REPEAT", ⟨10, 16⟩⟩,
        ⟨.newline, "\n", ⟨16, 17⟩⟩, ⟨.keyword .endWhile, "ENDWHILE", ⟨17, 25⟩⟩,
        ⟨.newline, "\n", ⟨25, 26⟩⟩, ⟨.endOfInput, "", ⟨26, 26⟩⟩] := by cbv
  have read' : Lexer.tokens "\nWHILE 1 < 2 REPEAT # and so on\n\nENDWHILE\n" = .ok
      [⟨.newline, "\n", ⟨0, 1⟩⟩, ⟨.keyword .while, "WHILE", ⟨1, 6⟩⟩, ⟨.number, "1", ⟨7, 8⟩⟩,
        ⟨.less, "<", ⟨9, 10⟩⟩, ⟨.number, "2", ⟨11, 12⟩⟩, ⟨.keyword .repeat, "REPEAT", ⟨13, 19⟩⟩,
        ⟨.newline, "\n", ⟨31, 32⟩⟩, ⟨.newline, "\n", ⟨32, 33⟩⟩,
        ⟨.keyword .endWhile, "ENDWHILE", ⟨33, 41⟩⟩, ⟨.newline, "\n", ⟨41, 42⟩⟩,
        ⟨.newline, "\n", ⟨42, 43⟩⟩, ⟨.endOfInput, "", ⟨43, 43⟩⟩] := by cbv
  exact ⟨_, _, read, read', collapsed_eq_of_compile_eq (by decide) compiled compiled' read read'
    (by decide) (by decide)⟩

end Offside
