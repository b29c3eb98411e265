import Offside.Proofs.Grammar.Apart
import Offside.Proofs.Python.Lexical
import Offside.Proofs.Render.Code
import Offside.Proofs.Render.Lines

/-!
# Names and numbers are taken over as they are

The names and the numbers of a source come back in the lines of its code, in the
same order and with the same text, and so do the parameters of its functions.
Nothing is renamed, rewritten or looked at on the way. So the code keeps to the
rules of Python for names, numbers and parameters exactly if the source does: the
names of the source must not be reserved, its numbers not padded with zeros, and
the parameters of each of its functions distinct.
-/

namespace Offside

/-- The texts of the words of a kind. -/
def textsOf (kind : Token.Kind) (words : List Word) : List String :=
  (words.filter (·.kind == kind)).map Word.text

/-- For each `FUNC`, the names between the parentheses that follow. -/
def parametersOf : List Word → List (List String)
  | [] => []
  | word :: words =>
    if word.kind = .keyword .func then
      textsOf .identifier ((words.drop 2).takeWhile (·.kind != .closeParen)) :: parametersOf words
    else parametersOf words

namespace CodeLine

/-- The words in some lines. -/
def words (lines : List (Nat × CodeLine)) : List Word :=
  lines.flatMap fun line => line.2.leaves.map Leaf.word

/-- The parameters that a line declares, if it is the first of a function. -/
def parameters? : CodeLine → Option (List String)
  | .function _ names => some (textsOf .identifier (names.leaves.map Leaf.word))
  | _ => none

/-- The parameters that some lines declare, for each function. -/
def parameters (lines : List (Nat × CodeLine)) : List (List String) :=
  lines.filterMap fun line => line.2.parameters?

@[simp] theorem words_nil : words [] = [] := rfl

theorem words_cons (line : Nat × CodeLine) (lines : List (Nat × CodeLine)) :
    words (line :: lines) = line.2.leaves.map Leaf.word ++ words lines := rfl

theorem words_append (lines lines' : List (Nat × CodeLine)) :
    words (lines ++ lines') = words lines ++ words lines' := List.flatMap_append

theorem parameters_append (lines lines' : List (Nat × CodeLine)) :
    parameters (lines ++ lines') = parameters lines ++ parameters lines' := List.filterMap_append

end CodeLine

/-! ## Names and numbers -/

section

variable {kind other : Token.Kind} {words words' : List Word}

theorem textsOf_append :
    textsOf kind (words ++ words') = textsOf kind words ++ textsOf kind words' := by
  rw [textsOf, List.filter_append, List.map_append]
  rfl

@[simp] theorem textsOf_nil : textsOf kind [] = [] := rfl

theorem textsOf_cons_congr {word : Word} (same : textsOf kind words = textsOf kind words') :
    textsOf kind (word :: words) = textsOf kind (word :: words') := by
  rw [← List.singleton_append, textsOf_append, same, ← textsOf_append]
  rfl

/-- A word that is known from its kind has no text of its own. -/
theorem textsOf_fixed (own : kind.hasText = true) (plain : other.hasText = false) :
    textsOf kind ((Leaf.fixed other).word :: words) = textsOf kind words := by
  have not : ((Leaf.fixed other).word.kind == kind) = false := by
    refine beq_eq_false_iff_ne.2 fun same => ?_
    have same : other = kind := same
    rw [← same, plain] at own
    cases own
  rw [textsOf, List.filter_cons, not]
  rfl

theorem textsOf_blankLeaves (own : kind.hasText = true) (count : Nat) :
    textsOf kind ((blankLeaves count).map Leaf.word) = [] := by
  induction count with
  | zero => rfl
  | succ count ih => exact (textsOf_fixed own rfl).trans ih

theorem textsOf_lineLeaves (own : kind.hasText = true) (blank : Nat) :
    textsOf kind ((lineLeaves blank).map Leaf.word) = [] :=
  (textsOf_fixed own rfl).trans (textsOf_blankLeaves own blank)

end

namespace Tree

variable {category : Category} {kind : Token.Kind}

/-- The lines of a tree have the names, the numbers and the literals of the tree. -/
theorem textsOf_lines (tree : Tree category) (outline : category.isInline = false)
    (own : kind.hasText = true) (depth : Nat) :
    textsOf kind (CodeLine.words (tree.lines depth)) =
      textsOf kind (tree.leaves.map Leaf.word) := by
  have fixed (other : Token.Kind) (plain : other.hasText = false) (words : List Word) :
      textsOf kind ((Leaf.fixed other).word :: words) = textsOf kind words :=
    textsOf_fixed own plain
  have spelled (keyword : Keyword) (words : List Word) :=
    fixed (.keyword keyword) rfl words
  induction tree generalizing depth with
  | program blank statements ih =>
    rw [leaves, List.map_append, textsOf_append, textsOf_blankLeaves own]
    exact ih rfl depth
  | blankLines count => exact (textsOf_blankLeaves own count).symm
  | noStatement | noElse => rfl
  | nextStatement first others ih ih' =>
    rw [leaves, lines, List.map_append, CodeLine.words_append, textsOf_append, textsOf_append,
      ih rfl depth, ih' rfl depth]
  | statement command blank ih =>
    rw [leaves, lines, List.map_append, textsOf_append, textsOf_lineLeaves own, List.append_nil]
    exact ih rfl depth
  | body statements ih =>
    cases statements with
    | noStatement => rfl
    | nextStatement first others => exact ih rfl depth
  | branch test blank consequent alternative ih ih' ih'' =>
    simp [lines, leaves, CodeLine.words_cons, CodeLine.words_append, CodeLine.leaves,
      textsOf_append, spelled, textsOf_lineLeaves own, ih' rfl, ih'' rfl]
  | loop test blank inner ih ih' =>
    simp [lines, leaves, CodeLine.words_cons, CodeLine.leaves, textsOf_append, spelled,
      textsOf_lineLeaves own, ih' rfl]
  | function name names blank inner ih ih' =>
    rw [lines, leaves, CodeLine.words_cons, List.map_cons, List.map_cons, spelled]
    refine textsOf_cons_congr ?_
    simp [textsOf_append, spelled, fixed .openParen rfl, fixed .closeParen rfl,
      textsOf_lineLeaves own, ih' rfl]
  | otherwise blank inner ih =>
    simp [lines, leaves, CodeLine.words_cons, CodeLine.leaves, textsOf_append, spelled,
      textsOf_lineLeaves own, ih rfl]
  | print printed | giveBack value | input name =>
    simp [lines, leaves, CodeLine.words_cons, CodeLine.leaves, spelled]
  | assign name value =>
    rw [lines, leaves, CodeLine.words_cons, List.map_cons, List.map_cons, spelled]
    refine textsOf_cons_congr ?_
    simp [fixed .assign rfl]
  | _ => cases outline

end Tree

/-! ## Parameters -/

section

variable {word : Word} {words rest : List Word}

theorem parametersOf_cons (other : word.kind ≠ .keyword .func) :
    parametersOf (word :: words) = parametersOf words := by
  rw [parametersOf, if_neg other]

theorem parametersOf_keyword (keyword : Keyword) (other : keyword ≠ .func) (words : List Word) :
    parametersOf ((Leaf.fixed (.keyword keyword)).word :: words) = parametersOf words :=
  parametersOf_cons fun same => other (Token.Kind.keyword.inj same)

theorem parametersOf_func (words : List Word) :
    parametersOf ((Leaf.fixed (.keyword .func)).word :: words) =
      textsOf .identifier ((words.drop 2).takeWhile (·.kind != .closeParen)) ::
        parametersOf words := if_pos rfl

theorem parametersOf_append (other : ∀ word ∈ words, word.kind ≠ .keyword .func) :
    parametersOf (words ++ rest) = parametersOf rest := by
  induction words with
  | nil => rfl
  | cons word words ih =>
    rw [List.cons_append, parametersOf_cons (other word List.mem_cons_self)]
    exact ih fun next member => other next (List.mem_cons_of_mem _ member)

theorem parametersOf_blankLeaves (count : Nat) :
    parametersOf ((blankLeaves count).map Leaf.word ++ rest) = parametersOf rest := by
  induction count with
  | zero => rfl
  | succ count ih => exact ih

theorem parametersOf_lineLeaves (blank : Nat) :
    parametersOf ((lineLeaves blank).map Leaf.word ++ rest) = parametersOf rest :=
  parametersOf_blankLeaves blank

end

namespace Tree

variable {category : Category}

theorem parametersOf_inline (tree : Tree category) (inline_ : category.isInline = true)
    (rest : List Word) : parametersOf (tree.leaves.map Leaf.word ++ rest) = parametersOf rest := by
  refine parametersOf_append fun word member func => ?_
  obtain ⟨leaf, leafMember, rfl⟩ := List.mem_map.1 member
  have written := tree.isWritten_of_mem_leaves inline_ leaf leafMember
  rw [Leaf.kind, func] at written
  cases written

theorem kind_moreParameters (tree : Tree .moreParameters) :
    ∀ word ∈ tree.leaves.map Leaf.word, word.kind ≠ .closeParen := by
  match tree with
  | .lastParameter => nofun
  | .nextParameter name others =>
    intro word member
    rcases List.mem_cons.1 member with rfl | member
    · nofun
    rcases List.mem_cons.1 member with rfl | member
    · nofun
    exact others.kind_moreParameters word member

theorem kind_parameters (tree : Tree .parameters) :
    ∀ word ∈ tree.leaves.map Leaf.word, word.kind ≠ .closeParen := by
  cases tree with
  | noParameters => nofun
  | parameters first others =>
    intro word member
    rcases List.mem_cons.1 member with rfl | member
    · nofun
    · exact others.kind_moreParameters word member

theorem parametersOf_function (name : String) (names : Tree .parameters) (rest : List Word) :
    parametersOf ((Leaf.fixed (.keyword .func)).word :: (Leaf.declared .function name).word ::
        (Leaf.fixed .openParen).word ::
          (names.leaves.map Leaf.word ++ (Leaf.fixed .closeParen).word :: rest)) =
      textsOf .identifier (names.leaves.map Leaf.word) :: parametersOf rest := by
  -- the first closing parenthesis is the one behind the parameters
  have within : ∀ word ∈ names.leaves.map Leaf.word, (word.kind != .closeParen) = true :=
    fun word member => bne_iff_ne.2 (names.kind_parameters word member)
  rw [parametersOf_func, List.drop_succ_cons, List.drop_succ_cons, List.drop_zero,
    List.takeWhile_append_of_pos within, List.takeWhile_cons_of_neg (by decide), List.append_nil]
  exact congrArg _ (names.parametersOf_inline rfl _)

/-- The lines of a tree declare the parameters of its functions. -/
theorem parametersOf_lines (tree : Tree category) (outline : category.isInline = false)
    (depth : Nat) (rest : List Word) : parametersOf (tree.leaves.map Leaf.word ++ rest) =
      CodeLine.parameters (tree.lines depth) ++ parametersOf rest := by
  induction tree generalizing depth rest with
  | program blank statements ih =>
    rw [leaves, List.map_append, List.append_assoc, parametersOf_blankLeaves]
    exact ih rfl depth rest
  | blankLines count => exact parametersOf_blankLeaves count
  | noStatement | noElse => rfl
  | nextStatement first others ih ih' =>
    rw [leaves, lines, List.map_append, List.append_assoc, ih rfl depth, ih' rfl depth,
      CodeLine.parameters_append, List.append_assoc]
  | statement command blank ih =>
    rw [leaves, List.map_append, List.append_assoc, ih rfl depth, parametersOf_lineLeaves]
    rfl
  | body statements ih =>
    cases statements with
    | noStatement => rfl
    | nextStatement first others => exact ih rfl depth rest
  | branch test blank consequent alternative ih ih' ih'' =>
    simp only [leaves, List.map_append, List.map_cons, List.map_nil, List.append_assoc,
      List.cons_append, List.nil_append]
    rw [parametersOf_keyword .if (by decide), test.parametersOf_inline rfl,
      parametersOf_keyword .then (by decide), parametersOf_lineLeaves, ih' rfl (depth + 1),
      ih'' rfl depth, parametersOf_keyword .endIf (by decide), ← List.append_assoc,
      ← CodeLine.parameters_append]
    rfl
  | loop test blank inner ih ih' =>
    simp only [leaves, List.map_append, List.map_cons, List.map_nil, List.append_assoc,
      List.cons_append, List.nil_append]
    rw [parametersOf_keyword .while (by decide), test.parametersOf_inline rfl,
      parametersOf_keyword .repeat (by decide), parametersOf_lineLeaves, ih' rfl (depth + 1),
      parametersOf_keyword .endWhile (by decide)]
    rfl
  | function name names blank inner ih ih' =>
    simp only [leaves, List.map_append, List.map_cons, List.map_nil, List.append_assoc,
      List.cons_append, List.nil_append]
    rw [parametersOf_function, parametersOf_lineLeaves, ih' rfl (depth + 1),
      parametersOf_keyword .endFunc (by decide)]
    rfl
  | otherwise blank inner ih =>
    rw [leaves, List.map_cons, List.map_append, List.cons_append, List.append_assoc,
      parametersOf_keyword .else (by decide), parametersOf_lineLeaves, ih rfl (depth + 1)]
    rfl
  | print printed => exact printed.parametersOf_inline rfl rest
  | assign name value => exact value.parametersOf_inline rfl rest
  | giveBack value => exact value.parametersOf_inline rfl rest
  | input name => rfl
  | _ => cases outline

end Tree

/-! ## The rules of Python -/

theorem mem_textsOf {kind : Token.Kind} {words : List Word} {text : String} :
    text ∈ textsOf kind words ↔ ⟨kind, text⟩ ∈ words := by
  simp only [textsOf, List.mem_map, List.mem_filter, beq_iff_eq]
  constructor
  · intro found
    obtain ⟨word, ⟨member, rfl⟩, rfl⟩ := found
    exact member
  · intro member
    exact ⟨_, ⟨member, rfl⟩, rfl⟩

namespace Tree.Spells

variable {program : Tree .program} {tokens : List Token}

theorem textsOf_eq {kind : Token.Kind} (spells : program.Spells tokens)
    (own : kind.hasText = true) : textsOf kind (CodeLine.words (program.lines 0)) =
      textsOf kind (tokens.map Token.word) := by
  have last : textsOf kind [Word.last] = [] := textsOf_fixed own rfl
  rw [program.textsOf_lines rfl own, spells, textsOf_append, last, List.append_nil]

theorem parameters_eq (spells : program.Spells tokens) :
    CodeLine.parameters (program.lines 0) = parametersOf (tokens.map Token.word) := by
  rw [spells, program.parametersOf_lines rfl 0]
  exact (List.append_nil _).symm

end Tree.Spells

/-- The names in the code for a source are not reserved exactly if those of the source are not, its
numbers are literals exactly if those of the source are not padded, and the parameters of each
function are distinct exactly if they are so in the source. -/
theorem code_keeps_rules_iff {source code : String} {width : Nat}
    (h : compile source width = .ok code) :
    ∃ tokens, Lexer.tokens source = .ok tokens ∧ ∃ program : Tree .program,
      program.Spells tokens ∧
        code = "import sys\n" ++ CodeLine.join .python width (program.lines 0) ∧
        ((∀ name ∈ textsOf .identifier (CodeLine.words (program.lines 0)),
            name ∉ Python.reserved) ↔
          ∀ name ∈ textsOf .identifier (tokens.map Token.word), name ∉ Python.reserved) ∧
        ((∀ number ∈ textsOf .number (CodeLine.words (program.lines 0)),
            Python.IsNumeral number.toList) ↔
          ∀ number ∈ textsOf .number (tokens.map Token.word), ¬Python.IsPadded number.toList) ∧
        ((∀ names ∈ CodeLine.parameters (program.lines 0), names.Nodup) ↔
          ∀ names ∈ parametersOf (tokens.map Token.word), names.Nodup) := by
  rw [compile_eq_compileFor] at h
  obtain ⟨tokens, read, program, spells, -, rfl⟩ := code_eq_render h
  refine ⟨tokens, read, program, spells, ?_, ?_, ?_, ?_⟩
  · rw [Tree.code, Tree.render_eq_join]
    rfl
  · rw [spells.textsOf_eq rfl]
  · rw [spells.textsOf_eq rfl]
    refine forall₂_congr fun number member => Python.isNumeral_iff ?_
    exact Lexer.proper_of_tokens read _ (mem_textsOf.1 member)
  · rw [spells.parameters_eq]

theorem code_keeps_rules_iff_sum :
    compile "FUNC f(a, b)\nRETURN a + 0.5\nENDFUNC" defaultWidth =
        .ok "import sys\ndef f(a, b):\n    return a+0.5\n" ∧
      ∃ program : Tree .program, "import sys\ndef f(a, b):\n    return a+0.5\n" =
          "import sys\n" ++ CodeLine.join .python defaultWidth (program.lines 0) ∧
        (∀ name ∈ textsOf .identifier (CodeLine.words (program.lines 0)),
          name ∉ Python.reserved) ∧
        (∀ number ∈ textsOf .number (CodeLine.words (program.lines 0)),
          Python.IsNumeral number.toList) ∧
        ∀ names ∈ CodeLine.parameters (program.lines 0), names.Nodup := by
  have compiled : compile "FUNC f(a, b)\nRETURN a + 0.5\nENDFUNC" defaultWidth =
      .ok "import sys\ndef f(a, b):\n    return a+0.5\n" := by cbv
  have read : Lexer.tokens "FUNC f(a, b)\nRETURN a + 0.5\nENDFUNC" = .ok
      [⟨.keyword .func, "FUNC", ⟨0, 4⟩⟩, ⟨.identifier, "f", ⟨5, 6⟩⟩, ⟨.openParen, "(", ⟨6, 7⟩⟩,
        ⟨.identifier, "a", ⟨7, 8⟩⟩, ⟨.comma, ",", ⟨8, 9⟩⟩, ⟨.identifier, "b", ⟨10, 11⟩⟩,
        ⟨.closeParen, ")", ⟨11, 12⟩⟩, ⟨.newline, "\n", ⟨12, 13⟩⟩,
        ⟨.keyword .return, "RETURN", ⟨13, 19⟩⟩, ⟨.identifier, "a", ⟨20, 21⟩⟩,
        ⟨.plus, "+", ⟨22, 23⟩⟩, ⟨.number, "0.5", ⟨24, 27⟩⟩, ⟨.newline, "\n", ⟨27, 28⟩⟩,
        ⟨.keyword .endFunc, "ENDFUNC", ⟨28, 35⟩⟩, ⟨.newline, "\n", ⟨35, 36⟩⟩,
        ⟨.endOfInput, "", ⟨36, 36⟩⟩] := by cbv
  obtain ⟨tokens, found, program, -, same, names, numbers, parameters⟩ :=
    code_keeps_rules_iff compiled
  obtain rfl := Except.ok.inj (read.symm.trans found)
  refine ⟨compiled, program, same, names.2 (by decide), numbers.2 ?_, parameters.2 (by decide)⟩
  intro number member padded
  obtain rfl : number = "0.5" := by simpa [textsOf, Token.word] using member
  exact padded.1 (by decide)

/-- A source may break all three rules, and is compiled nevertheless. -/
theorem code_breaks_rules :
    compile "FUNC if(a, a)\nLET x = 007\nENDFUNC" defaultWidth =
        .ok "import sys\ndef if(a, a):\n    x = 007\n" ∧
      ∃ tokens, Lexer.tokens "FUNC if(a, a)\nLET x = 007\nENDFUNC" = .ok tokens ∧
        ∃ program : Tree .program, program.Spells tokens ∧
          "import sys\ndef if(a, a):\n    x = 007\n" =
            "import sys\n" ++ CodeLine.join .python defaultWidth (program.lines 0) ∧
          (¬∀ name ∈ textsOf .identifier (CodeLine.words (program.lines 0)),
            name ∉ Python.reserved) ∧
          (¬∀ number ∈ textsOf .number (CodeLine.words (program.lines 0)),
            Python.IsNumeral number.toList) ∧
          ¬∀ names ∈ CodeLine.parameters (program.lines 0), names.Nodup := by
  have read : Lexer.tokens "FUNC if(a, a)\nLET x = 007\nENDFUNC" = .ok
      [⟨.keyword .func, "FUNC", ⟨0, 4⟩⟩, ⟨.identifier, "if", ⟨5, 7⟩⟩, ⟨.openParen, "(", ⟨7, 8⟩⟩,
        ⟨.identifier, "a", ⟨8, 9⟩⟩, ⟨.comma, ",", ⟨9, 10⟩⟩, ⟨.identifier, "a", ⟨11, 12⟩⟩,
        ⟨.closeParen, ")", ⟨12, 13⟩⟩, ⟨.newline, "\n", ⟨13, 14⟩⟩,
        ⟨.keyword .let, "LET", ⟨14, 17⟩⟩, ⟨.identifier, "x", ⟨18, 19⟩⟩, ⟨.assign, "=", ⟨20, 21⟩⟩,
        ⟨.number, "007", ⟨22, 25⟩⟩, ⟨.newline, "\n", ⟨25, 26⟩⟩,
        ⟨.keyword .endFunc, "ENDFUNC", ⟨26, 33⟩⟩, ⟨.newline, "\n", ⟨33, 34⟩⟩,
        ⟨.endOfInput, "", ⟨34, 34⟩⟩] := by cbv
  refine ⟨by cbv, _, read, .program 0 (.nextStatement (.statement (.function "if"
    (.parameters "a" (.nextParameter "a" .lastParameter)) 0 (.body (.nextStatement (.statement
      (.assign "x" (.expression (.term (.plain (.number "007")) .lastFactor) .lastTerm)) 0)
        .noStatement))) 0) .noStatement), ?_, ?_, ?_, ?_, ?_⟩
  · rw [Tree.Spells]
    decide
  · decide
  · exact fun free => free "if" (by decide) (by decide)
  · intro numerals
    have number : Word.IsNumber "007".toList :=
      ⟨_, List.cons_ne_nil _ _, List.all_eq_true.1 rfl, .inl rfl⟩
    have padded : Python.IsPadded "007".toList := ⟨by decide, rfl, '7', by decide, by decide⟩
    exact (Python.isNumeral_iff number).1 (numerals "007" (by decide)) padded
  · intro distinct
    exact absurd (distinct ["a", "a"] (by decide)) (by decide)

end Offside
