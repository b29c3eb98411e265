import Offside.Proofs.Grammar.Apart

/-!
# Blank lines

A line end counts only if a line has begun. The others are those of blank lines,
at the front of a source or behind another line end. They are words of the
source and they are counted in its tree, but they are nothing else: without
them the words are those of the tree without its blank lines.
-/

namespace Offside

/-- The words without the line ends of blank lines. The flag tells whether no line has begun. -/
def collapse : (ended : Bool) → List Word → List Word
  | _, [] => []
  | ended, word :: words =>
    if word.kind = .newline then
      if ended then collapse true words else word :: collapse true words
    else word :: collapse false words

/-- The words of a source without those of blank lines: there is no line end at the front, and of
several line ends in a row the first is left. -/
def collapsed (words : List Word) : List Word := collapse true words

section

variable {word : Word} {words rest : List Word} {ended : Bool}

theorem collapse_cons (more : word.kind ≠ .newline) :
    collapse ended (word :: words) = word :: collapse false words := by
  rw [collapse, if_neg more]

theorem collapse_keyword (keyword : Keyword) (words : List Word) :
    collapse ended ((Leaf.fixed (.keyword keyword)).word :: words) =
      (Leaf.fixed (.keyword keyword)).word :: collapse false words :=
  collapse_cons nofun

theorem collapse_append (more : ∀ word ∈ words, word.kind ≠ .newline) :
    collapse false (words ++ rest) = words ++ collapse false rest := by
  induction words with
  | nil => rfl
  | cons word words ih =>
    rw [List.cons_append, collapse_cons (more word List.mem_cons_self),
      ih fun other member => more other (List.mem_cons_of_mem _ member)]
    rfl

theorem collapse_blankLeaves (count : Nat) (rest : List Word) :
    collapse true ((blankLeaves count).map Leaf.word ++ rest) = collapse true rest := by
  induction count with
  | zero => rfl
  | succ count ih => exact ih

theorem collapse_lineLeaves (blank : Nat) (rest : List Word) :
    collapse false ((lineLeaves blank).map Leaf.word ++ rest) =
      (lineLeaves 0).map Leaf.word ++ collapse true rest := by
  rw [← collapse_blankLeaves blank rest]
  rfl

end

/-- Whether a line has ended behind what belongs to a category. -/
def Category.endsLine : Category → Bool
  | .program | .blankLines | .statements | .statement | .body | .otherwise => true
  | _ => false

namespace Tree

/-- The tree without its blank lines. -/
def unblanked : {category : Category} → Tree category → Tree category
  | _, .program _ statements => .program 0 statements.unblanked
  | _, .blankLines _ => .blankLines 0
  | _, .nextStatement first others => .nextStatement first.unblanked others.unblanked
  | _, .statement command _ => .statement command.unblanked 0
  | _, .body statements => .body statements.unblanked
  | _, .branch test _ consequent alternative =>
    .branch test 0 consequent.unblanked alternative.unblanked
  | _, .loop test _ inner => .loop test 0 inner.unblanked
  | _, .function name names _ inner => .function name names 0 inner.unblanked
  | _, .otherwise _ inner => .otherwise 0 inner.unblanked
  | _, tree => tree

variable {category : Category}

theorem not_newline_of_inline (tree : Tree category) (inline_ : category.isInline = true) :
    ∀ word ∈ tree.leaves.map Leaf.word, word.kind ≠ .newline := by
  intro word member newline
  obtain ⟨leaf, leafMember, rfl⟩ := List.mem_map.1 member
  have written := tree.isWritten_of_mem_leaves inline_ leaf leafMember
  rw [Leaf.kind, newline] at written
  cases written

theorem collapse_inline (tree : Tree category) (inline_ : category.isInline = true)
    (rest : List Word) : collapse false (tree.leaves.map Leaf.word ++ rest) =
      tree.leaves.map Leaf.word ++ collapse false rest :=
  collapse_append (tree.not_newline_of_inline inline_)

/-- Where a line may begin, the words of a tree without those of blank lines are the words of the
tree without its blank lines. -/
theorem collapse_leaves (tree : Tree category) (outline : category.isInline = false)
    (rest : List Word) : collapse true (tree.leaves.map Leaf.word ++ rest) =
      tree.unblanked.leaves.map Leaf.word ++ collapse category.endsLine rest := by
  induction tree generalizing rest with
  | program blank statements ih =>
    simp only [leaves, unblanked, List.map_append, List.append_assoc, collapse_blankLeaves]
    exact ih rfl rest
  | blankLines count => exact collapse_blankLeaves count rest
  | noStatement => rfl
  | nextStatement first others ih ih' =>
    simp only [leaves, unblanked, List.map_append, List.append_assoc]
    rw [ih rfl]
    exact congrArg _ (ih' rfl rest)
  | statement command blank ih =>
    simp only [leaves, unblanked, List.map_append, List.append_assoc]
    rw [ih rfl]
    exact congrArg _ (collapse_lineLeaves blank rest)
  | body statements ih => exact ih rfl rest
  | branch test blank consequent alternative ih ih' ih'' =>
    have consequent := ih' rfl
    have alternative := ih'' rfl
    simp only [Category.endsLine] at consequent alternative ⊢
    simp only [leaves, unblanked, List.map_append, List.map_cons, List.map_nil, List.append_assoc,
      List.cons_append, List.nil_append]
    rw [collapse_keyword, collapse_inline test rfl, collapse_keyword, collapse_lineLeaves,
      consequent, alternative, collapse_keyword]
  | loop test blank inner ih ih' =>
    have inner := ih' rfl
    simp only [Category.endsLine] at inner ⊢
    simp only [leaves, unblanked, List.map_append, List.map_cons, List.map_nil, List.append_assoc,
      List.cons_append, List.nil_append]
    rw [collapse_keyword, collapse_inline test rfl, collapse_keyword, collapse_lineLeaves, inner,
      collapse_keyword]
  | function name names blank inner ih ih' =>
    have inner := ih' rfl
    simp only [Category.endsLine] at inner ⊢
    simp only [leaves, unblanked, List.map_append, List.map_cons, List.map_nil, List.append_assoc,
      List.cons_append, List.nil_append]
    rw [collapse_keyword, collapse_cons, collapse_cons, collapse_inline names rfl, collapse_cons,
      collapse_lineLeaves, inner, collapse_keyword]
    all_goals intro newline; cases newline
  | noElse => rfl
  | otherwise blank inner ih =>
    have inner := ih rfl
    simp only [Category.endsLine] at inner ⊢
    simp only [leaves, unblanked, List.map_append, List.map_cons, List.append_assoc,
      List.cons_append]
    rw [collapse_keyword, collapse_lineLeaves, inner]
  | print printed => exact congrArg _ (collapse_inline printed rfl rest)
  | assign name value => exact congrArg _ (congrArg _ (congrArg _ (collapse_inline value rfl rest)))
  | input name => rfl
  | giveBack value => exact congrArg _ (collapse_inline value rfl rest)
  | _ => cases outline

end Tree

/-- Without those of blank lines, the words of a program are those of the program without its blank
lines. -/
theorem Tree.Spells.collapsed {program : Tree .program} {tokens : List Token}
    (spells : program.Spells tokens) :
    collapsed (tokens.map Token.word) = program.unblanked.leaves.map Leaf.word ++ [.last] := by
  rw [spells]
  exact program.collapse_leaves rfl [.last]

end Offside
