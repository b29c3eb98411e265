import Offside.Proofs.Grammar.Apart

/-!
# The outline of a program

How many statements a program has and how deep its blocks are nested does not
depend on what stands within a line: a statement begins with a keyword of its
own, a block is entered by a keyword and left by another. So both can be read
off the words one by one, with nothing kept in mind but the depth.
-/

namespace Offside

namespace Tree

/-- The number of statements in a tree, at all depths. -/
def statementCount : {category : Category} → Tree category → Nat
  | _, .program _ statements => statements.statementCount
  | _, .nextStatement first others => first.statementCount + others.statementCount
  | _, .statement command _ => command.statementCount + 1
  | _, .body statements => statements.statementCount
  | _, .branch _ _ consequent alternative =>
    consequent.statementCount + alternative.statementCount
  | _, .loop _ _ inner => inner.statementCount
  | _, .function _ _ _ inner => inner.statementCount
  | _, .otherwise _ inner => inner.statementCount
  | _, _ => 0

/-- The depths of the blocks in a tree, in their order. The tree itself stands at this depth, and
what belongs to `ELSE` at the depth of the block before it. -/
def blockDepths : (depth : Nat) → {category : Category} → Tree category → List Nat
  | depth, _, .program _ statements => statements.blockDepths depth
  | depth, _, .nextStatement first others => first.blockDepths depth ++ others.blockDepths depth
  | depth, _, .statement command _ => command.blockDepths depth
  | depth, _, .body statements => statements.blockDepths depth
  | depth, _, .branch _ _ consequent alternative =>
    (depth + 1) :: (consequent.blockDepths (depth + 1) ++ alternative.blockDepths (depth + 1))
  | depth, _, .loop _ _ inner => (depth + 1) :: inner.blockDepths (depth + 1)
  | depth, _, .function _ _ _ inner => (depth + 1) :: inner.blockDepths (depth + 1)
  | depth, _, .otherwise _ inner => depth :: inner.blockDepths depth
  | _, _, _ => []

end Tree

/-! ## Reading the outline off the leaves -/

theorem Token.Kind.not_beginsCommand_of_isWritten {kind : Token.Kind}
    (h : kind.isWritten = true) : kind.beginsCommand = false := by
  cases kind with
  | keyword word => cases word <;> first | rfl | cases h
  | _ => rfl

/-- The number of commands that begin among the leaves. -/
def commandCount (leaves : List Leaf) : Nat := leaves.countP fun leaf => leaf.kind.beginsCommand

@[simp] theorem commandCount_nil : commandCount [] = 0 := rfl

@[simp] theorem commandCount_append (leaves more : List Leaf) :
    commandCount (leaves ++ more) = commandCount leaves + commandCount more :=
  List.countP_append

@[simp] theorem commandCount_fixed (kind : Token.Kind) (leaves : List Leaf) :
    commandCount (.fixed kind :: leaves) =
      commandCount leaves + if kind.beginsCommand = true then 1 else 0 :=
  List.countP_cons

@[simp] theorem commandCount_declared (role : Role) (name : String) (leaves : List Leaf) :
    commandCount (.declared role name :: leaves) = commandCount leaves :=
  List.countP_cons

@[simp] theorem commandCount_blankLeaves (count : Nat) : commandCount (blankLeaves count) = 0 := by
  refine List.countP_eq_zero.2 fun leaf member => ?_
  rw [List.eq_of_mem_replicate member]
  decide

@[simp] theorem commandCount_lineLeaves (blank : Nat) : commandCount (lineLeaves blank) = 0 :=
  commandCount_blankLeaves (blank + 1)

/-- How deep what follows is nested, and the depths of the blocks so far. -/
structure Nesting where
  depth : Nat
  blocks : List Nat

namespace Nesting

/-- The nesting behind a word of some kind. -/
def past (nesting : Nesting) : Token.Kind → Nesting
  | .keyword .if | .keyword .while | .keyword .func =>
    ⟨nesting.depth + 1, nesting.blocks ++ [nesting.depth + 1]⟩
  | .keyword .else => ⟨nesting.depth, nesting.blocks ++ [nesting.depth]⟩
  | .keyword .endIf | .keyword .endWhile | .keyword .endFunc =>
    ⟨nesting.depth - 1, nesting.blocks⟩
  | _ => nesting

/-- The nesting behind a leaf. -/
def behind (nesting : Nesting) (leaf : Leaf) : Nesting := nesting.past leaf.kind

/-- The nesting behind some leaves. -/
def behindAll (nesting : Nesting) (leaves : List Leaf) : Nesting :=
  leaves.foldl Nesting.behind nesting

variable {nesting : Nesting} {leaf : Leaf} {leaves : List Leaf}

@[simp] theorem behind_fixed (kind : Token.Kind) :
    nesting.behind (.fixed kind) = nesting.past kind :=
  rfl

@[simp] theorem behind_declared (role : Role) (name : String) :
    nesting.behind (.declared role name) = nesting :=
  rfl

@[simp] theorem behindAll_nil (nesting : Nesting) : nesting.behindAll [] = nesting := rfl

@[simp] theorem behindAll_cons (nesting : Nesting) (leaf : Leaf) (leaves : List Leaf) :
    nesting.behindAll (leaf :: leaves) = (nesting.behind leaf).behindAll leaves := rfl

@[simp] theorem behindAll_append (nesting : Nesting) (leaves more : List Leaf) :
    nesting.behindAll (leaves ++ more) = (nesting.behindAll leaves).behindAll more :=
  List.foldl_append

theorem past_of_isWritten {kind : Token.Kind} (written : kind.isWritten = true) :
    nesting.past kind = nesting := by
  cases kind with
  | keyword word => cases word <;> first | rfl | cases written
  | _ => rfl

theorem behindAll_of_written (written : ∀ leaf ∈ leaves, leaf.kind.isWritten = true) :
    nesting.behindAll leaves = nesting := by
  induction leaves with
  | nil => rfl
  | cons leaf leaves ih =>
    rw [behindAll_cons, behind, past_of_isWritten (written leaf List.mem_cons_self)]
    exact ih fun other member => written other (List.mem_cons_of_mem _ member)

@[simp] theorem behindAll_blankLeaves (count : Nat) :
    nesting.behindAll (blankLeaves count) = nesting := by
  induction count with
  | zero => rfl
  | succ count ih => exact ih

@[simp] theorem behindAll_lineLeaves (blank : Nat) :
    nesting.behindAll (lineLeaves blank) = nesting :=
  behindAll_blankLeaves blank

end Nesting

namespace Tree

variable {category : Category}

theorem behindAll_inline (tree : Tree category) (inline_ : category.isInline = true)
    (nesting : Nesting) : nesting.behindAll tree.leaves = nesting :=
  Nesting.behindAll_of_written (tree.isWritten_of_mem_leaves inline_)

/-- Behind a tree the depth is what it was, and the blocks of the tree have been added. -/
theorem behindAll_leaves (tree : Tree category) (outline : category.isInline = false)
    (nesting : Nesting) : nesting.behindAll tree.leaves =
      ⟨nesting.depth, nesting.blocks ++ tree.blockDepths nesting.depth⟩ := by
  induction tree generalizing nesting with
  | program blank statements ih => simp [leaves, blockDepths, ih rfl]
  | blankLines count => simp [leaves, blockDepths]
  | noStatement => simp [leaves, blockDepths]
  | nextStatement first others ih ih' => simp [leaves, blockDepths, ih rfl, ih' rfl]
  | statement command blank ih => simp [leaves, blockDepths, ih rfl]
  | body statements ih => simp [leaves, blockDepths, ih rfl]
  | branch test blank consequent alternative ih ih' ih'' =>
    simp [leaves, blockDepths, ih' rfl, ih'' rfl, test.behindAll_inline rfl, Nesting.past]
  | loop test blank inner ih ih' =>
    simp [leaves, blockDepths, ih' rfl, test.behindAll_inline rfl, Nesting.past]
  | function name names blank inner ih ih' =>
    simp [leaves, blockDepths, ih' rfl, names.behindAll_inline rfl, Nesting.past]
  | noElse => simp [leaves, blockDepths]
  | otherwise blank inner ih =>
    simp [leaves, blockDepths, ih rfl, Nesting.past]
  | print printed =>
    simp [leaves, blockDepths, printed.behindAll_inline rfl, Nesting.past]
  | assign name value =>
    simp [leaves, blockDepths, value.behindAll_inline rfl, Nesting.past]
  | input name => simp [leaves, blockDepths, Nesting.past]
  | giveBack value =>
    simp [leaves, blockDepths, value.behindAll_inline rfl, Nesting.past]
  | _ => cases outline

/-! ## Counting statements -/

theorem commandCount_inline (tree : Tree category) (inline_ : category.isInline = true) :
    commandCount tree.leaves = 0 := by
  refine List.countP_eq_zero.2 fun leaf member begins => ?_
  have none := Token.Kind.not_beginsCommand_of_isWritten
    (tree.isWritten_of_mem_leaves inline_ leaf member)
  rw [none] at begins
  cases begins

/-- A command begins with a keyword of its own, and with it the statement. -/
theorem commandCount_leaves (tree : Tree category) (outline : category.isInline = false) :
    commandCount tree.leaves = tree.statementCount + if category = .command then 1 else 0 := by
  induction tree with
  | program blank statements ih => simp [leaves, statementCount, ih rfl]
  | blankLines count => simp [leaves, statementCount]
  | noStatement => simp [leaves, statementCount]
  | nextStatement first others ih ih' => simp [leaves, statementCount, ih rfl, ih' rfl]
  | statement command blank ih => simp [leaves, statementCount, ih rfl]
  | body statements ih => simp [leaves, statementCount, ih rfl]
  | branch test blank consequent alternative ih ih' ih'' =>
    simp [leaves, statementCount, ih' rfl, ih'' rfl, test.commandCount_inline rfl,
      Token.Kind.beginsCommand]
  | loop test blank inner ih ih' =>
    simp [leaves, statementCount, ih' rfl, test.commandCount_inline rfl, Token.Kind.beginsCommand]
  | function name names blank inner ih ih' =>
    simp [leaves, statementCount, ih' rfl, names.commandCount_inline rfl, Token.Kind.beginsCommand]
  | noElse => simp [leaves, statementCount]
  | otherwise blank inner ih => simp [leaves, statementCount, ih rfl, Token.Kind.beginsCommand]
  | print printed =>
    simp [leaves, statementCount, printed.commandCount_inline rfl, Token.Kind.beginsCommand]
  | assign name value =>
    simp [leaves, statementCount, value.commandCount_inline rfl, Token.Kind.beginsCommand]
  | input name => simp [leaves, statementCount, Token.Kind.beginsCommand]
  | giveBack value =>
    simp [leaves, statementCount, value.commandCount_inline rfl, Token.Kind.beginsCommand]
  | _ => cases outline

end Tree

end Offside
