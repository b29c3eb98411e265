import Mathlib.Data.List.Chain
import Offside.Proofs.Render.Nesting

/-!
# The lines of a tree are laid out in blocks

Where blocks are told by depths, a line that opens a block has to be followed by
one a level deeper, and no other line by one that is deeper at all. The lines of
a tree keep to that because each tree is laid out as if nothing stood around it:
its lines begin at its depth, never come out of it, and leave no block open, so
that the next tree may begin at the same depth.

A second branch is the one line that cannot be judged without what stands before
it: it goes with the last line before it that is not deeper. This is the line of
the `IF` that it belongs to, because all that stands between the two is deeper.
-/

namespace Offside

/-! ## Blocks -/

section

variable {α β : Type} {opens begins resumes : α → Prop} {depth : Nat}

/-- How far a line may be indented behind another: one level further if that opens a block, and
otherwise no further. -/
def Follows (opens : α → Prop) (line next : Nat × α) : Prop :=
  (opens line.2 → next.1 = line.1 + 1) ∧ (¬opens line.2 → next.1 ≤ line.1)

/-- Lines that begin at a depth, do not come out of it and leave no block open. -/
structure Blocks (opens : α → Prop) (depth : Nat) (lines : List (Nat × α)) : Prop where
  first : ∀ line ∈ lines.head?, line.1 = depth
  within : ∀ line ∈ lines, depth ≤ line.1
  follows : lines.IsChain (Follows opens)
  last : ∀ line ∈ lines.getLast?, ¬opens line.2

/-- The last of the lines that are not deeper is at this depth, and has the property. -/
def Answers (begins : α → Prop) (depth : Nat) (lines : List (Nat × α)) : Prop :=
  ∃ front line between, lines = front ++ (depth, line) :: between ∧ begins line ∧
    ∀ other ∈ between, depth < other.1

/-- Each line that resumes what another has begun is answered by one, among the lines before. -/
def Resumed (begins resumes : α → Prop) (before lines : List (Nat × α)) : Prop :=
  ∀ front line behind, lines = front ++ line :: behind → resumes line.2 →
    Answers begins line.1 (before ++ front)

namespace Blocks

theorem nil : Blocks opens depth [] := ⟨nofun, nofun, .nil, nofun⟩

theorem line {text : α} (closed : ¬opens text) : Blocks opens depth [(depth, text)] := by
  constructor <;> simp [closed]

theorem append {lines lines' : List (Nat × α)} (blocks : Blocks opens depth lines)
    (blocks' : Blocks opens depth lines') : Blocks opens depth (lines ++ lines') where
  first line head := by
    rw [List.head?_append] at head
    cases same : lines.head? with
    | none =>
      rw [same] at head
      exact blocks'.first line head
    | some first =>
      rw [same] at head
      exact blocks.first line (by rw [same]; exact head)
  within line member := by
    rcases List.mem_append.1 member with member | member
    · exact blocks.within line member
    · exact blocks'.within line member
  follows := by
    -- the last line before opens no block, and the first one behind is not deeper
    refine blocks.follows.append blocks'.follows fun line last next head => ?_
    refine ⟨fun open_ => absurd open_ (blocks.last line last), fun _ => ?_⟩
    rw [blocks'.first next head]
    exact blocks.within line (List.mem_of_getLast? last)
  last line last := by
    rw [List.getLast?_append] at last
    cases same : lines'.getLast? with
    | none =>
      rw [same] at last
      exact blocks.last line last
    | some found =>
      rw [same] at last
      exact blocks'.last line (by rw [same]; exact last)

/-- A block is not empty. -/
theorem block {text : α} {inner : List (Nat × α)} (open_ : opens text)
    (blocks : Blocks opens (depth + 1) inner) (nonempty : inner ≠ []) :
    Blocks opens depth ((depth, text) :: inner) where
  first line head := by
    obtain rfl := Option.some.inj head
    rfl
  within line member := by
    rcases List.mem_cons.1 member with rfl | member
    · exact Nat.le_refl _
    · exact Nat.le_of_succ_le (blocks.within line member)
  follows := blocks.follows.cons fun next head =>
    ⟨fun _ => blocks.first next head, fun closed => absurd open_ closed⟩
  last line last := by
    rw [List.getLast?_cons_of_ne_nil nonempty] at last
    exact blocks.last line last

/-- The rules only ask which lines open a block. -/
theorem map {opens' : β → Prop} {lines : List (Nat × α)} (blocks : Blocks opens depth lines)
    (f : α → β) (same : ∀ line ∈ lines, opens' (f line.2) ↔ opens line.2) :
    Blocks opens' depth (lines.map fun line => (line.1, f line.2)) where
  first line head := by
    rw [List.head?_map] at head
    obtain ⟨found, first, rfl⟩ := Option.map_eq_some_iff.1 head
    exact blocks.first found first
  within line member := by
    obtain ⟨found, among, rfl⟩ := List.mem_map.1 member
    exact blocks.within found among
  follows := by
    rw [List.isChain_map]
    refine blocks.follows.imp_of_mem_imp fun line next member _ follows => ?_
    exact ⟨fun open_ => follows.1 ((same line member).1 open_),
      fun closed => follows.2 (mt (same line member).2 closed)⟩
  last line last := by
    rw [List.getLast?_map] at last
    obtain ⟨found, ends, rfl⟩ := Option.map_eq_some_iff.1 last
    exact mt (same found (List.mem_of_getLast? ends)).1 (blocks.last found ends)

end Blocks

namespace Resumed

theorem nil {before : List (Nat × α)} : Resumed begins resumes before [] := by
  intro front line behind same
  cases front <;> cases same

theorem append {before lines lines' : List (Nat × α)}
    (resumed : Resumed begins resumes before lines)
    (resumed' : Resumed begins resumes (before ++ lines) lines') :
    Resumed begins resumes before (lines ++ lines') := by
  intro front line behind whole again
  -- the line is one of the second lines, maybe their first, or one of the first lines
  rcases List.append_eq_append_iff.1 whole with ⟨more, rfl, same⟩ | ⟨more, same, same'⟩
  · rw [← List.append_assoc]
    exact resumed' more line behind same again
  · cases more with
    | nil =>
      rw [List.append_nil] at same
      rw [← same, ← List.append_nil (before ++ lines)]
      exact resumed' [] line behind same'.symm again
    | cons first more =>
      obtain ⟨rfl, -⟩ := List.cons.inj same'
      exact resumed front line more same again

theorem line {before : List (Nat × α)} {line : Nat × α}
    (answers : resumes line.2 → Answers begins line.1 before) :
    Resumed begins resumes before [line] := by
  intro front found behind same again
  rw [eq_comm, List.append_eq_singleton_iff] at same
  rcases same with ⟨rfl, same⟩ | ⟨-, same⟩
  · obtain ⟨rfl, -⟩ := List.cons.inj same
    rw [List.append_nil]
    exact answers again
  · cases same

theorem cons {before lines : List (Nat × α)} {first : Nat × α}
    (answers : resumes first.2 → Answers begins first.1 before)
    (resumed : Resumed begins resumes (before ++ [first]) lines) :
    Resumed begins resumes before (first :: lines) :=
  append (line answers) resumed

/-- The rule only asks which lines begin something and which resume it. -/
theorem map {begins' resumes' : β → Prop} {lines : List (Nat × α)}
    (resumed : Resumed begins resumes [] lines) (f : α → β)
    (begun : ∀ line ∈ lines, begins line.2 → begins' (f line.2))
    (again : ∀ line ∈ lines, resumes' (f line.2) → resumes line.2) :
    Resumed begins' resumes' [] (lines.map fun line => (line.1, f line.2)) := by
  intro front' line' behind' whole resumes'
  obtain ⟨front, others, rfl, rfl, same⟩ := List.map_eq_append_iff.1 whole
  obtain ⟨line, behind, rfl, rfl, rfl⟩ := List.map_eq_cons_iff.1 same
  obtain ⟨before, opening, between, rfl, begins, deeper⟩ :=
    resumed front line behind rfl (again line (by simp) resumes')
  refine ⟨before.map fun line => (line.1, f line.2), f opening,
    between.map fun line => (line.1, f line.2), by simp,
    begun (line.1, opening) (by simp) begins, ?_⟩
  intro other member
  obtain ⟨found, among, rfl⟩ := List.mem_map.1 member
  exact deeper found among

end Resumed

end

/-! ## The lines of a tree -/

/-- Whether a block stands behind the line. -/
def CodeLine.opens : CodeLine → Prop
  | .branch _ | .loop _ | .function _ _ | .otherwise => True
  | _ => False

/-- Whether a second branch may stand behind the block of the line. -/
def CodeLine.isBranch : CodeLine → Prop
  | .branch _ => True
  | _ => False

namespace Tree

variable {category : Category}

theorem lines_body_ne_nil (tree : Tree .body) (depth : Nat) : tree.lines depth ≠ [] := by
  cases tree with
  | body statements =>
    cases statements with
    | noStatement => exact List.cons_ne_nil _ _
    | nextStatement first others =>
      obtain ⟨line, head, -⟩ := first.head_statement depth (others.lines depth)
      intro none
      rw [lines] at none
      rw [none] at head
      cases head

/-- The lines of a tree are laid out in blocks. -/
theorem blocks_lines (tree : Tree category) (depth : Nat) :
    Blocks CodeLine.opens depth (tree.lines depth) := by
  induction tree generalizing depth with
  | program blank statements ih => exact ih depth
  | nextStatement first others ih ih' => exact (ih depth).append (ih' depth)
  | statement command blank ih => exact ih depth
  | body statements ih =>
    cases statements with
    | noStatement => exact .line id
    | nextStatement first others => exact ih depth
  | branch test blank consequent alternative ih ih' ih'' =>
    exact (Blocks.block trivial (ih' (depth + 1)) (consequent.lines_body_ne_nil _)).append
      (ih'' depth)
  | loop test blank inner ih ih' =>
    exact .block trivial (ih' (depth + 1)) (inner.lines_body_ne_nil _)
  | function name names blank inner ih ih' =>
    exact .block trivial (ih' (depth + 1)) (inner.lines_body_ne_nil _)
  | otherwise blank inner ih => exact .block trivial (ih (depth + 1)) (inner.lines_body_ne_nil _)
  | print | assign | input | giveBack => exact .line id
  | _ => exact .nil

/-- Each second branch belongs to the last line before it that is not deeper. -/
theorem resumed_lines (tree : Tree category) (depth : Nat) (before : List (Nat × CodeLine))
    (answers : category = .otherwise → Answers CodeLine.isBranch depth before) :
    Resumed CodeLine.isBranch (· = .otherwise) before (tree.lines depth) := by
  induction tree generalizing depth before with
  | program blank statements ih => exact ih depth before nofun
  | nextStatement first others ih ih' =>
    exact (ih depth before nofun).append (ih' depth _ nofun)
  | statement command blank ih => exact ih depth before nofun
  | body statements ih =>
    cases statements with
    | noStatement => exact .line nofun
    | nextStatement first others => exact ih depth before nofun
  | branch test blank consequent alternative ih ih' ih'' =>
    refine .cons nofun ((ih' (depth + 1) _ nofun).append (ih'' depth _ fun _ => ?_))
    -- between the two there is only the first block, which is deeper
    exact ⟨before, .branch test, consequent.lines (depth + 1), by simp, trivial,
      (consequent.blocks_lines (depth + 1)).within⟩
  | loop test blank inner ih ih' => exact .cons nofun (ih' (depth + 1) _ nofun)
  | function name names blank inner ih ih' => exact .cons nofun (ih' (depth + 1) _ nofun)
  | otherwise blank inner ih => exact .cons (fun _ => answers rfl) (ih (depth + 1) _ nofun)
  | print | assign | input | giveBack => exact .line nofun
  | _ => exact .nil

end Tree

end Offside
