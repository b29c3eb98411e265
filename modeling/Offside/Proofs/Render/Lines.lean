import Offside.Proofs.Render.Layout

/-!
# The lines of a program

A command begins with a line of its own, and so do the second branch of an `IF`
and a body without statements. What belongs to a line is what stands in it; its
depth is that of the tree it comes from. The lines of a tree are enough to render
it, and no word is found in them that is not one of the tree.
-/

namespace Offside

/-- What stands in a line. -/
inductive CodeLine where
  | print (printed : Tree .printed)
  | branch (test : Tree .condition)
  | loop (test : Tree .condition)
  | function (name : String) (names : Tree .parameters)
  | assign (name : String) (value : Tree .expression)
  | input (name : String)
  | giveBack (value : Tree .expression)
  /-- Stands before a second branch. -/
  | otherwise
  /-- Stands for a body without statements. -/
  | nothing

/-- The leaves that are written in a line. -/
def CodeLine.leaves : CodeLine → List Leaf
  | .print printed => printed.leaves
  | .branch test | .loop test => test.leaves
  | .function name names => .declared .function name :: names.leaves
  | .assign name value => .declared .letTarget name :: value.leaves
  | .input name => [.declared .inputTarget name]
  | .giveBack value => value.leaves
  | .otherwise | .nothing => []

/-- The text of a line, without the margin. -/
def CodeLine.text (target : Target) : CodeLine → String
  | .print printed =>
    target.spelling .printOpen ++ printed.written target ++ target.spelling .printClose
  | .branch test => target.spelling .ifOpen ++ test.written target ++ target.spelling .blockOpen
  | .loop test => target.spelling .whileOpen ++ test.written target ++ target.spelling .blockOpen
  | .function name names =>
    target.spelling .functionOpen ++ name ++ "(" ++ names.written target ++ ")"
      ++ target.spelling .blockOpen
  | .assign name value => name ++ target.spelling .assign ++ value.written target
  | .input name => name ++ target.spelling .assign ++ target.spelling .readNumber
  | .giveBack value => target.spelling .returnOpen ++ value.written target
  | .otherwise => target.spelling .elseLine
  | .nothing => target.spelling .emptyBody

/-- The text of lines at their depths. -/
def CodeLine.join (target : Target) (width : Nat) (lines : List (Nat × CodeLine)) : String :=
  String.join (lines.map fun line => Text.line width line.1 (line.2.text target))

theorem CodeLine.join_append {target : Target} {width : Nat}
    (lines lines' : List (Nat × CodeLine)) :
    CodeLine.join target width (lines ++ lines') =
      CodeLine.join target width lines ++ CodeLine.join target width lines' := by
  rw [join, List.map_append, String.join_append]
  rfl

theorem CodeLine.join_cons {target : Target} {width : Nat} (line : Nat × CodeLine)
    (lines : List (Nat × CodeLine)) : CodeLine.join target width (line :: lines) =
      Text.line width line.1 (line.2.text target) ++ CodeLine.join target width lines := by
  rw [join, List.map_cons, String.join_cons]
  rfl

theorem CodeLine.join_singleton {target : Target} {width : Nat} (line : Nat × CodeLine) :
    CodeLine.join target width [line] = Text.line width line.1 (line.2.text target) := by
  rw [join_cons]
  exact String.append_empty

namespace Tree

/-- The lines of a tree at a depth, each with its own. -/
def lines : (depth : Nat) → {category : Category} → Tree category → List (Nat × CodeLine)
  | depth, _, .program _ statements => statements.lines depth
  | depth, _, .nextStatement first others => first.lines depth ++ others.lines depth
  | depth, _, .statement command _ => command.lines depth
  | depth, _, .body .noStatement => [(depth, .nothing)]
  | depth, _, .body (.nextStatement first others) => first.lines depth ++ others.lines depth
  | depth, _, .print printed => [(depth, .print printed)]
  | depth, _, .branch test _ consequent alternative =>
    (depth, .branch test) :: (consequent.lines (depth + 1) ++ alternative.lines depth)
  | depth, _, .loop test _ inner => (depth, .loop test) :: inner.lines (depth + 1)
  | depth, _, .function name names _ inner =>
    (depth, .function name names) :: inner.lines (depth + 1)
  | depth, _, .assign name value => [(depth, .assign name value)]
  | depth, _, .input name => [(depth, .input name)]
  | depth, _, .giveBack value => [(depth, .giveBack value)]
  | depth, _, .otherwise _ inner => (depth, .otherwise) :: inner.lines (depth + 1)
  | _, _, _ => []

variable {category : Category} (tree : Tree category)

theorem render_eq_join (target : Target) (width depth : Nat) :
    tree.render target width depth = CodeLine.join target width (tree.lines depth) := by
  induction tree generalizing depth with
  | program blank statements ih => exact ih depth
  | statement command blank ih => exact ih depth
  | nextStatement first others ih ih' =>
    rw [lines, CodeLine.join_append, ← ih, ← ih']
    rfl
  | body statements ih =>
    cases statements with
    | noStatement => exact (CodeLine.join_singleton (depth, .nothing)).symm
    | nextStatement first others =>
      rw [render, lines]
      exact ih depth
  | branch test blank consequent alternative ih ih' ih'' =>
    rw [lines, CodeLine.join_cons, CodeLine.join_append, ← ih', ← ih'', render, String.append_assoc,
      CodeLine.text]
  | loop test blank inner ih ih' =>
    rw [lines, CodeLine.join_cons, ← ih', render, CodeLine.text]
  | function name names blank inner ih ih' =>
    rw [lines, CodeLine.join_cons, ← ih', render, CodeLine.text]
  | otherwise blank inner ih =>
    rw [lines, CodeLine.join_cons, ← ih, render, CodeLine.text]
  | print printed => exact (CodeLine.join_singleton (depth, .print printed)).symm
  | assign name value => exact (CodeLine.join_singleton (depth, .assign name value)).symm
  | input name => exact (CodeLine.join_singleton (depth, .input name)).symm
  | giveBack value => exact (CodeLine.join_singleton (depth, .giveBack value)).symm
  | _ => rfl

/-- The words of the lines of a tree are words of the tree. -/
theorem mem_leaves_of_mem_lines {depth : Nat} {line : Nat × CodeLine} {leaf : Leaf}
    (member : line ∈ tree.lines depth) (leafMember : leaf ∈ line.2.leaves) :
    leaf ∈ tree.leaves := by
  induction tree generalizing depth with
  | program blank statements ih => exact List.mem_append_right _ (ih member)
  | statement command blank ih => exact List.mem_append_left _ (ih member)
  | nextStatement first others ih ih' =>
    rcases List.mem_append.1 member with member | member
    · exact List.mem_append_left _ (ih member)
    · exact List.mem_append_right _ (ih' member)
  | body statements ih =>
    cases statements with
    | noStatement =>
      obtain rfl := List.mem_singleton.1 member
      cases leafMember
    | nextStatement first others => exact ih member
  | branch test blank consequent alternative ih ih' ih'' =>
    simp only [leaves, List.mem_cons, List.mem_append]
    rcases List.mem_cons.1 member with rfl | member
    · exact .inr (.inl leafMember)
    · rcases List.mem_append.1 member with member | member
      · exact .inr (.inr (.inr (.inr (.inl (ih' member)))))
      · exact .inr (.inr (.inr (.inr (.inr (.inl (ih'' member))))))
  | loop test blank inner ih ih' =>
    simp only [leaves, List.mem_cons, List.mem_append]
    rcases List.mem_cons.1 member with rfl | member
    · exact .inr (.inl leafMember)
    · exact .inr (.inr (.inr (.inr (.inl (ih' member)))))
  | function name names blank inner ih ih' =>
    simp only [leaves, List.mem_cons, List.mem_append]
    rcases List.mem_cons.1 member with rfl | member
    · rcases List.mem_cons.1 leafMember with same | leafMember
      · exact .inr (.inl same)
      · exact .inr (.inr (.inr (.inl leafMember)))
    · exact .inr (.inr (.inr (.inr (.inr (.inr (.inl (ih' member)))))))
  | otherwise blank inner ih =>
    simp only [leaves, List.mem_cons, List.mem_append]
    rcases List.mem_cons.1 member with rfl | member
    · cases leafMember
    · exact .inr (.inr (ih member))
  | print printed =>
    obtain rfl := List.mem_singleton.1 member
    exact List.mem_cons_of_mem _ leafMember
  | assign name value =>
    obtain rfl := List.mem_singleton.1 member
    simp only [leaves, List.mem_cons]
    rcases List.mem_cons.1 leafMember with same | leafMember
    · exact .inr (.inl same)
    · exact .inr (.inr (.inr leafMember))
  | input name =>
    obtain rfl := List.mem_singleton.1 member
    exact List.mem_cons_of_mem _ leafMember
  | giveBack value =>
    obtain rfl := List.mem_singleton.1 member
    exact List.mem_cons_of_mem _ leafMember
  | _ => cases member

end Tree

end Offside
