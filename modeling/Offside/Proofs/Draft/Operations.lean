import Mathlib
import Offside.Draft

/-!
# What comes of writing a draft

A draft can be written in any order of operations, and what comes of them can be
told without following them one by one.

The depth is a walk that is held back at zero: it is as far above the lowest
point that the indents and dedents have come to as they lead to without being
held back. The body is made of lines, and each of them is due to a group of
operations that ends where a line is ended. Its margin is that of the depth
before the first operation of its group. And the header keeps to itself: it is
the header lines one below the other, and without them the same operations make
the same body.
-/

namespace Offside.Draft

/-- What can be done to a draft. -/
inductive Operation where
  | write (piece : String)
  | writeLine (piece : String)
  | writeHeader (line : String)
  | indent
  | dedent
deriving Repr, DecidableEq

namespace Operation

/-- Does the operation to a draft. -/
def apply (draft : Draft) : Operation → Draft
  | .write piece => draft.write piece
  | .writeLine piece => draft.writeLine piece
  | .writeHeader line => draft.writeHeader line
  | .indent => draft.indent
  | .dedent => draft.dedent

/-- The line that the operation writes to the header, if it does. -/
def headerLine? : Operation → Option String
  | .writeHeader line => some line
  | _ => none

/-- By how much the operation changes the depth, unless it is held back. -/
def rise : Operation → Int
  | .indent => 1
  | .dedent => -1
  | _ => 0

end Operation

/-- The draft that comes of operations on a new one. -/
def after (width : Nat) (operations : List Operation) : Draft :=
  operations.foldl Operation.apply { width }

/-- How many more indents than dedents there are. -/
def net (operations : List Operation) : Int :=
  operations.count .indent - operations.count .dedent

/-- The lowest value that `net` has had on the way, from zero at the beginning. -/
def lowest (operations : List Operation) : Int := (operations.inits.map net).foldl min 0

/-- The depth that operations lead to. -/
def level (operations : List Operation) : Int := net operations - lowest operations

/-- Operations that write the same line of the body. -/
structure Group where
  /-- All operations before the first of them. -/
  before : List Operation
  /-- What they write. -/
  pieces : List String
  /-- Whether the last of them ends the line. -/
  closed : Bool
deriving Repr, DecidableEq

namespace Group

/-- The margin of the line, for the depth before the first piece. -/
def margin (width : Nat) (group : Group) : String :=
  Text.spaces (width * (level group.before).toNat)

/-- The line without its margin. -/
def content (group : Group) : String :=
  String.join group.pieces ++ if group.closed then "\n" else ""

/-- The line. -/
def line (width : Nat) (group : Group) : String := group.margin width ++ group.content

end Group

/-- The groups with one more piece in front, which does not end its line. -/
def consPiece (before : List Operation) (piece : String) : List Group → List Group
  | [] => [⟨before, [piece], false⟩]
  | group :: groups => ⟨before, piece :: group.pieces, group.closed⟩ :: groups

/-- The groups of those operations that write to the body, if the operations `passed` are before
them. A group ends where a line is ended, and with the operations. -/
def groups (passed : List Operation) : List Operation → List Group
  | [] => []
  | .write piece :: operations =>
    consPiece passed piece (groups (passed ++ [.write piece]) operations)
  | .writeLine piece :: operations =>
    ⟨passed, [piece], true⟩ :: groups (passed ++ [.writeLine piece]) operations
  | operation :: operations => groups (passed ++ [operation]) operations

theorem after_concat (width : Nat) (operations : List Operation) (operation : Operation) :
    after width (operations ++ [operation]) = operation.apply (after width operations) :=
  List.foldl_concat ..

/-! ## The depth -/

theorem lowest_concat (operations : List Operation) (operation : Operation) :
    lowest (operations ++ [operation]) =
      min (lowest operations) (net (operations ++ [operation])) := by
  simp [lowest, List.inits_append]

theorem net_concat (operations : List Operation) (operation : Operation) :
    net (operations ++ [operation]) = net operations + operation.rise := by
  cases operation <;> simp [net, Operation.rise] <;> omega

/-- An operation that is held back lowers the lowest point instead of the depth. -/
theorem depth_after (width : Nat) (operations : List Operation) :
    ((after width operations).depth : Int) = level operations := by
  induction operations using List.reverseRecOn with
  | nil => rfl
  | append_singleton operations operation ih =>
    rw [after_concat, level, lowest_concat, net_concat]
    rw [level] at ih
    cases operation with
    | write | writeLine | writeHeader =>
      simp only [Operation.apply, Operation.rise, depth_write, depth_writeLine, writeHeader]
      omega
    | indent | dedent =>
      simp only [Operation.apply, Operation.rise, indent, dedent]
      omega

/-! ## The body -/

theorem width_apply (operation : Operation) (draft : Draft) :
    (operation.apply draft).width = draft.width := by
  cases operation with
  | write | writeLine =>
    simp only [Operation.apply, writeLine, write]
    split <;> rfl
  | _ => rfl

theorem width_after (width : Nat) (operations : List Operation) :
    (after width operations).width = width := by
  induction operations using List.reverseRecOn with
  | nil => rfl
  | append_singleton operations operation ih => rw [after_concat, width_apply, ih]

theorem margin_after (width : Nat) (operations : List Operation) :
    (after width operations).margin = Text.spaces (width * (level operations).toNat) := by
  rw [margin, width_after, ← depth_after width, Int.toNat_natCast, Nat.mul_comm]

theorem body_write (draft : Draft) (piece : String) : (draft.write piece).body =
    draft.body ++ ((if draft.lineOpen then "" else draft.margin) ++ piece) := by
  unfold write
  split
  · rw [String.empty_append]
  · rw [String.append_assoc]

/-- What the groups write behind a draft, which may have begun the line of the first one. -/
def continued (width : Nat) (lineOpen : Bool) : List Group → String
  | [] => ""
  | group :: groups => (if lineOpen then "" else group.margin width) ++ group.content ++
      String.join (groups.map (Group.line width))

theorem continued_false (width : Nat) (groups : List Group) :
    continued width false groups = String.join (groups.map (Group.line width)) := by
  cases groups with
  | nil => rfl
  | cons group groups => rw [List.map_cons, String.join_cons]; rfl

/-- A piece in front is written behind the margin, and opens the line for the others. -/
theorem continued_consPiece (width : Nat) (lineOpen : Bool) (before : List Operation)
    (piece : String) (groups : List Group) :
    continued width lineOpen (consPiece before piece groups) =
      (if lineOpen then "" else (after width before).margin) ++ piece ++
        continued width true groups := by
  cases groups <;>
    simp [continued, consPiece, Group.content, Group.margin, margin_after, String.append_assoc]

/-- Behind any operations the body goes on with the groups of those that follow. -/
theorem body_after_append (width : Nat) (passed operations : List Operation) :
    (after width (passed ++ operations)).body = (after width passed).body ++
      continued width (after width passed).lineOpen (groups passed operations) := by
  induction operations generalizing passed with
  | nil => rw [List.append_nil, groups, continued, String.append_empty]
  | cons operation operations ih =>
    rw [List.append_cons, ih, after_concat]
    cases operation with
    | write piece =>
      rw [Operation.apply, body_write, lineOpen_write, groups, continued_consPiece]
      simp only [String.append_assoc]
    | writeLine piece =>
      have closed : (writeLine (after width passed) piece).lineOpen = false := rfl
      have body : (writeLine (after width passed) piece).body =
        ((after width passed).write piece).body ++ "\n" := rfl
      rw [Operation.apply, closed, body, body_write, continued_false, groups, continued,
        margin_after]
      simp [Group.content, Group.margin, String.append_assoc]
    | writeHeader | indent | dedent => rfl

/-! ## The header -/

/-- What does not write to the header does not depend on it either. -/
theorem apply_withHeader {operation : Operation} (other : operation.headerLine? = none)
    (draft : Draft) (header : String) :
    operation.apply { draft with header } = { operation.apply draft with header } := by
  cases operation with
  | writeHeader line => cases other
  | write | writeLine =>
    simp only [Operation.apply, writeLine, write]
    split <;> rfl
  | _ => rfl

/-- The header lines can be taken out of the operations and written at the end. -/
theorem after_eq (width : Nat) (operations : List Operation) : after width operations =
    { after width (operations.filter (·.headerLine?.isNone)) with
      header := String.join ((operations.filterMap Operation.headerLine?).map (· ++ "\n")) } := by
  induction operations using List.reverseRecOn with
  | nil => rfl
  | append_singleton operations operation ih =>
    rw [after_concat, List.filter_append, List.filterMap_append]
    cases written : operation.headerLine? with
    | none => simp [written, after_concat, ← apply_withHeader written, ← ih]
    | some line =>
      cases operation with
      | writeHeader line =>
        simp [Operation.headerLine?, Operation.apply, writeHeader, ih, String.append_assoc]
      | _ => cases written

/-! ## The draft -/

/-- Operations come to the depth that their indents and dedents lead to above the lowest point on
the way. They write the lines of their groups to the body, and the header lines to the header.
Operations with the same header lines, in the same order, and the same other operations, in the
same order, come to the same draft. -/
theorem draft_of_operations (width : Nat) (operations : List Operation) :
    ((after width operations).depth : Int) = net operations - lowest operations ∧
    (after width operations).body =
      String.join ((groups [] operations).map (Group.line width)) ∧
    (after width operations).header =
      String.join ((operations.filterMap Operation.headerLine?).map (· ++ "\n")) ∧
    (after width operations).code =
      (after width operations).header ++ (after width operations).body ∧
    ∀ operations' : List Operation,
      operations'.filterMap Operation.headerLine? = operations.filterMap Operation.headerLine? →
      operations'.filter (·.headerLine?.isNone) = operations.filter (·.headerLine?.isNone) →
      after width operations' = after width operations := by
  refine ⟨depth_after width operations, ?_, ?_, rfl, fun operations' lines others => ?_⟩
  · have body := body_after_append width [] operations
    rw [List.nil_append] at body
    rw [body, ← continued_false]
    exact String.empty_append
  · rw [after_eq]
  · rw [after_eq width operations', lines, others, ← after_eq]

/-- The first dedent is held back, so the indents lead further. The margin of the first line is
that of its empty first piece, and the last line is still open. The header line may as well come
first. -/
theorem draft_of_operations_held_back :
    let operations : List Operation := [.dedent, .indent, .write "", .indent, .writeLine "a",
      .writeHeader "h", .write "b\n", .dedent]
    ((after 2 operations).depth : Int) = 0 - -1 ∧ (after 2 operations).body = "  a\n    b\n" ∧
      after 2 [.writeHeader "h", .dedent, .indent, .write "", .indent, .writeLine "a",
        .write "b\n", .dedent] = after 2 operations := by
  intro operations
  obtain ⟨depth, body, -, -, moved⟩ := draft_of_operations 2 operations
  exact ⟨depth.trans (by decide), body.trans (by decide), moved _ (by decide) (by decide)⟩

end Offside.Draft
