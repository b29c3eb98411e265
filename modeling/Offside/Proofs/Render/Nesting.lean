import Offside.Proofs.Grammar.Blank
import Offside.Proofs.Render.Lines

/-!
# How lines are nested is known from their depths

No line tells where a body ends. But the lines of a body are deeper than those
behind it, and the first line of every statement is as deep as the statement, so
a body ends before the first line that is less deep. In the same way an `IF` has
a second branch exactly if an `else:` of its own depth stands behind the first
one, because no statement begins with such a line. So two trees with the same
lines are the same, but for their blank lines, which have left no trace.
-/

namespace Offside

/-- What may stand behind the lines of a tree at a depth. Behind a body there is no line of its
depth, and behind a command there is no second branch. -/
def Category.endsAt (category : Category) (depth : Nat) (behind : List (Nat × CodeLine)) : Prop :=
  ∀ line, behind.head? = some line →
    match category with
    | .program | .statements | .body => line.1 < depth
    | .statement | .command | .otherwise => line.1 ≤ depth ∧ line ≠ (depth, .otherwise)
    | _ => True

namespace Tree

variable {depth : Nat} {behind behind' : List (Nat × CodeLine)}

theorem head_command (tree : Tree .command) (depth : Nat) (behind : List (Nat × CodeLine)) :
    ∃ line, (tree.lines depth ++ behind).head? = some (depth, line) ∧ line ≠ .otherwise ∧
      line ≠ .nothing := by
  cases tree <;> exact ⟨_, rfl, nofun, nofun⟩

theorem head_statement (tree : Tree .statement) (depth : Nat) (behind : List (Nat × CodeLine)) :
    ∃ line, (tree.lines depth ++ behind).head? = some (depth, line) ∧ line ≠ .otherwise ∧
      line ≠ .nothing := by
  cases tree with
  | statement command blank => exact command.head_command depth behind

theorem endsAt_statement (tree : Tree .statements)
    (ends : Category.statements.endsAt depth behind) :
    Category.statement.endsAt depth (tree.lines depth ++ behind) := by
  intro line head
  cases tree with
  | noStatement =>
    have less := ends line head
    refine ⟨Nat.le_of_lt less, fun same => ?_⟩
    subst same
    exact absurd less (Nat.lt_irrefl _)
  | nextStatement first others =>
    rw [lines, List.append_assoc] at head
    obtain ⟨line', head', not, -⟩ := first.head_statement depth (others.lines depth ++ behind)
    rw [head'] at head
    obtain rfl := Option.some.inj head
    exact ⟨Nat.le_refl _, fun same => not (congrArg Prod.snd same)⟩

/-- The lines of a body are deeper than what stands behind them. -/
theorem endsAt_body (ends : Category.otherwise.endsAt depth behind) :
    Category.body.endsAt (depth + 1) behind := by
  intro line head
  exact Nat.lt_succ_of_le (ends line head).1

theorem endsAt_consequent (tree : Tree .otherwise)
    (ends : Category.otherwise.endsAt depth behind) :
    Category.body.endsAt (depth + 1) (tree.lines depth ++ behind) := by
  cases tree with
  | noElse => exact endsAt_body ends
  | otherwise blank inner =>
    intro line head
    obtain rfl := Option.some.inj head
    exact Nat.lt_succ_self depth

/-- The lines behind a body do not begin with a statement of it. -/
theorem not_head_statement {first : Tree .statement} {rest : List (Nat × CodeLine)}
    (same : behind = first.lines depth ++ rest) (ends : Category.statements.endsAt depth behind) :
    False := by
  obtain ⟨line, head, -⟩ := first.head_statement depth rest
  rw [← same] at head
  exact Nat.lt_irrefl _ (ends _ head)

theorem not_head_nothing {first : Tree .statement} {rest : List (Nat × CodeLine)}
    (same : (depth, .nothing) :: behind = first.lines depth ++ rest) : False := by
  obtain ⟨line, head, -, not⟩ := first.head_statement depth rest
  rw [← same] at head
  exact not (congrArg Prod.snd (Option.some.inj head)).symm

/-- The lines behind an `IF` without a second branch do not begin with one. -/
theorem not_head_otherwise {rest : List (Nat × CodeLine)}
    (same : behind = (depth, .otherwise) :: rest)
    (ends : Category.otherwise.endsAt depth behind) : False := by
  rw [same] at ends
  exact (ends _ rfl).2 rfl

variable {category : Category}

/-- A tree without its blank lines is known from its lines, and so is where they end. -/
theorem unblanked_unique (tree : Tree category) (outline : category.isInline = false) :
    ∀ (other : Tree category) (depth : Nat) (behind behind' : List (Nat × CodeLine)),
      tree.lines depth ++ behind = other.lines depth ++ behind' →
      category.endsAt depth behind → category.endsAt depth behind' →
      tree.unblanked = other.unblanked ∧ behind = behind' := by
  induction tree with
  | program blank statements ih =>
    intro other depth behind behind' same ends ends'
    cases other with
    | program blank' statements' =>
      obtain ⟨statements, rest⟩ := ih rfl _ _ _ _ same ends ends'
      exact ⟨by rw [unblanked, unblanked, statements], rest⟩
  | blankLines count =>
    intro other depth behind behind' same ends ends'
    cases other with
    | blankLines count' => exact ⟨rfl, same⟩
  | noStatement =>
    intro other depth behind behind' same ends ends'
    cases other with
    | noStatement => exact ⟨rfl, same⟩
    | nextStatement first others =>
      exact (not_head_statement (same.trans (List.append_assoc _ _ _)) ends).elim
  | nextStatement first others ih ih' =>
    intro other depth behind behind' same ends ends'
    cases other with
    | noStatement =>
      exact (not_head_statement (same.symm.trans (List.append_assoc _ _ _)) ends').elim
    | nextStatement first' others' =>
      simp only [lines, List.append_assoc] at same
      obtain ⟨first, rest⟩ := ih rfl _ _ _ _ same (others.endsAt_statement ends)
        (others'.endsAt_statement ends')
      obtain ⟨others, rest⟩ := ih' rfl _ _ _ _ rest ends ends'
      exact ⟨by rw [unblanked, unblanked, first, others], rest⟩
  | statement command blank ih =>
    intro other depth behind behind' same ends ends'
    cases other with
    | statement command' blank' =>
      obtain ⟨command, rest⟩ := ih rfl _ _ _ _ same ends ends'
      exact ⟨by rw [unblanked, unblanked, command], rest⟩
  | body statements ih =>
    intro other depth behind behind' same ends ends'
    cases other with
    | body statements' =>
      cases statements with
      | noStatement =>
        cases statements' with
        | noStatement => exact ⟨rfl, (List.cons.inj same).2⟩
        | nextStatement first others =>
          exact (not_head_nothing (same.trans (List.append_assoc _ _ _))).elim
      | nextStatement first others =>
        cases statements' with
        | noStatement =>
          exact (not_head_nothing (same.symm.trans (List.append_assoc _ _ _))).elim
        | nextStatement first' others' =>
          obtain ⟨statements, rest⟩ := ih rfl (.nextStatement first' others') _ _ _ same ends ends'
          exact ⟨congrArg Tree.body statements, rest⟩
  | print printed =>
    intro other depth behind behind' same ends ends'
    cases other <;> cases (List.cons.inj same).1
    exact ⟨rfl, (List.cons.inj same).2⟩
  | branch test blank consequent alternative ih ih' ih'' =>
    intro other depth behind behind' same ends ends'
    cases other <;> cases (List.cons.inj same).1
    next blank' consequent' alternative' =>
      have lines : consequent.lines (depth + 1) ++ (alternative.lines depth ++ behind) =
          consequent'.lines (depth + 1) ++ (alternative'.lines depth ++ behind') := by
        rw [← List.append_assoc, ← List.append_assoc]
        exact (List.cons.inj same).2
      obtain ⟨consequent, rest⟩ := ih' rfl _ _ _ _ lines (alternative.endsAt_consequent ends)
        (alternative'.endsAt_consequent ends')
      obtain ⟨alternative, rest⟩ := ih'' rfl _ _ _ _ rest ends ends'
      exact ⟨by rw [unblanked, unblanked, consequent, alternative], rest⟩
  | loop test blank inner ih ih' =>
    intro other depth behind behind' same ends ends'
    cases other <;> cases (List.cons.inj same).1
    next blank' inner' =>
      obtain ⟨inner, rest⟩ := ih' rfl _ _ _ _ (List.cons.inj same).2 (endsAt_body ends)
        (endsAt_body ends')
      exact ⟨by rw [unblanked, unblanked, inner], rest⟩
  | function name names blank inner ih ih' =>
    intro other depth behind behind' same ends ends'
    cases other <;> cases (List.cons.inj same).1
    next blank' inner' =>
      obtain ⟨inner, rest⟩ := ih' rfl _ _ _ _ (List.cons.inj same).2 (endsAt_body ends)
        (endsAt_body ends')
      exact ⟨by rw [unblanked, unblanked, inner], rest⟩
  | assign name value =>
    intro other depth behind behind' same ends ends'
    cases other <;> cases (List.cons.inj same).1
    exact ⟨rfl, (List.cons.inj same).2⟩
  | input name =>
    intro other depth behind behind' same ends ends'
    cases other <;> cases (List.cons.inj same).1
    exact ⟨rfl, (List.cons.inj same).2⟩
  | giveBack value =>
    intro other depth behind behind' same ends ends'
    cases other <;> cases (List.cons.inj same).1
    exact ⟨rfl, (List.cons.inj same).2⟩
  | noElse =>
    intro other depth behind behind' same ends ends'
    cases other with
    | noElse => exact ⟨rfl, same⟩
    | otherwise blank' inner' => exact (not_head_otherwise same ends).elim
  | otherwise blank inner ih =>
    intro other depth behind behind' same ends ends'
    cases other with
    | noElse => exact (not_head_otherwise same.symm ends').elim
    | otherwise blank' inner' =>
      obtain ⟨inner, rest⟩ := ih rfl _ _ _ _ (List.cons.inj same).2 (endsAt_body ends)
        (endsAt_body ends')
      exact ⟨by rw [unblanked, unblanked, inner], rest⟩
  | _ => cases outline

end Tree

end Offside
