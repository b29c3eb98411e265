import Offside.Proofs.Grammar.Tree

/-!
# Names that are declared before they are read

A run checks each name that is read against the names declared so far, in the
scope that it carries along. That the scope holds exactly the names declared
further to the left turns the check into a condition on the words alone.
-/

namespace Offside

/-- The scope behind some leaves. -/
def Scope.behindAll (scope : Scope) (leaves : List Leaf) : Scope := leaves.foldl Scope.behind scope

theorem resolved_append {scope : Scope} {left right : List Leaf} :
    Resolved scope (left ++ right) ↔
      Resolved scope left ∧ Resolved (scope.behindAll left) right := by
  induction left generalizing scope with
  | nil => exact ⟨fun resolved => ⟨trivial, resolved⟩, And.right⟩
  | cons leaf left ih =>
    constructor
    · intro whole
      obtain ⟨resolved, resolved'⟩ := ih.1 whole.2
      exact ⟨⟨whole.1, resolved⟩, resolved'⟩
    · intro parts
      exact ⟨parts.1.1, ih.2 ⟨parts.1.2, parts.2⟩⟩

namespace Scope

variable {scope : Scope} {name other : String} {kind : NameKind}

theorem declares_iff : scope.declares name = true ↔ name ∈ scope.entries.map Prod.fst := by
  rw [← Decidable.not_iff_not, ← kind?_eq_none_iff, declares, Bool.not_eq_true,
    Option.isSome_eq_false_iff, Option.isNone_iff_eq_none]

theorem declares_declare :
    (scope.declare other kind).declares name = true ↔
      scope.declares name = true ∨ name = other := by
  unfold declare
  split
  · simp [declares_iff]
  · next known =>
    constructor
    · exact .inl
    · intro either
      rcases either with declared | rfl
      · exact declared
      · exact Option.isSome_iff_ne_none.2 known

theorem not_declares_empty : empty.declares name = false := rfl

/-- Behind a leaf a name is declared if it was before, or if the leaf declares it. -/
theorem declares_behind {leaf : Leaf} :
    (scope.behind leaf).declares name = true ↔
      scope.declares name = true ∨ ∃ role, leaf = .declared role name := by
  cases leaf with
  | declared role other =>
    rw [behind, declares_declare]
    constructor
    · intro either
      rcases either with declared | rfl
      · exact .inl declared
      · exact .inr ⟨role, rfl⟩
    · intro either
      rcases either with declared | ⟨role, same⟩
      · exact .inl declared
      · cases same
        exact .inr rfl
  | _ => simp [behind]

end Scope

theorem resolved_iff {scope : Scope} {leaves : List Leaf} :
    Resolved scope leaves ↔ ∀ (before : List Leaf) (name : String) (behind : List Leaf),
      leaves = before ++ .read name :: behind →
        scope.declares name = true ∨ ∃ role, .declared role name ∈ before := by
  induction leaves generalizing scope with
  | nil => simp [Resolved]
  | cons leaf leaves ih =>
    rw [Resolved, ih]
    constructor
    · intro whole before name behind same
      obtain ⟨allowed, resolved⟩ := whole
      cases before with
      | nil =>
        obtain ⟨rfl, rfl⟩ := List.cons.inj same
        exact .inl allowed
      | cons first before =>
        obtain ⟨rfl, rfl⟩ := List.cons.inj same
        rcases resolved before name behind rfl with declared | ⟨role, member⟩
        · rcases Scope.declares_behind.1 declared with declared | ⟨role, rfl⟩
          · exact .inl declared
          · exact .inr ⟨role, List.mem_cons_self⟩
        · exact .inr ⟨role, List.mem_cons_of_mem _ member⟩
    · intro resolved
      constructor
      · cases leaf with
        | read name =>
          rcases resolved [] name leaves rfl with declared | ⟨role, member⟩
          · exact declared
          · cases member
        | _ => trivial
      · intro before name behind same
        rcases resolved (leaf :: before) name behind (congrArg _ same) with
          declared | ⟨role, member⟩
        · exact .inl (Scope.declares_behind.2 (.inl declared))
        · rcases List.mem_cons.1 member with rfl | member
          · exact .inl (Scope.declares_behind.2 (.inr ⟨role, rfl⟩))
          · exact .inr ⟨role, member⟩

/-- Reading against a scope that is empty at first is reading what is declared further to the
left. -/
theorem resolved_empty_iff {leaves : List Leaf} :
    Resolved .empty leaves ↔ DeclaredBeforeRead leaves := by
  simp [resolved_iff, DeclaredBeforeRead, Scope.not_declares_empty]

/-! ## The names of a scope -/

/-- The names that the leaves declare, in the order of their first declarations, each with the kind
that it is given there. -/
def firstDeclarations : List Leaf → List (String × NameKind)
  | [] => []
  | .declared role name :: leaves =>
    (name, role.kind) :: (firstDeclarations leaves).filter fun entry => entry.1 != name
  | _ :: leaves => firstDeclarations leaves

/-- The scope behind some leaves holds what it held before, and behind it what the leaves are the
first to declare. -/
theorem Scope.entries_behindAll (scope : Scope) (leaves : List Leaf) :
    (scope.behindAll leaves).entries = scope.entries ++
      (firstDeclarations leaves).filter fun entry => !scope.declares entry.1 := by
  induction leaves generalizing scope with
  | nil => exact (List.append_nil _).symm
  | cons leaf leaves ih =>
    have whole : scope.behindAll (leaf :: leaves) = (scope.behind leaf).behindAll leaves := rfl
    rw [whole, ih]
    cases leaf with
    | declared role name =>
      simp only [behind, firstDeclarations]
      by_cases known : scope.kind? name = none
      · have fresh : scope.declares name = false := by
          rw [declares, known]
          rfl
        have entries : (scope.declare name role.kind).entries =
            scope.entries ++ [(name, role.kind)] := by
          rw [declare, dif_pos known]
        rw [entries, List.filter_cons_of_pos (by simp [fresh]), List.filter_filter,
          List.append_assoc, List.singleton_append]
        congr 2
        refine List.filter_congr fun entry _ => ?_
        rw [Bool.eq_iff_iff]
        simp only [Bool.not_eq_true', Bool.and_eq_true, bne_iff_ne, ← Bool.not_eq_true,
          declares_declare]
        exact not_or
      · have same : scope.declare name role.kind = scope := by rw [declare, dif_neg known]
        have declared : scope.declares name = true := Option.isSome_iff_ne_none.2 known
        rw [same, List.filter_cons_of_neg (by simp [declared]), List.filter_filter]
        congr 1
        refine List.filter_congr fun entry _ => ?_
        by_cases is : entry.1 = name
        · simp [is, declared]
        · simp [is]
    | _ => rfl

/-- A scope that was empty holds what the leaves are the first to declare. -/
theorem Scope.entries_behindAll_empty (leaves : List Leaf) :
    (empty.behindAll leaves).entries = firstDeclarations leaves := by
  rw [entries_behindAll]
  exact List.filter_eq_self.2 fun entry _ => rfl

end Offside
