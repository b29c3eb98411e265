import Mathlib
import Offside.Proofs.Grammar.Declaring
import Offside.Proofs.Session.Logged
import Offside.Proofs.Session.Resumed

/-!
# The names of a program

A scope that is told of names one after the other keeps the first kind that each
of them is told with, and tells of each call whether the name was new. That is
true of any calls, in any order.

The calls that a run makes are the declarations of its program, from left to
right: a function's name before its parameters, and these before its body, and
the name behind `LET` before what it is set to. Nothing is ever taken back. So
the scope behind a program can be read off its tokens, without a tree: it maps a
name to the kind of the first token that declares it.
-/

namespace Offside

namespace Scope

variable {scope : Scope} {name other : String} {kind kind' : NameKind}
  {calls before behind : List (String × NameKind)}

/-! ## Declarations one after the other -/

/-- The answers to declarations that are made one after the other, each telling whether the name
was new, and the scope behind them. -/
def declareAll (scope : Scope) : (calls : List (String × NameKind)) → List Bool × Scope
  | [] => ([], scope)
  | (name, kind) :: calls =>
    let (answers, last) := (scope.declare name kind).declareAll calls
    ((!scope.declares name) :: answers, last)

theorem kind?_declare (scope : Scope) (other : String) (kind : NameKind) (name : String) :
    (scope.declare other kind).kind? name = (scope.kind? name).or ([(other, kind)].lookup name) := by
  unfold declare
  split
  · exact List.lookup_append
  · next known =>
    by_cases same : name = other
    · subst same
      obtain ⟨first, known⟩ := Option.ne_none_iff_exists'.1 known
      rw [known]
      rfl
    · rw [List.lookup_cons, beq_false_of_ne same]
      exact Option.or_none.symm

/-- What was known is still known as it was, and a name that is new has the kind of the first call
that tells of it. -/
theorem kind?_declareAll (scope : Scope) (calls : List (String × NameKind)) (name : String) :
    (scope.declareAll calls).2.kind? name = (scope.kind? name).or (calls.lookup name) := by
  induction calls generalizing scope with
  | nil => exact Option.or_none.symm
  | cons call calls ih =>
    obtain ⟨other, kind⟩ := call
    have first := kind?_declare scope other kind name
    rw [declareAll, ih, first, Option.or_assoc, ← List.lookup_append]
    rfl

theorem length_declareAll (scope : Scope) (calls : List (String × NameKind)) :
    (scope.declareAll calls).1.length = calls.length := by
  induction calls generalizing scope with
  | nil => rfl
  | cons call calls ih => exact congrArg Nat.succ (ih _)

/-- The answer to a call depends on the scope behind the calls before it. -/
theorem answer_declareAll (scope : Scope) (before : List (String × NameKind)) (name : String)
    (kind : NameKind) (behind : List (String × NameKind)) :
    (scope.declareAll (before ++ (name, kind) :: behind)).1[before.length]? =
      some (!(scope.declareAll before).2.declares name) := by
  induction before generalizing scope with
  | nil => rfl
  | cons call before ih => exact ih _

/-- The name is new to a scope that was empty if none of the calls before tells of it. -/
theorem declares_declareAll_empty : (empty.declareAll calls).2.declares name = true ↔
    name ∈ calls.map Prod.fst := by
  rw [declares, kind?_declareAll, ← Decidable.not_iff_not, Bool.not_eq_true,
    Option.isSome_eq_false_iff, Option.isNone_iff_eq_none]
  show calls.lookup name = none ↔ _
  rw [List.lookup_eq_none_iff, List.mem_map]
  simp only [bne_iff_ne]
  constructor
  · rintro other ⟨call, member, rfl⟩
    exact other call member rfl
  · exact fun absent call member same => absent ⟨call, member, same.symm⟩

/-! ## What a scope holds -/

theorem mem_entries_iff : (name, kind) ∈ scope.entries ↔ scope.kind? name = some kind := by
  rw [kind?, List.lookup_eq_some_iff]
  constructor
  · intro member
    obtain ⟨before, behind, split⟩ := List.append_of_mem member
    have nodup := scope.nodup
    refine ⟨before, behind, split, fun entry earlier => bne_iff_ne.2 ?_⟩
    rw [split, List.map_append, List.nodup_append] at nodup
    exact (nodup.2.2 _ (List.mem_map_of_mem earlier) _ List.mem_cons_self).symm
  · rintro ⟨before, behind, split, -⟩
    rw [split]
    exact List.mem_append_right _ List.mem_cons_self

/-- A scope has as many entries as names. -/
theorem size_eq_card : scope.size = (scope.entries.map Prod.fst).toFinset.card := by
  rw [List.toFinset_card_of_nodup scope.nodup, List.length_map]
  rfl

theorem sorted_perm : scope.sorted.Perm scope.entries := List.mergeSort_perm _ _

end Scope

/-! ## The declarations of a program -/

/-- What is declared at a leaf, with its kind. -/
def Leaf.declaration? : Leaf → Option (String × NameKind)
  | .declared role name => some (name, role.kind)
  | _ => none

theorem Leaf.declaration?_eq_some_iff {leaf : Leaf} {name : String} {kind : NameKind} :
    leaf.declaration? = some (name, kind) ↔ ∃ role, leaf = .declared role name ∧ role.kind = kind := by
  cases leaf with
  | declared role other =>
    simp only [declaration?, Option.some.injEq, Prod.mk.injEq, declared.injEq]
    constructor
    · rintro ⟨rfl, rfl⟩
      exact ⟨role, ⟨rfl, rfl⟩, rfl⟩
    · rintro ⟨role', ⟨rfl, rfl⟩, rfl⟩
      exact ⟨rfl, rfl⟩
  | _ => simp [declaration?]

/-- The scope behind some leaves is the one behind their declarations. -/
theorem Scope.behindAll_eq_declareAll (scope : Scope) (leaves : List Leaf) :
    scope.behindAll leaves = (scope.declareAll (leaves.filterMap Leaf.declaration?)).2 := by
  induction leaves generalizing scope with
  | nil => rfl
  | cons leaf leaves ih =>
    cases leaf with
    | declared role name => exact ih _
    | _ => exact ih _

/-- The kind of a name is that of the first leaf that declares it. -/
theorem Scope.kind?_behindAll_empty {leaves : List Leaf} {name : String} {kind : NameKind} :
    (empty.behindAll leaves).kind? name = some kind ↔ ∃ role front behind,
      leaves = front ++ .declared role name :: behind ∧ role.kind = kind ∧
        ∀ role', .declared role' name ∉ front := by
  rw [behindAll_eq_declareAll, kind?_declareAll]
  show (leaves.filterMap Leaf.declaration?).lookup name = some kind ↔ _
  rw [List.lookup_eq_some_iff]
  constructor
  · rintro ⟨earlier, later, split, other⟩
    obtain ⟨front, rest, rfl, rfl, rest'⟩ := List.filterMap_eq_append_iff.1 split
    obtain ⟨mid, leaf, behind, rfl, none, declares, -⟩ := List.filterMap_eq_cons_iff.1 rest'
    obtain ⟨role, rfl, same⟩ := Leaf.declaration?_eq_some_iff.1 declares
    refine ⟨role, front ++ mid, behind, (List.append_assoc _ _ _).symm, same, fun role' member => ?_⟩
    rcases List.mem_append.1 member with member | member
    · have told := other _ (List.mem_filterMap.2 ⟨_, member, rfl⟩)
      simp at told
    · cases none _ member
  · rintro ⟨role, front, behind, rfl, rfl, fresh⟩
    refine ⟨front.filterMap Leaf.declaration?, behind.filterMap Leaf.declaration?,
      by simp [Leaf.declaration?], fun call member => ?_⟩
    obtain ⟨leaf, member, declares⟩ := List.mem_filterMap.1 member
    obtain ⟨role', rfl, -⟩ := Leaf.declaration?_eq_some_iff.1 declares
    refine bne_iff_ne.2 fun same => fresh role' ?_
    rwa [same]

/-- Behind `before`, one of the words declares the name. -/
def DeclaredAt (words before : List Word) (name : String) (role : Role) : Prop :=
  ∃ behind, words = before ++ ⟨.identifier, name⟩ :: behind ∧
    Declares (before.map Word.kind) role

/-- A program declares a name at the words that its tree says. -/
theorem Tree.declaredAt_iff (program : Tree .program) {before : List Word} {name : String}
    {role : Role} : DeclaredAt (program.leaves.map Leaf.word ++ [.last]) before name role ↔
      ∃ front behind, program.leaves = front ++ .declared role name :: behind ∧
        front.map Leaf.word = before := by
  have kinds (front : List Leaf) : (front.map Leaf.word).map Word.kind = front.map Leaf.kind :=
    List.map_map
  constructor
  · rintro ⟨behind, whole, declares⟩
    rcases List.eq_nil_or_concat behind with rfl | ⟨rest, last, rfl⟩
    · cases (List.append_inj' whole rfl).2
    · rw [List.concat_eq_append, ← List.cons_append, ← List.append_assoc] at whole
      obtain ⟨front, others, split, rfl, others'⟩ :=
        List.map_eq_append_iff.1 (List.append_inj' whole rfl).1
      obtain ⟨leaf, behind, rfl, word, -⟩ := List.map_eq_cons_iff.1 others'
      have named : leaf.kind = .identifier := congrArg Word.kind word
      rw [kinds, ← program.role?_leaf_iff split named] at declares
      cases leaf with
      | declared role' other =>
        cases declares
        cases word
        exact ⟨front, behind, split, rfl⟩
      | _ => cases declares
  · rintro ⟨front, behind, split, rfl⟩
    refine ⟨behind.map Leaf.word ++ [.last], ?_, ?_⟩
    · rw [split, List.map_append, List.append_assoc]
      rfl
    · rw [kinds]
      exact (program.role?_leaf_iff split rfl role).1 rfl

/-- The scope behind a program has the kind of a name from the first of its words to declare it. -/
theorem Tree.kind?_scope_iff (program : Tree .program) {name : String} {kind : NameKind} :
    (Scope.empty.behindAll program.leaves).kind? name = some kind ↔ ∃ before role,
      DeclaredAt (program.leaves.map Leaf.word ++ [.last]) before name role ∧ role.kind = kind ∧
        ∀ before' role', DeclaredAt (program.leaves.map Leaf.word ++ [.last]) before' name role' →
          before.length ≤ before'.length := by
  rw [Scope.kind?_behindAll_empty]
  simp only [program.declaredAt_iff]
  constructor
  · rintro ⟨role, front, behind, split, same, fresh⟩
    refine ⟨front.map Leaf.word, role, ⟨front, behind, split, rfl⟩, same, ?_⟩
    rintro _ role' ⟨front', behind', split', rfl⟩
    rw [List.length_map, List.length_map]
    refine Nat.le_of_not_lt fun shorter => ?_
    have earlier : front[front'.length]? = some (.declared role' name) := by
      rw [← List.getElem?_append_left shorter, ← split, split',
        List.getElem?_append_right (Nat.le_refl _), Nat.sub_self]
      rfl
    exact fresh role' (List.mem_of_getElem? earlier)
  · rintro ⟨_, role, ⟨front, behind, split, rfl⟩, same, least⟩
    refine ⟨role, front, behind, split, same, fun role' member => ?_⟩
    obtain ⟨front', mid, rfl⟩ := List.append_of_mem member
    have least := least _ role' ⟨front', mid ++ .declared role name :: behind, by simp [split], rfl⟩
    simp at least

/-! ## Both -/

/-- The first call for each name is the one that counts: for the answers, which tell if a name is
new, and for the kinds in the scope behind the calls. -/
structure FirstWins (calls : List (String × NameKind)) (answers : List Bool) (scope : Scope) :
    Prop where
  length : answers.length = calls.length
  answer : ∀ before name kind behind, calls = before ++ (name, kind) :: behind →
    answers[before.length]? = some (decide (name ∉ before.map Prod.fst))
  kind? : ∀ name, scope.kind? name = calls.lookup name
  size : scope.size = (calls.map Prod.fst).toFinset.card
  nodup : (scope.sorted.map Prod.fst).Nodup
  mem_sorted : ∀ name kind, (name, kind) ∈ scope.sorted ↔ calls.lookup name = some kind

theorem Scope.firstWins (calls : List (String × NameKind)) :
    FirstWins calls (empty.declareAll calls).1 (empty.declareAll calls).2 where
  length := length_declareAll _ _
  answer := by
    rintro before name kind behind rfl
    simp only [answer_declareAll, ← declares_declareAll_empty, decide_not, Bool.decide_eq_true]
  kind? := kind?_declareAll .empty calls
  size := by
    rw [size_eq_card]
    congr 1
    ext name
    rw [List.mem_toFinset, List.mem_toFinset, ← declares_iff, declares_declareAll_empty]
  nodup := (sorted_perm.map Prod.fst).nodup_iff.2 (empty.declareAll calls).2.nodup
  mem_sorted name kind := by
    rw [sorted_perm.mem_iff, mem_entries_iff, kind?_declareAll]
    rfl

/-- A scope that was empty keeps the first kind of each name that it is told of, in whichever order,
and tells of each call whether the name was new. And behind a program that is compiled, the scope
holds the names that its tokens declare, each with the kind of the first token to declare it. -/
theorem declarations_first_win (calls : List (String × NameKind)) :
    FirstWins calls (Scope.empty.declareAll calls).1 (Scope.empty.declareAll calls).2 ∧
    ∀ (source : String) (width : Nat) (target : Target) (s s' : Session),
      Session.start source width target = .ok s → s.program = .done s' →
      ∃ tokens, Lexer.tokens source = .ok tokens ∧ ∀ name kind,
        s'.scope.kind? name = some kind ↔ ∃ before role,
          DeclaredAt (tokens.map Token.word) before name role ∧ role.kind = kind ∧
          ∀ before' role', DeclaredAt (tokens.map Token.word) before' name role' →
            before.length ≤ before'.length := by
  refine ⟨Scope.firstWins calls, fun source width target s s' started done => ?_⟩
  obtain ⟨tokens, program, read, spells, -, entries⟩ :=
    Session.recounts_of_program_done started done
  refine ⟨tokens, read, fun name kind => ?_⟩
  rw [show tokens.map Token.word = _ from spells, ← program.kind?_scope_iff, Scope.kind?, entries,
    ← Scope.entries_behindAll_empty]
  rfl

/-- A function keeps its kind when its own body sets a variable of that name, and so it does when
the scope is told of it twice. -/
theorem declarations_first_win_shadowed :
    (Scope.empty.declareAll [("f", .function), ("f", .variable)]).2.kind? "f" = some .function ∧
    ∃ s s' tokens before role,
      Session.start "FUNC f(a)\nLET f = 1\nENDFUNC" 4 .python = .ok s ∧ s.program = .done s' ∧
        s'.scope.kind? "f" = some .function ∧
        Lexer.tokens "FUNC f(a)\nLET f = 1\nENDFUNC" = .ok tokens ∧
        DeclaredAt (tokens.map Token.word) before "f" role ∧ role.kind = .function := by
  obtain ⟨wins, named⟩ := declarations_first_win [("f", .function), ("f", .variable)]
  refine ⟨wins.kind? "f", ?_⟩
  obtain ⟨s, s', started, done, kind⟩ := @exists_done "FUNC f(a)\nLET f = 1\nENDFUNC" 4 .python _
    (fun s' => s'.scope.kind? "f") .function (by cbv)
  obtain ⟨tokens, read, kinds⟩ := named _ _ _ s s' started done
  obtain ⟨before, role, declared, same, -⟩ := (kinds "f" .function).1 kind
  exact ⟨s, s', tokens, before, role, started, done, kind, read, declared, same⟩

end Offside
