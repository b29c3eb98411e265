/-!
# Declared names

A name may be read once it has been declared. Variables and functions share one scope that only
grows: a function body does not open a scope of its own, and declaring a name a second time changes
nothing, so that a name keeps the kind it was first declared with.
-/

namespace Offside

/-- How a name was first declared. -/
inductive NameKind where
  | variable
  | function
deriving Repr, DecidableEq

/-- The name of a kind of name in the log. -/
def NameKind.description : NameKind → String
  | .variable => "Variable"
  | .function => "Function"

/-- The places in a program where a name is declared. -/
inductive Role where
  | function
  | letTarget
  | inputTarget
  | parameter
deriving Repr, DecidableEq

/-- The kind that a name gets in its place. -/
def Role.kind : Role → NameKind
  | .function => .function
  | .letTarget | .inputTarget | .parameter => .variable

/-- The names declared so far, in the order of their first declarations. -/
structure Scope where
  entries : List (String × NameKind) := []
  nodup : (entries.map Prod.fst).Nodup := by simp

namespace Scope

/-- The scope without names. -/
def empty : Scope := {}

instance : Inhabited Scope := ⟨empty⟩

/-- The kind of a declared name. -/
def kind? (scope : Scope) (name : String) : Option NameKind := scope.entries.lookup name

/-- Whether a name has been declared. -/
def declares (scope : Scope) (name : String) : Bool := (scope.kind? name).isSome

theorem kind?_eq_none_iff {scope : Scope} {name : String} :
    scope.kind? name = none ↔ name ∉ scope.entries.map Prod.fst := by
  rw [kind?, List.lookup_eq_none_iff, List.mem_map]
  constructor
  · rintro other ⟨entry, declared, rfl⟩
    simpa using other entry declared
  · intro absent entry declared
    simpa using fun same : name = entry.1 => absent ⟨entry, declared, same.symm⟩

/-- The scope after a declaration. -/
def declare (scope : Scope) (name : String) (kind : NameKind) : Scope :=
  if new : scope.kind? name = none then
    { entries := scope.entries ++ [(name, kind)]
      nodup := by
        rw [List.map_append, List.nodup_append]
        refine ⟨scope.nodup, by simp, fun other declared last member => ?_⟩
        rw [List.map_singleton, List.mem_singleton] at member
        rintro rfl
        subst member
        exact kind?_eq_none_iff.1 new declared }
  else scope

/-- The number of declared names. -/
def size (scope : Scope) : Nat := scope.entries.length

/-- The declared names with their kinds, by code points in ascending order. -/
def sorted (scope : Scope) : List (String × NameKind) :=
  scope.entries.mergeSort fun a b => !decide (b.1 < a.1)

end Scope

end Offside
