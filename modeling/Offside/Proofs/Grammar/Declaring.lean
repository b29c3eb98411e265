import Offside.Proofs.Grammar.Apart
import Offside.Proofs.Grammar.Resolved

/-!
# Where names are declared

In a tree the leaves say which of the names are declared. In a text they do not
have to: an identifier is declared behind `LET`, `INPUT` and `FUNC`, and in the
list of parameters that follows a function's name, and it is read everywhere
else. How deep the statement is nested, and in which functions, plays no part.

So the words can be scanned from left to right, with the spot kept in mind that
they have led to. A tree that stands within a line is scanned without leaving
the spot where nothing is declared, and a command begins at a spot of its own,
whatever came before. This is an induction over the trees; that the spots are
those that are meant is one over the words.
-/

namespace Offside

/-- What an identifier declares behind words of these kinds. -/
inductive Declares : (before : List Token.Kind) → Role → Prop where
  | letTarget {before : List Token.Kind} : Declares (before ++ [.keyword .let]) .letTarget
  | inputTarget {before : List Token.Kind} : Declares (before ++ [.keyword .input]) .inputTarget
  | function {before : List Token.Kind} : Declares (before ++ [.keyword .func]) .function
  | parameter {before names : List Token.Kind}
      (listed : ∀ kind ∈ names, kind = .identifier ∨ kind = .comma) :
    Declares (before ++ [.keyword .func, .identifier, .openParen] ++ names) .parameter

theorem Declares.snoc {kinds : List Token.Kind} {kind : Token.Kind}
    (declares : Declares kinds .parameter) (listed : kind = .identifier ∨ kind = .comma) :
    Declares (kinds ++ [kind]) .parameter := by
  obtain _ | _ | _ | listed' := declares
  rw [List.append_assoc]
  refine .parameter fun other member => ?_
  rcases List.mem_append.1 member with member | member
  · exact listed' other member
  · rwa [List.mem_singleton.1 member]

/-- What is declared at a leaf. -/
def Leaf.role? : Leaf → Option Role
  | .declared role _ => some role
  | _ => none

/-! ## Spots -/

/-- What is to be made of an identifier, if it comes next. -/
inductive Spot where
  /-- It is not declared here. -/
  | elsewhere
  | declaring (role : Role)
  /-- It is not declared here, but will be behind an opening parenthesis. -/
  | opening

namespace Spot

/-- The spot behind a word of some kind. -/
def past : Spot → Token.Kind → Spot
  | _, .keyword .let => .declaring .letTarget
  | _, .keyword .input => .declaring .inputTarget
  | _, .keyword .func => .declaring .function
  | .declaring .function, .identifier => .opening
  | .opening, .openParen => .declaring .parameter
  | .declaring .parameter, .identifier | .declaring .parameter, .comma => .declaring .parameter
  | _, _ => .elsewhere

/-- The spot behind words of these kinds. -/
def pastAll (spot : Spot) (kinds : List Token.Kind) : Spot := kinds.foldl past spot

/-- What an identifier declares here. -/
def role? : Spot → Option Role
  | .declaring role => some role
  | _ => none

/-- What is known of the words that have led to a spot. -/
def Behind : Spot → List Token.Kind → Prop
  | .elsewhere, _ => True
  | .declaring role, kinds => Declares kinds role
  | .opening, kinds => ∃ before, kinds = before ++ [.keyword .func, .identifier]

variable {spot : Spot} {kinds : List Token.Kind} {role : Role}

theorem behind_past (led : spot.Behind kinds) (kind : Token.Kind) :
    (spot.past kind).Behind (kinds ++ [kind]) := by
  unfold past
  split
  · exact .letTarget
  · exact .inputTarget
  · exact .function
  · cases led with
    | function => exact ⟨_, List.append_assoc _ _ _⟩
  · obtain ⟨before, rfl⟩ := led
    have declares : Declares (before ++ [.keyword .func, .identifier, .openParen] ++ [])
      .parameter := .parameter nofun
    simpa [Behind] using declares
  · exact led.snoc (.inl rfl)
  · exact led.snoc (.inr rfl)
  · trivial

theorem behind_pastAll {before : List Token.Kind} (led : spot.Behind before)
    (kinds : List Token.Kind) : (spot.pastAll kinds).Behind (before ++ kinds) := by
  induction kinds generalizing spot before with
  | nil => rwa [List.append_nil]
  | cons kind kinds ih =>
    have led := ih (behind_past led kind)
    rwa [List.append_assoc] at led

theorem pastAll_append (spot : Spot) (kinds more : List Token.Kind) :
    spot.pastAll (kinds ++ more) = (spot.pastAll kinds).pastAll more :=
  List.foldl_append

theorem pastAll_concat (spot : Spot) (kinds : List Token.Kind) (kind : Token.Kind) :
    spot.pastAll (kinds ++ [kind]) = (spot.pastAll kinds).past kind :=
  pastAll_append spot kinds [kind]

@[simp] theorem past_let (spot : Spot) : spot.past (.keyword .let) = .declaring .letTarget := by
  cases spot <;> rfl

@[simp] theorem past_input (spot : Spot) :
    spot.past (.keyword .input) = .declaring .inputTarget := by
  cases spot <;> rfl

@[simp] theorem past_func (spot : Spot) : spot.past (.keyword .func) = .declaring .function := by
  cases spot <;> rfl

theorem pastAll_listed (listed : ∀ kind ∈ kinds, kind = .identifier ∨ kind = .comma) :
    (declaring .parameter).pastAll kinds = .declaring .parameter := by
  induction kinds with
  | nil => rfl
  | cons kind kinds ih =>
    have others := ih fun other member => listed other (List.mem_cons_of_mem _ member)
    rcases listed kind List.mem_cons_self with rfl | rfl <;> exact others

/-- The spot that words have led to tells what comes next. -/
theorem role?_pastAll : (pastAll .elsewhere kinds).role? = some role ↔ Declares kinds role := by
  constructor
  · intro told
    have led := @behind_pastAll .elsewhere [] trivial kinds
    rw [List.nil_append] at led
    generalize pastAll .elsewhere kinds = spot at told led
    cases spot with
    | declaring role' =>
      obtain rfl := Option.some.inj told
      exact led
    | elsewhere | opening => cases told
  · intro declares
    cases declares with
    | letTarget =>
      rw [pastAll_concat, past_let]
      rfl
    | inputTarget =>
      rw [pastAll_concat, past_input]
      rfl
    | function =>
      rw [pastAll_concat, past_func]
      rfl
    | @parameter before names listed =>
      have opened : pastAll (past (pastAll .elsewhere before) (.keyword .func))
          [.identifier, .openParen] = .declaring .parameter := by
        rw [past_func]
        rfl
      rw [pastAll_append, pastAll_append]
      show (pastAll (pastAll (past _ _) [.identifier, .openParen]) names).role? = _
      rw [opened, pastAll_listed listed]
      rfl

/-! ## Scanning a tree -/

/-- The spots that the leaves lead to, from this one on, tell which of their identifiers are
declared. -/
def Tells (spot : Spot) : List Leaf → Prop
  | [] => True
  | leaf :: leaves =>
    (leaf.kind = .identifier → leaf.role? = spot.role?) ∧ (spot.past leaf.kind).Tells leaves

variable {leaves more : List Leaf}

@[simp] theorem tells_nil (spot : Spot) : spot.Tells [] := trivial

@[simp] theorem tells_fixed {kind : Token.Kind} (leaves : List Leaf)
    (other : kind ≠ .identifier) :
    spot.Tells (.fixed kind :: leaves) ↔ (spot.past kind).Tells leaves :=
  and_iff_right fun same => absurd same other

@[simp] theorem tells_declared (role : Role) (name : String) (leaves : List Leaf) :
    (declaring role).Tells (.declared role name :: leaves) ↔
      ((declaring role).past .identifier).Tells leaves :=
  and_iff_right fun _ => rfl

@[simp] theorem tells_append : spot.Tells (leaves ++ more) ↔
    spot.Tells leaves ∧ (spot.pastAll (leaves.map Leaf.kind)).Tells more := by
  induction leaves generalizing spot with
  | nil => exact ⟨fun tells => ⟨trivial, tells⟩, And.right⟩
  | cons leaf leaves ih => rw [List.cons_append, Tells, Tells, ih, and_assoc]; rfl

/-- Three keywords lead to a name that is declared, and the others to no spot of their own. -/
@[simp] theorem past_keyword_other (spot : Spot) {word : Keyword}
    (other : word ≠ .let ∧ word ≠ .input ∧ word ≠ .func) :
    spot.past (.keyword word) = .elsewhere := by
  obtain ⟨notLet, notInput, notFunc⟩ := other
  cases word with
  | «let» => exact absurd rfl notLet
  | input => exact absurd rfl notInput
  | func => exact absurd rfl notFunc
  | _ => cases spot <;> rfl

@[simp] theorem tells_blankLeaves (spot : Spot) (count : Nat) :
    spot.Tells (blankLeaves count) := by
  induction count generalizing spot with
  | zero => trivial
  | succ count ih => exact ⟨nofun, ih _⟩

@[simp] theorem tells_lineLeaves (spot : Spot) (blank : Nat) : spot.Tells (lineLeaves blank) :=
  spot.tells_blankLeaves (blank + 1)

theorem past_of_isWritten {kind : Token.Kind} (written : kind.isWritten = true) :
    Spot.past .elsewhere kind = .elsewhere := by
  cases kind with
  | keyword word => cases word <;> first | rfl | cases written
  | _ => rfl

theorem tells_of_written (written : ∀ leaf ∈ leaves, leaf.kind.isWritten = true)
    (plain : ∀ leaf ∈ leaves, leaf.role? = none) : Tells .elsewhere leaves := by
  induction leaves with
  | nil => trivial
  | cons leaf leaves ih =>
    obtain ⟨first, others⟩ := List.forall_mem_cons.1 written
    obtain ⟨first', others'⟩ := List.forall_mem_cons.1 plain
    refine ⟨fun _ => first', ?_⟩
    rw [past_of_isWritten first]
    exact ih others others'

end Spot

namespace Tree

variable {category : Category}

/-- In a line, names are declared as parameters only. -/
theorem role?_of_mem_leaves (tree : Tree category) (inline_ : category.isInline = true)
    (other : category ≠ .parameters ∧ category ≠ .moreParameters) :
    ∀ leaf ∈ tree.leaves, leaf.role? = none := by
  induction tree with
  | condition first others ih ih' | conjunction first others ih ih' | comparison first others ih ih'
  | expression first others ih ih' | term first others ih ih' | arguments first others ih ih' =>
    exact List.forall_mem_append.2 ⟨ih rfl (by decide), ih' rfl (by decide)⟩
  | nextConjunction next others ih ih' | nextConjunct next others ih ih'
  | nextTerm _ _ next others ih ih' | nextFactor _ _ next others ih ih'
  | nextArgument next others ih ih' | rightSide _ _ next others ih ih' =>
    exact List.forall_mem_cons.2
      ⟨rfl, List.forall_mem_append.2 ⟨ih rfl (by decide), ih' rfl (by decide)⟩⟩
  | not negated ih | signed _ _ negated ih =>
    exact List.forall_mem_cons.2 ⟨rfl, ih rfl (by decide)⟩
  | group test ih =>
    exact List.forall_mem_cons.2 ⟨rfl, List.forall_mem_append.2
      ⟨ih rfl (by decide), List.forall_mem_singleton.2 rfl⟩⟩
  | call name values ih =>
    exact List.forall_mem_cons.2 ⟨rfl, List.forall_mem_cons.2 ⟨rfl, List.forall_mem_append.2
      ⟨ih rfl (by decide), List.forall_mem_singleton.2 rfl⟩⟩⟩
  | compared inner ih | printedValue inner ih | nextRightSide inner ih | plain inner ih
  | called inner ih => exact ih rfl (by decide)
  | literal | number | read => exact List.forall_mem_singleton.2 rfl
  | lastConjunction | lastConjunct | lastRightSide | lastTerm | lastFactor | noArguments
  | lastArgument => exact nofun
  | parameters | noParameters => exact absurd rfl other.1
  | nextParameter | lastParameter => exact absurd rfl other.2
  | _ => cases inline_

theorem tells_inline (tree : Tree category) (inline_ : category.isInline = true)
    (other : category ≠ .parameters ∧ category ≠ .moreParameters) :
    Spot.Tells .elsewhere tree.leaves :=
  Spot.tells_of_written (tree.isWritten_of_mem_leaves inline_)
    (tree.role?_of_mem_leaves inline_ other)

/-- Parameters are declared one behind the other, and nothing but parentheses comes around them. -/
theorem tells_moreParameters : (tree : Tree .moreParameters) →
    (Spot.declaring .parameter).Tells tree.leaves ∧
      (Spot.declaring .parameter).pastAll (tree.leaves.map Leaf.kind) = .declaring .parameter
  | .lastParameter => ⟨trivial, rfl⟩
  | .nextParameter _ others =>
    have ⟨tells, past⟩ := others.tells_moreParameters
    ⟨⟨nofun, fun _ => rfl, tells⟩, past⟩

theorem tells_parameters : (tree : Tree .parameters) →
    (Spot.declaring .parameter).Tells tree.leaves ∧
      (Spot.declaring .parameter).pastAll (tree.leaves.map Leaf.kind) = .declaring .parameter
  | .noParameters => ⟨trivial, rfl⟩
  | .parameters _ others =>
    have ⟨tells, past⟩ := others.tells_moreParameters
    ⟨⟨fun _ => rfl, tells⟩, past⟩

/-- Wherever a tree of several lines stands, its names are found by scanning it. -/
theorem tells_leaves (tree : Tree category) (outline : category.isInline = false) (spot : Spot) :
    spot.Tells tree.leaves := by
  induction tree generalizing spot with
  | program blank statements ih => simp [leaves, ih rfl]
  | blankLines count => simp [leaves]
  | noStatement => simp [leaves]
  | nextStatement first others ih ih' => simp [leaves, ih rfl, ih' rfl]
  | statement command blank ih => simp [leaves, ih rfl]
  | body statements ih => simp [leaves, ih rfl]
  | branch test blank consequent alternative ih ih' ih'' =>
    simp [leaves, ih' rfl, ih'' rfl, test.tells_inline rfl (by decide)]
  | loop test blank inner ih ih' => simp [leaves, ih' rfl, test.tells_inline rfl (by decide)]
  | function name names blank inner ih ih' =>
    simp [leaves, ih' rfl, names.tells_parameters, Spot.past]
  | noElse => simp [leaves]
  | otherwise blank inner ih => simp [leaves, ih rfl]
  | print printed => simp [leaves, printed.tells_inline rfl (by decide)]
  | assign name value => simp [leaves, value.tells_inline rfl (by decide), Spot.past]
  | input name => simp [leaves]
  | giveBack value => simp [leaves, value.tells_inline rfl (by decide)]
  | _ => cases outline

/-- The identifiers of a program that are declared are those in the places for it. -/
theorem role?_leaf_iff (program : Tree .program) {before behind : List Leaf} {leaf : Leaf}
    (split : program.leaves = before ++ leaf :: behind) (named : leaf.kind = .identifier)
    (role : Role) : leaf.role? = some role ↔ Declares (before.map Leaf.kind) role := by
  have tells := program.tells_leaves rfl .elsewhere
  rw [split, Spot.tells_append] at tells
  rw [tells.2.1 named, Spot.role?_pastAll]

end Tree

end Offside
