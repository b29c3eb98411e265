import Mathlib
import Offside.Proofs.Lexing.Spelling
import Offside.Proofs.Session.Accepts

/-!
# Errors are found as early as can be

Words are viable if some source that is compiled begins with them. Whatever a
run has taken is viable: each symbol that is still to come can be given leaves
that read no name, so they are at home in every scope, and the words of the
whole are those of some source. The token that a run refuses is another matter,
since no text that the symbols of a program await goes on with it. So the error
is about the first token that no program could have in its place.
-/

namespace Offside

/-! ## Filling a program up -/

/-- A leaf that may be put anywhere in a source: its word can be written, and it reads no name. -/
structure Leaf.Harmless (leaf : Leaf) : Prop where
  proper : leaf.word.Proper
  more : leaf.kind ≠ .endOfInput
  unread : ∀ name, leaf ≠ .read name

theorem harmless_fixed {kind : Token.Kind} (plain : kind.hasText = false)
    (more : kind ≠ .endOfInput) : (Leaf.fixed kind).Harmless where
  proper := Word.proper_fixed plain
  more := more
  unread _ := Leaf.noConfusion

theorem harmless_zero : (Leaf.number "0").Harmless where
  proper := ⟨['0'], by simp, List.all_eq_true.1 rfl, .inl rfl⟩
  more := Token.Kind.noConfusion
  unread _ := Leaf.noConfusion

theorem proper_x : (Word.mk .identifier "x").Proper :=
  ⟨⟨'x', [], by decide, by decide, by simp⟩, by decide⟩

theorem harmless_declared (role : Role) : (Leaf.declared role "x").Harmless where
  proper := proper_x
  more := Token.Kind.noConfusion
  unread _ := Leaf.noConfusion

theorem resolved_of_harmless {scope : Scope} {leaves : List Leaf}
    (harmless : ∀ leaf ∈ leaves, leaf.Harmless) : Resolved scope leaves := by
  rw [resolved_iff]
  intro before name behind same
  subst same
  exact absurd rfl ((harmless (.read name) (by simp)).unread name)

namespace Tree

/-- The expression `0`. -/
def zero : Tree .expression := .expression (.term (.plain (.number "0")) .lastFactor) .lastTerm

/-- The right side `== 0`. -/
def equalsZero : Tree .rightSide := .rightSide .equal rfl zero .lastRightSide

/-- The conjunct `0 == 0`. -/
def truth : Tree .conjunct := .compared (.comparison zero equalsZero)

/-- All leaves of the tree may be put anywhere, and the tree may stand outside of functions. -/
def Fills {category : Category} (tree : Tree category) : Prop :=
  (∀ leaf ∈ tree.leaves, leaf.Harmless) ∧ ∀ inFunction, tree.ReturnsBelong inFunction

theorem fills_of_eq_nil {category : Category} {tree : Tree category} (none : tree.leaves = [])
    (belongs : ∀ inFunction, tree.ReturnsBelong inFunction) : tree.Fills := by
  refine ⟨?_, belongs⟩
  rw [none]
  simp

theorem harmless_truth : ∀ leaf ∈ truth.leaves, leaf.Harmless := by
  intro leaf member
  have one : leaf = .number "0" ∨ leaf = .fixed .equal ∨ leaf = .number "0" := by
    simpa [truth, equalsZero, zero, leaves] using member
  rcases one with rfl | rfl | rfl
  · exact harmless_zero
  · exact harmless_fixed rfl (by simp)
  · exact harmless_zero

theorem harmless_equalsZero : ∀ leaf ∈ equalsZero.leaves, leaf.Harmless :=
  fun leaf member => harmless_truth leaf (List.mem_cons_of_mem _ member)

theorem harmless_zero_leaves : ∀ leaf ∈ zero.leaves, leaf.Harmless := by
  intro leaf member
  obtain rfl := List.mem_singleton.1 member
  exact harmless_zero

/-- The command `INPUT x`, which stands for any. -/
theorem harmless_input : ∀ leaf ∈ (Tree.input "x").leaves, leaf.Harmless := by
  intro leaf member
  rcases List.mem_cons.1 member with rfl | member
  · exact harmless_fixed rfl (by simp)
  · obtain rfl := List.mem_singleton.1 member
    exact harmless_declared .inputTarget

/-- Every phrase but a call has a tree that can be put in its place anywhere. -/
theorem exists_fills {phrase : Phrase} (h : phrase ≠ .call) :
    ∃ tree : Tree phrase.category, tree.Fills := by
  cases phrase with
  | call => exact absurd rfl h
  | blankLines => exact ⟨.blankLines 0, fills_of_eq_nil rfl fun _ => trivial⟩
  | statements | moreStatements => exact ⟨.noStatement, fills_of_eq_nil rfl fun _ => trivial⟩
  | statement =>
    refine ⟨.statement (.input "x") 0, fun leaf member => ?_, fun _ => trivial⟩
    rcases List.mem_append.1 member with member | member
    · exact harmless_input leaf member
    · obtain rfl := List.mem_singleton.1 member
      exact harmless_fixed rfl (by simp)
  | block | blockBody => exact ⟨.body .noStatement, fills_of_eq_nil rfl fun _ => trivial⟩
  | printed => exact ⟨.printedValue zero, harmless_zero_leaves, fun _ => trivial⟩
  | elseBranch => exact ⟨.noElse, fills_of_eq_nil rfl fun _ => trivial⟩
  | parameters => exact ⟨.noParameters, fills_of_eq_nil rfl fun _ => trivial⟩
  | moreParameters => exact ⟨.lastParameter, fills_of_eq_nil rfl fun _ => trivial⟩
  | condition =>
    exact ⟨.condition (.conjunction truth .lastConjunct) .lastConjunction, harmless_truth,
      fun _ => trivial⟩
  | moreConjunctions => exact ⟨.lastConjunction, fills_of_eq_nil rfl fun _ => trivial⟩
  | conjunction => exact ⟨.conjunction truth .lastConjunct, harmless_truth, fun _ => trivial⟩
  | moreConjuncts => exact ⟨.lastConjunct, fills_of_eq_nil rfl fun _ => trivial⟩
  | conjunct => exact ⟨truth, harmless_truth, fun _ => trivial⟩
  | comparison => exact ⟨.comparison zero equalsZero, harmless_truth, fun _ => trivial⟩
  | rightSide => exact ⟨equalsZero, harmless_equalsZero, fun _ => trivial⟩
  | moreRightSides => exact ⟨.lastRightSide, fills_of_eq_nil rfl fun _ => trivial⟩
  | expression => exact ⟨zero, harmless_zero_leaves, fun _ => trivial⟩
  | moreTerms => exact ⟨.lastTerm, fills_of_eq_nil rfl fun _ => trivial⟩
  | term => exact ⟨.term (.plain (.number "0")) .lastFactor, harmless_zero_leaves, fun _ => trivial⟩
  | moreFactors => exact ⟨.lastFactor, fills_of_eq_nil rfl fun _ => trivial⟩
  | factor => exact ⟨.plain (.number "0"), harmless_zero_leaves, fun _ => trivial⟩
  | primary => exact ⟨.number "0", harmless_zero_leaves, fun _ => trivial⟩
  | arguments => exact ⟨.noArguments, fills_of_eq_nil rfl fun _ => trivial⟩
  | moreArguments => exact ⟨.lastArgument, fills_of_eq_nil rfl fun _ => trivial⟩

end Tree

/-- Symbols that are still to come cover some leaves that can be put anywhere. -/
theorem exists_covers (target : Target) {symbols : List Symbol} (plain : .phrase .call ∉ symbols)
    (work : Work) : ∃ leaves work', Covers target symbols work leaves work' ∧
      ∀ leaf ∈ leaves, leaf.Harmless := by
  induction symbols generalizing work with
  | nil => exact ⟨[], work, ⟨rfl, rfl⟩, by simp⟩
  | cons symbol symbols ih =>
    have plain' : .phrase .call ∉ symbols := fun member => plain (List.mem_cons_of_mem _ member)
    cases symbol with
    | expect terminal =>
      obtain ⟨leaves, work', covers, harmless⟩ := ih plain' work
      refine ⟨_, work', ⟨leaves, rfl, covers⟩, List.forall_mem_cons.2 ⟨?_, harmless⟩⟩
      exact harmless_fixed (Session.Terminal.hasText terminal)
        (by cases terminal <;> simp [Terminal.kind])
    | declare role =>
      obtain ⟨leaves, work', covers, harmless⟩ := ih plain' (work.declare target role "x")
      exact ⟨_, work', ⟨"x", leaves, rfl, covers⟩,
        List.forall_mem_cons.2 ⟨harmless_declared role, harmless⟩⟩
    | phrase phrase =>
      have other : phrase ≠ .call := by
        intro same
        subst same
        exact plain List.mem_cons_self
      obtain ⟨tree, fills, belongs⟩ := Tree.exists_fills other
      obtain ⟨leaves, work', covers, harmless⟩ := ih plain' (work.draw target tree)
      exact ⟨tree.leaves ++ leaves, work', ⟨tree, leaves, rfl, belongs _, covers⟩,
        List.forall_mem_append.2 ⟨fills, harmless⟩⟩
    | _ => exact ih plain' _

/-! ## A source that goes on -/

/-- Some source that is compiled begins with these words. -/
def Viable (width : Nat) (target : Target) (words : List Word) : Prop :=
  ∃ source code tokens, compileFor source width target = .ok code ∧
    Lexer.tokens source = .ok tokens ∧ words <+: tokens.map Token.word

namespace Tree

theorem blankLeaves_succ (count : Nat) :
    blankLeaves count.succ = blankLeaves count ++ [.fixed .newline] :=
  List.replicate_succ'

theorem exists_longer_statements : ∀ (first : Tree .statement) (others : Tree .statements),
    ∃ longer : Tree .statements,
      longer.leaves = first.leaves ++ others.leaves ++ [.fixed .newline] ∧
        ∀ inFunction, (nextStatement first others).ReturnsBelong inFunction →
          longer.ReturnsBelong inFunction
  | .statement command blank, .noStatement => by
    refine ⟨.nextStatement (.statement command blank.succ) .noStatement, ?_,
      fun _ belongs => belongs⟩
    simp only [leaves, lineLeaves, blankLeaves_succ, List.append_nil, List.append_assoc,
      List.cons_append]
  | first, .nextStatement second others => by
    obtain ⟨longer, same, belongs⟩ := exists_longer_statements second others
    refine ⟨.nextStatement first longer, ?_, fun _ => And.imp_right (belongs _)⟩
    simp only [leaves, same, List.append_assoc]

/-- One more line end makes a program no other program. -/
theorem exists_longer (program : Tree .program) : ∃ longer : Tree .program,
    longer.leaves = program.leaves ++ [.fixed .newline] ∧
      ∀ inFunction, program.ReturnsBelong inFunction → longer.ReturnsBelong inFunction := by
  cases program with
  | program blank statements =>
    cases statements with
    | noStatement =>
      refine ⟨.program blank.succ .noStatement, ?_, fun _ _ => trivial⟩
      simp only [leaves, blankLeaves_succ, List.append_nil]
    | nextStatement first others =>
      obtain ⟨longer, same, belongs⟩ := exists_longer_statements first others
      refine ⟨.program blank longer, ?_, belongs⟩
      simp only [leaves, same, List.append_assoc]

end Tree

/-- The words with which a program begins are viable, if they can be written at all. -/
theorem viable_of_program (program : Tree .program) {words : List Word} (width : Nat)
    (target : Target)
    (proper : ∀ leaf ∈ program.leaves, leaf.word.Proper ∧ leaf.kind ≠ .endOfInput)
    (resolved : Resolved .empty program.leaves) (belongs : program.ReturnsBelong false)
    (starts : words <+: program.leaves.map Leaf.word) : Viable width target words := by
  obtain ⟨source, tokens, read, same⟩ := Lexer.exists_source (program.leaves.map Leaf.word)
    (List.forall_mem_map.2 fun leaf member => (proper leaf member).1)
    (List.forall_mem_map.2 fun leaf member => (proper leaf member).2)
  obtain ⟨longer, leaves, belongs'⟩ := program.exists_longer
  have spells : longer.Spells tokens := by
    rw [Tree.Spells, same, leaves, List.map_append, List.append_assoc]
    rfl
  have declared : DeclaredBeforeRead longer.leaves := by
    rw [← resolved_empty_iff, leaves, resolved_append]
    exact ⟨resolved, trivial, trivial⟩
  obtain ⟨code, compiled⟩ :=
    compileFor_of_spells read spells declared (belongs' _ belongs) width target
  refine ⟨source, code, tokens, compiled, read, ?_⟩
  rw [same]
  exact starts.trans (List.prefix_append _ _)

namespace Session

variable {s s' : Session} {symbols : List Symbol} {leaves : List Leaf} {lexer : Lexer}

/-- What a run has taken is viable with any leaves that the symbols to come cover, if their words
can be written and the names that they read are declared. -/
theorem Reaches.viable_of_covers (reaches : Reaches s programSymbols leaves s' symbols)
    (at_ : s.At lexer) (scope : s.scope = .empty) (inFunction : s.inFunction = false)
    {others : List Leaf} {work : Work} (covers : Covers s.target symbols s'.work others work)
    (proper : ∀ leaf ∈ others, leaf.word.Proper ∧ leaf.kind ≠ .endOfInput)
    (resolved : Resolved s'.scope others) {words : List Word}
    (starts : words <+: (leaves ++ others).map Leaf.word) (width : Nat) (target : Target) :
    Viable width target words := by
  obtain ⟨tokens, behind, delivers, -, same⟩ := reaches.place at_
  obtain ⟨resolved', scope', -⟩ := reaches.resolved ready_programSymbols
  obtain ⟨program, whole, belongs, -⟩ := covers_programSymbols.1 (reaches.covers at_ covers)
  rw [whole] at starts
  refine viable_of_program program width target ?_ ?_ ?_ starts
  · rw [← whole]
    refine List.forall_mem_append.2 ⟨fun leaf member => ?_, proper⟩
    have member := List.mem_map_of_mem (f := Leaf.word) member
    rw [← same] at member
    obtain ⟨token, member, word⟩ := List.mem_map.1 member
    rw [Leaf.kind, ← word]
    exact Lexer.proper_of_delivers delivers token member
  · rw [scope'] at resolved
    rw [← whole, ← scope]
    exact resolved_append.2 ⟨resolved', resolved⟩
  · rw [← inFunction]
    exact belongs

/-- Whatever a run has taken is viable. -/
theorem Reaches.viable (reaches : Reaches s programSymbols leaves s' symbols) (at_ : s.At lexer)
    (scope : s.scope = .empty) (inFunction : s.inFunction = false)
    (plain : .phrase .call ∉ symbols) (width : Nat) (target : Target) :
    Viable width target (leaves.map Leaf.word) := by
  obtain ⟨others, work, covers, harmless⟩ := exists_covers s.target plain s'.work
  refine reaches.viable_of_covers at_ scope inFunction covers
    (fun leaf member => ⟨(harmless leaf member).proper, (harmless leaf member).more⟩)
    (resolved_of_harmless harmless) ?_ width target
  rw [List.map_append]
  exact List.prefix_append _ _

/-- So is what it has taken with the token that it is about to take. -/
theorem Reaches.viable_takes {symbol : Symbol} {leaf : Leaf} {more : List Symbol} {work : Work}
    (reaches : Reaches s programSymbols leaves s' (symbol :: symbols))
    (takes : s'.Takes symbol leaf more work) (at_ : s.At lexer) (scope : s.scope = .empty)
    (inFunction : s.inFunction = false) (width : Nat) (target : Target) :
    Viable width target (leaves.map Leaf.word ++ [s'.current.word]) := by
  obtain ⟨-, behind, -, at_', -⟩ := reaches.place at_
  obtain ⟨-, -, ready⟩ := reaches.resolved ready_programSymbols
  have word := takes.leaf_word at_'.proper
  -- The symbols behind the token cover leaves that can be put anywhere, so those from it on cover
  -- its leaf with them.
  obtain ⟨others, work', covers, harmless⟩ := exists_covers s'.target
    (not_mem_append takes.plain (ready.behind takes.loud)) work
  obtain ⟨front, back, mid, rfl, covers, covers'⟩ := covers_append.1 covers
  have covers := covers_append.2 ⟨_, _, _, rfl, takes.covers at_'.proper covers, covers'⟩
  rw [reaches.target] at covers
  refine reaches.viable_of_covers at_ scope inFunction covers ?_ ?_ ?_ width target
  · refine List.forall_mem_cons.2 ⟨⟨?_, ?_⟩, fun other member =>
      ⟨(harmless other member).proper, (harmless other member).more⟩⟩
    · rw [word]
      exact at_'.proper
    · rw [Leaf.kind, word]
      exact takes.kind_ne_endOfInput
  · exact ⟨takes.allowed ready, resolved_of_harmless harmless⟩
  · rw [← word, List.map_append]
    exact (List.prefix_append_right_inj _).2 (List.prefix_append [leaf.word] _)

/-- A token that a run refuses is not viable behind what the run has taken. -/
theorem Reaches.not_viable {symbol : Symbol} (reaches : Reaches s programSymbols leaves s'
    (symbol :: symbols)) (refuses : s'.Refuses symbol) (at_ : s.At lexer)
    (scope : s.scope = .empty) (inFunction : s.inFunction = false) (width : Nat)
    (target : Target) : ¬Viable width target (leaves.map Leaf.word ++ [s'.current.word]) := by
  intro viable
  obtain ⟨source, code, tokens, compiled, read, starts⟩ := viable
  obtain ⟨tokens', read', program, spells, declared, belongs, -⟩ := spells_of_compileFor compiled
  cases read.symm.trans read'
  rw [← inFunction] at belongs
  refine reaches.not_awaited refuses at_ ready_programSymbols (awaits_programSymbols belongs)
    (resolved_of_empty scope declared) ?_
  rw [← spells]
  exact starts

end Session

/-- An error of the grammar is about the first token that no source which is compiled could have in
its place. -/
theorem refused_earliest {source : String} {width : Nat} {target : Target} {fault : GrammarFault}
    {span : Span} (h : compileFor source width target = .error (.grammatical fault span)) :
    ∃ before token after, (Lexer.start source).readAll.1 = before ++ token :: after ∧
      token.span = span ∧ Viable width target (before.map Token.word) ∧
        ¬Viable width target ((before ++ [token]).map Token.word) := by
  rcases eq_error_of_compileFor h with ⟨log, started⟩ | ⟨s, s', started, halted⟩
  · obtain ⟨_, _, lexical⟩ := Lexer.lexical_of_readAll (Session.start_eq_error started)
    cases lexical
  · obtain ⟨at_, scope, inFunction, -, -⟩ := Session.start_eq_ok started
    obtain ⟨leaves, mid, symbol, rest, reaches, stepped⟩ :=
      Session.reaches_of_program_halted halted
    obtain ⟨front, behind, delivers, at_', same⟩ := reaches.place at_
    rcases Session.refuses_or_takes_of_step stepped with
      ⟨rfl, refuses, _, error⟩ | ⟨leaf, more, work, -, faulty⟩
    · cases error
      obtain ⟨-, -, ready⟩ := reaches.resolved Session.ready_programSymbols
      obtain ⟨back, rest', -⟩ := at_'.readAll_eq_cons
      refine ⟨front, s'.current, back, ?_, rfl, ?_, ?_⟩
      · rw [Lexer.readAll_of_delivers delivers, rest']
      · rw [same]
        exact reaches.viable at_ scope inFunction (refuses.plain ready) width target
      · rw [List.map_append, same]
        exact reaches.not_viable refuses at_ scope inFunction width target
    · obtain ⟨_, _, lexical⟩ := Lexer.lexical_of_readAll (congrArg Prod.snd (faulty behind at_'))
      cases lexical

theorem refused_earliest_undeclared :
    compileFor "LET x = 1\nPRINT x + y" 4 .python =
        .error (.grammatical (.undeclared "y") ⟨20, 21⟩) ∧
      ∃ before token after,
        (Lexer.start "LET x = 1\nPRINT x + y").readAll.1 = before ++ token :: after ∧
          token.span = ⟨20, 21⟩ ∧ Viable 4 .python (before.map Token.word) ∧
            ¬Viable 4 .python ((before ++ [token]).map Token.word) := by
  have refused : compileFor "LET x = 1\nPRINT x + y" 4 .python =
      .error (.grammatical (.undeclared "y") ⟨20, 21⟩) := by cbv
  exact ⟨refused, refused_earliest refused⟩

end Offside
