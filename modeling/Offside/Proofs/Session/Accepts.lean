import Offside.Compile
import Offside.Proofs.Session.Complete

/-!
# What is accepted

A session compiles its program to the end exactly if its source has tokens, the
tokens spell a program of the grammar, every name is declared before it is read,
and every `RETURN` stands in the body of a function. One direction reads the
tree off the run; in the other the tree is awaited from the first token on, so
that the run cannot refuse one.
-/

namespace Offside.Session

variable {source : String} {width : Nat} {target : Target} {s s' : Session} {lexer : Lexer}
  {tokens : List Token} {error : Error}

/-- The symbols of a program. -/
def programSymbols : List Symbol := [.phrase .blankLines, .phrase .statements]

theorem ready_programSymbols : s.Ready programSymbols :=
  .plain (by simp [programSymbols])

/-! ## The end of a run -/

/-- The statements up to the end of the input are still to come, or nothing is. -/
def Closes (s : Session) (symbols : List Symbol) : Prop :=
  (∃ front, symbols = front ++ [.phrase .statements]) ∨
    symbols = [] ∧ s.current.kind = .endOfInput

theorem closes_statements {symbols : List Symbol}
    (predicted : s.predict .statements = .derive symbols ∨ s.predict .statements = .take symbols ∨
      s.predict .statements = .copy symbols) :
    (∃ front, symbols = front ++ [.phrase .statements]) ∨
      s.predict .statements = .derive [] ∧ symbols = [] ∧ s.current.kind = .endOfInput := by
  simp only [Outlook.predict] at predicted ⊢
  split
  · next last =>
    rw [if_pos last] at predicted
    rcases predicted with same | same | same <;> cases same
    exact .inr ⟨rfl, rfl, last⟩
  · next more =>
    rw [if_neg more] at predicted
    cases whole : s.toOutlook.wholeStatement with
    | refuse fault =>
      rw [whole] at predicted
      rcases predicted with same | same | same <;> cases same
    | _ =>
      rw [whole] at predicted
      rcases predicted with same | same | same <;> cases same
      exact .inl ⟨_, rfl⟩

theorem Takes.predicted {phrase : Phrase} {leaf : Leaf} {more : List Symbol} {work : Work}
    (takes : s.Takes (.phrase phrase) leaf more work) :
    s.predict phrase = .take more ∨ s.predict phrase = .copy more := by
  cases takes with
  | take predicted => exact .inl predicted
  | copy predicted => exact .inr predicted

theorem Moves.closes {symbol : Symbol} {more rest : List Symbol} {leaves : List Leaf}
    (moves : s.Moves symbol leaves more s') (closes : s.Closes (symbol :: rest)) :
    s'.Closes (more ++ rest) := by
  rcases closes with ⟨front, same⟩ | ⟨same, -⟩
  · cases front with
    | cons first front =>
      obtain ⟨rfl, rfl⟩ := List.cons.inj same
      exact .inl ⟨more ++ front, (List.append_assoc ..).symm⟩
    | nil =>
      obtain ⟨rfl, rfl⟩ := List.cons.inj same
      rw [List.append_nil]
      cases moves with
      | derive predicted =>
        rcases closes_statements (.inl predicted) with closes | ⟨-, rfl, last⟩
        · exact .inl closes
        · exact .inr ⟨rfl, last⟩
      | take takes advances scope =>
        rcases closes_statements (.inr takes.predicted) with closes | ⟨derived, -, -⟩
        · exact .inl closes
        · rcases takes.predicted with predicted | predicted
          all_goals
            rw [derived] at predicted
            cases predicted
      | perform silent stays work => cases silent
  · cases same

theorem Reaches.closes {symbols symbols' : List Symbol} {leaves : List Leaf}
    (reaches : Reaches s symbols leaves s' symbols') (closes : s.Closes symbols) :
    s'.Closes symbols' := by
  induction reaches with
  | here s symbols => exact closes
  | move moves reaches ih => exact ih (moves.closes closes)

/-- A run of a program ends at the end of the input. -/
theorem Reaches.endOfInput {leaves : List Leaf} (reaches : Reaches s programSymbols leaves s' []) :
    s'.current.kind = .endOfInput := by
  rcases reaches.closes (.inl ⟨[.phrase .blankLines], rfl⟩) with ⟨front, nil⟩ | ⟨-, last⟩
  · exact absurd nil.symm (List.append_ne_nil_of_right_ne_nil _ (List.cons_ne_nil _ _))
  · exact last

/-- What is left of a source when nothing but its end is at hand. -/
theorem At.readAll_of_last (at_ : s.At lexer) (last : s.current.kind = .endOfInput) :
    lexer.readAll = ([s.current], none) ∧ s.current.word = .last := by
  obtain ⟨mid, answer, -⟩ := at_
  refine ⟨Lexer.readAll_of_last answer last, ?_⟩
  have proper := (Lexer.next_ok answer).1.eq_fixed (by rw [Token.word_kind, last]; rfl)
  rw [proper, Token.word_kind, last]
  rfl

/-- The leaves of a program are covered by its symbols, and nothing else is. -/
theorem covers_programSymbols {work work' : Work} {leaves : List Leaf} :
    Covers target programSymbols work leaves work' ↔
      ∃ program : Tree .program, leaves = program.leaves ∧
        program.ReturnsBelong work.inFunction ∧ work' = work.draw target program := by
  constructor
  · intro covers
    obtain ⟨blank, statements, rfl, -, belongs, rfl⟩ := covers_parts covers
    cases blank with
    | blankLines count => exact ⟨.program count statements, rfl, belongs, rfl⟩
  · intro grows
    obtain ⟨program, rfl, belongs, rfl⟩ := grows
    cases program with
    | program count statements =>
      exact ⟨.blankLines count, statements.leaves, rfl, trivial, statements, [],
        (List.append_nil _).symm, belongs, rfl, rfl⟩

theorem awaits_programSymbols {program : Tree .program} {inFunction : Bool}
    (belongs : program.ReturnsBelong inFunction) :
    Awaits programSymbols inFunction program.leaves := by
  cases program with
  | program count statements =>
    refine ⟨.blankLines count, statements.leaves, rfl, trivial, bne_iff_ne.2 ?_, statements, [],
      (List.append_nil _).symm, belongs, rfl, rfl⟩
    have ends : (firstKind []).endsBody = true := rfl
    have first := Tree.not_newline_of_statements statements ends
    rwa [List.append_nil] at first

theorem resolved_of_empty {leaves : List Leaf} (scope : s.scope = .empty)
    (declared : DeclaredBeforeRead leaves) : Resolved s.scope leaves := by
  rw [scope]
  exact resolved_empty_iff.2 declared

/-! ## Whole programs -/

/-- What a run of a program takes are the leaves of its tree, and the tree is drawn. -/
theorem Reaches.spells {leaves : List Leaf} (reaches : Reaches s programSymbols leaves s' [])
    (at_ : s.At lexer) : ∃ tokens, lexer.readAll = (tokens, none) ∧
      ∃ program : Tree .program, leaves = program.leaves ∧ program.Spells tokens ∧
        program.ReturnsBelong s.inFunction ∧ s'.draft = program.draw s.target s.draft := by
  obtain ⟨tokens, behind, delivers, at_', same⟩ := reaches.place at_
  have ended : Covers s.target [] s'.work [] s'.work := ⟨rfl, rfl⟩
  have covers := reaches.covers at_ ended
  rw [List.append_nil] at covers
  obtain ⟨program, rfl, belongs, drawn⟩ := covers_programSymbols.1 covers
  obtain ⟨rest, word⟩ := at_'.readAll_of_last reaches.endOfInput
  refine ⟨tokens ++ [s'.current], ?_, program, rfl, ?_, belongs, congrArg Work.draft drawn⟩
  · rw [Lexer.readAll_of_delivers delivers, rest]
  · rw [Tree.Spells, List.map_append, same, List.map_singleton, word]

/-- A run that ends has read a program to its end, and has drawn its tree. -/
theorem spells_of_done (at_ : s.At lexer) (done : s.program = .done s') :
    ∃ tokens, lexer.readAll = (tokens, none) ∧
      ∃ program : Tree .program, program.Spells tokens ∧ Resolved s.scope program.leaves ∧
        program.ReturnsBelong s.inFunction ∧
        s'.draft = program.draw s.target s.writePreamble.draft := by
  unfold Session.program at done
  split at done
  · next mid ended =>
    cases done
    obtain ⟨leaves, reaches⟩ := reaches_of_run_done ended
    obtain ⟨resolved, -, -⟩ := reaches.resolved ready_programSymbols
    obtain ⟨tokens, read, program, rfl, spells, belongs, drawn⟩ := reaches.spells at_
    exact ⟨tokens, read, program, spells, resolved, belongs, drawn⟩
  · cases done

/-- A program that is not compiled to its end comes to a symbol whose step halts. -/
theorem reaches_of_program_halted (halted : s.program = .halted error s') :
    ∃ leaves mid symbol rest,
      Reaches s.writePreamble programSymbols leaves mid (symbol :: rest) ∧
        mid.step symbol = .halt error s' := by
  unfold Session.program at halted
  split at halted
  · cases halted
  · next error' mid ended =>
    cases halted
    exact reaches_of_run_halted ended

/-- A program is never refused. -/
theorem done_of_spells (at_ : s.At lexer) (read : lexer.readAll = (tokens, none))
    {program : Tree .program} (spells : program.Spells tokens)
    (resolved : Resolved s.scope program.leaves) (belongs : program.ReturnsBelong s.inFunction) :
    ∃ s', s.program = .done s' := by
  cases ended : s.program with
  | done s' => exact ⟨s', rfl⟩
  | halted error s' =>
    obtain ⟨leaves, mid, symbol, rest, reaches, stepped⟩ := reaches_of_program_halted ended
    obtain ⟨front, behind, delivers, at_', same⟩ := reaches.place at_
    have whole := Lexer.readAll_of_delivers delivers
    rw [read] at whole
    rcases refuses_or_takes_of_step stepped with ⟨-, refuses, -⟩ | ⟨leaf, more, work, -, faulty⟩
    · obtain ⟨back, rest, -⟩ := at_'.readAll_eq_cons
      refine absurd ?_ (reaches.not_awaited refuses at_ ready_programSymbols
        (awaits_programSymbols belongs) resolved)
      rw [← spells, (Prod.mk.inj whole).1, rest, List.map_append, List.map_cons, same]
      exact ⟨back.map Token.word, by simp⟩
    · rw [faulty behind at_'] at whole
      cases (Prod.mk.inj whole).2

end Offside.Session

namespace Offside

variable {source code : String} {width : Nat} {target : Target} {tokens : List Token}

/-! ## Compiling for a target -/

/-- The code written for a source in the language of a target. -/
def compileFor (source : String) (width : Nat) (target : Target) : Except Error String :=
  match Session.start source width target with
  | .error (error, _) => .error error
  | .ok s => match s.program with
    | .done s => .ok s.draft.code
    | .halted error _ => .error error

theorem compile_eq_compileFor (source : String) (width : Nat) :
    compile source width = compileFor source width .python := by
  unfold compile compileLogged compileFor
  cases Session.start source width .python with
  | error failure => rfl
  | ok s => cases done : s.program <;> simp only [done]

theorem compileFor_eq_ok_iff : compileFor source width target = .ok code ↔
    ∃ s s', Session.start source width target = .ok s ∧ s.program = .done s' ∧
      s'.draft.code = code := by
  unfold compileFor
  constructor
  · intro h
    split at h
    · cases h
    · next s started =>
      split at h
      · next s' done =>
        cases h
        exact ⟨s, s', started, done, rfl⟩
      · cases h
  · intro runs
    obtain ⟨s, s', started, done, rfl⟩ := runs
    simp only [started, done]

theorem eq_error_of_compileFor {error : Error}
    (h : compileFor source width target = .error error) :
    (∃ log, Session.start source width target = .error (error, log)) ∨
      ∃ s s', Session.start source width target = .ok s ∧ s.program = .halted error s' := by
  unfold compileFor at h
  split at h
  · next error' log started =>
    cases h
    exact .inl ⟨log, started⟩
  · next s started =>
    split at h
    · cases h
    · next error' s' halted =>
      cases h
      exact .inr ⟨s, s', started, halted⟩

/-- A compiled source spells one program, and its code is what is drawn for that program. -/
theorem spells_of_compileFor (h : compileFor source width target = .ok code) :
    ∃ tokens, Lexer.tokens source = .ok tokens ∧ ∃ program : Tree .program,
      program.Spells tokens ∧ DeclaredBeforeRead program.leaves ∧ program.ReturnsBelong false ∧
        code = (program.draw target
          (target.preamble.foldl Draft.writeHeader ⟨width, "", "", 0, false⟩)).code := by
  obtain ⟨s, s', started, done, rfl⟩ := compileFor_eq_ok_iff.1 h
  obtain ⟨at_, scope, inFunction, draft, rfl⟩ := Session.start_eq_ok started
  obtain ⟨tokens, read, program, spells, resolved, belongs, drawn⟩ :=
    Session.spells_of_done at_ done
  rw [scope] at resolved
  refine ⟨tokens, Lexer.tokens_eq_ok_iff.2 read, program, spells, resolved_empty_iff.1 resolved,
    ?_, ?_⟩
  · rw [← inFunction]
    exact belongs
  · rw [drawn, ← draft]
    rfl

/-- A source whose tokens spell a program is compiled. -/
theorem compileFor_of_spells (read : Lexer.tokens source = .ok tokens) {program : Tree .program}
    (spells : program.Spells tokens) (declared : DeclaredBeforeRead program.leaves)
    (belongs : program.ReturnsBelong false) (width : Nat) (target : Target) :
    ∃ code, compileFor source width target = .ok code := by
  obtain ⟨s, started⟩ := Session.exists_start read width target
  obtain ⟨at_, scope, inFunction, -, -⟩ := Session.start_eq_ok started
  rw [← inFunction] at belongs
  obtain ⟨s', done⟩ := Session.done_of_spells at_ (Lexer.tokens_eq_ok_iff.1 read) spells
    (Session.resolved_of_empty scope declared) belongs
  exact ⟨_, compileFor_eq_ok_iff.2 ⟨s, s', started, done, rfl⟩⟩

/-- A source is accepted exactly if its tokens spell a program whose names are declared before they
are read and whose `RETURN`s stand in functions. -/
theorem program_done_iff (source : String) (width : Nat) (target : Target) :
    (∃ s s', Session.start source width target = .ok s ∧ s.program = .done s') ↔
      ∃ tokens, Lexer.tokens source = .ok tokens ∧ ∃ program : Tree .program,
        program.Spells tokens ∧ DeclaredBeforeRead program.leaves ∧
          program.ReturnsBelong false := by
  constructor
  · intro runs
    obtain ⟨s, s', started, done⟩ := runs
    obtain ⟨tokens, read, program, spells, declared, belongs, -⟩ :=
      spells_of_compileFor (compileFor_eq_ok_iff.2 ⟨s, s', started, done, rfl⟩)
    exact ⟨tokens, read, program, spells, declared, belongs⟩
  · intro derived
    obtain ⟨tokens, read, program, spells, declared, belongs⟩ := derived
    obtain ⟨code, compiled⟩ := compileFor_of_spells read spells declared belongs width target
    obtain ⟨s, s', started, done, -⟩ := compileFor_eq_ok_iff.1 compiled
    exact ⟨s, s', started, done⟩

end Offside
