import Offside.Compile
import Offside.Proofs.Session.Account
import Offside.Proofs.Session.Balance

/-!
# The log of a source

The log of a source that is compiled tells its tokens but for the ends of the
input, its names where they are declared first, its blocks with their depths,
and at last how many statements and names there are, all as they are found in
the tree of the program. The log of a source that is not compiled breaks off
behind the last token that was scanned, and tells of no end.
-/

namespace Offside

/-- The log is an account of a program with these tokens. -/
structure Recounts (target : Target) (tokens : List Token) (program : Tree .program)
    (log : List Event) : Prop where
  traces : log.filter Event.isTrace = tokens.filterMap Event.ofToken?
  declarations : log.filterMap Event.declaration? = firstDeclarations program.leaves
  blocks : log.filterMap Event.block? = program.blockDepths 0
  ends : ∃ front, log = front ++ [.finished program.statementCount target.language
    (firstDeclarations program.leaves).length] ∧ ∀ event ∈ front, event.level ≠ .info

namespace Session

variable {source : String} {width : Nat} {target : Target} {s s' : Session} {error : Error}

theorem accounts_of_start (started : Session.start source width target = .ok s) :
    Accounts [] s.writePreamble programSymbols := by
  obtain ⟨-, -, -, draft, -⟩ := start_eq_ok started
  obtain ⟨told, counted⟩ := log_of_start started
  refine ⟨⟨0, []⟩, 0, ?_, ?_, counted.symm⟩
  · rw [s.draft_writePreamble.1, draft]
    exact .plain rfl <| .outline rfl <| .nothing 0
  · have none : s.writePreamble.blocksTold = [] := by
      rw [blocksTold, show s.writePreamble.log = s.log from rfl, told]
      exact filterMap_answers (fun _ => rfl) _
    rw [none]
    rfl

/-- What is told of a program that is compiled. -/
theorem recounts_of_program_done (started : Session.start source width target = .ok s)
    (done : s.program = .done s') : ∃ tokens program, Lexer.tokens source = .ok tokens ∧
      program.Spells tokens ∧ Recounts target tokens program s'.log.toList ∧
      s'.scope.entries = firstDeclarations program.leaves := by
  obtain ⟨at_, empty, -, -, rfl⟩ := start_eq_ok started
  unfold Session.program at done
  split at done
  · next mid ended =>
    cases done
    obtain ⟨scanned, tracks⟩ := (tracks_of_start started).writePreamble.run_done ended
    obtain ⟨leaves, reaches, outline, counted⟩ := (accounts_of_start started).run_done ended
    obtain ⟨-, scope, -⟩ := reaches.resolved ready_programSymbols
    obtain ⟨tokens, read, program, rfl, spells, -⟩ := reaches.spells at_
    obtain ⟨tokens', read', traces⟩ := tracks.all reaches.endOfInput
    obtain rfl : tokens' = tokens := by
      rw [Lexer.tokens_eq_ok_iff.2 read] at read'
      exact (Except.ok.inj read').symm
    have entries : mid.scope.entries = firstDeclarations program.leaves := by
      rw [scope, show s.writePreamble.scope = s.scope from rfl, empty]
      exact Scope.entries_behindAll_empty _
    rw [List.nil_append, program.behindAll_leaves rfl] at outline
    rw [List.nil_append, program.commandCount_leaves rfl] at counted
    have log : mid.noteFinished.log.toList = mid.log.toList ++
        [.finished mid.statements mid.target.language mid.scope.size] := Array.toList_push
    refine ⟨tokens', program, read', spells, ⟨?_, ?_, ?_, mid.log.toList, ?_, tracks.underWay⟩,
      entries⟩
    · rw [log, List.filter_append, traces]
      exact List.append_nil _
    · rw [log, List.filterMap_append, tracks.declarations, entries]
      exact List.append_nil _
    · rw [log, List.filterMap_append]
      exact (List.append_nil _).trans (congrArg Nesting.blocks outline).symm
    · rw [log, ← counted, reaches.target, Scope.size, entries]
      rfl
  · cases done

end Session

/-- The log mirrors the run. If a source is compiled, its traces are the tokens of the source but
for the end of the input; each name is told once, in the order of the first declarations and with
the kind that it has at the end; each block is told where it begins, with its depth; and the number
of statements and of names comes last. If not, the log tells of the tokens that were scanned, up to
the word that cannot be read or up to the token behind the one that is refused. -/
theorem log_mirrors_run (source : String) (width : Nat) :
    match compileLogged source width with
    | (.ok code, log) => ∃ s s' tokens program,
      Session.start source width .python = .ok s ∧ s.program = .done s' ∧ s'.draft.code = code ∧
      Lexer.tokens source = .ok tokens ∧ program.Spells tokens ∧
      s'.scope.entries = firstDeclarations program.leaves ∧
      Recounts .python tokens program log
    | (.error error, log) => ∃ scanned, Session.BreaksOff source scanned error log := by
  unfold compileLogged
  cases started : Session.start source width .python with
  | error failure =>
    obtain ⟨error, log⟩ := failure
    exact Session.breaksOff_of_start started
  | ok s =>
    cases ended : s.program with
    | done s' =>
      obtain ⟨tokens, program, read, spells, recounts, entries⟩ :=
        Session.recounts_of_program_done started ended
      simp only [ended]
      exact ⟨s, s', tokens, program, rfl, ended, rfl, read, spells, entries, recounts⟩
    | halted error s' =>
      simp only [ended]
      exact (Session.tracks_of_start started).program_halted ended

set_option maxRecDepth 4096 in
/-- A block within a block: both are told, the outer one first. -/
example : (compileLogged "IF 1>0 THEN\nWHILE 1>0 REPEAT\nENDWHILE\nENDIF" 4).2.filter
    (!·.isTrace) = [.blockOpened 1, .blockOpened 2, .finished 2 "Python" 0] := by
  cbv

/-- The end of the input is a token of every source, but no trace tells it. -/
theorem log_omits_endOfInput : ∃ code log tokens last,
    compileLogged "" defaultWidth = (.ok code, log) ∧
      Lexer.tokens "" = .ok (tokens ++ [last]) ∧ last.kind = .endOfInput ∧
      log.filter Event.isTrace ≠ (tokens ++ [last, last]).map .scanned := by
  have compiled : compileLogged "" defaultWidth = (.ok "import sys\n",
      [.scanned ⟨.newline, "\n", ⟨0, 1⟩⟩, .finished 0 "Python" 0]) := by cbv
  have read : Lexer.tokens "" =
      .ok [⟨.newline, "\n", ⟨0, 1⟩⟩, ⟨.endOfInput, "", ⟨1, 1⟩⟩] := by cbv
  exact ⟨_, _, [⟨.newline, "\n", ⟨0, 1⟩⟩], ⟨.endOfInput, "", ⟨1, 1⟩⟩, compiled, read, rfl,
    by decide⟩

end Offside
