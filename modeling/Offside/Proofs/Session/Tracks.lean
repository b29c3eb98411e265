import Offside.Proofs.Lexing.Progress
import Offside.Proofs.Session.Told

/-!
# What has been told up to a point

At each point of a run the log accounts for what has been read: its traces are
the tokens up to the end of the window, but for the ends of the input, and the
declarations that it tells of are the entries of the scope, in their order. It
is only behind the last point that the end is told. A run that ends with an
error tells no more, so the log then says what the lexer has delivered: up to
the faulty word, or up to the token behind the one that is refused.
-/

namespace Offside

/-- These tokens are the answers to the first calls of the lexer. -/
def Lexer.Scans (source : String) (scanned : List Token) : Prop :=
  ∀ index (h : index < scanned.length), (Lexer.after source index).next.1 = .ok scanned[index]

namespace Lexer

variable {source : String} {scanned : List Token} {token : Token}

theorem scans_nil : Scans source [] := nofun

theorem Scans.concat (scans : Scans source scanned)
    (answer : (after source scanned.length).next.1 = .ok token) :
    Scans source (scanned ++ [token]) := by
  intro index h
  rw [List.length_append, List.length_singleton] at h
  rcases Nat.lt_succ_iff_lt_or_eq.1 h with before | rfl
  · rw [List.getElem_append_left before]
    exact scans index before
  · rw [List.getElem_concat_length rfl]
    exact answer

end Lexer

namespace Session

variable {s mid s' : Session} {symbol : Symbol} {symbols more rest : List Symbol} {error : Error}

/-- The log accounts for the tokens that have been scanned and for the names that have been
declared, and tells of no end. The last two of the tokens are in the window. -/
structure Tracks (source : String) (scanned : List Token) (s : Session) : Prop where
  window : ∃ passed behind, scanned = passed ++ [s.current, s.lookahead] ∧
    (Lexer.start source).Delivers passed behind ∧ s.At behind
  traces : s.log.toList.filter Event.isTrace = scanned.filterMap Event.ofToken?
  declarations : s.log.toList.filterMap Event.declaration? = s.scope.entries
  underWay : ∀ event ∈ s.log.toList, event.level ≠ .info

theorem level_of_step (h : s.step symbol = .proceed more s')
    (underWay : ∀ event ∈ s.log.toList, event.level ≠ .info) :
    ∀ event ∈ s'.log.toList, event.level ≠ .info := by
  intro event member
  rw [log_of_step h, List.mem_append, List.mem_append] at member
  rcases member with before | answered | remarked
  · exact underWay event before
  · rw [level_ofAnswer? event answered]
    decide
  · rw [level_remarks s symbol event remarked]
    decide

variable {source : String} {width : Nat} {target : Target} {scanned : List Token}

theorem Tracks.step (tracks : s.Tracks source scanned) (h : s.step symbol = .proceed more s') :
    ∃ scanned', s'.Tracks source scanned' := by
  have declarations : s'.log.toList.filterMap Event.declaration? = s'.scope.entries := by
    rw [filterMap_log_of_step (fun _ => rfl) h, entries_of_step h, tracks.declarations]
  have underWay := level_of_step h tracks.underWay
  have traces := traces_of_step h
  rw [tracks.traces] at traces
  obtain ⟨passed, behind, window, delivers, mid, answer, answer'⟩ := tracks.window
  by_cases asks : s.asks symbol = true
  · obtain ⟨leaf, more, work, takes⟩ := asks_iff.1 asks
    have refills := refills_of_step asks h
    rw [answersTo_of_asks asks, refills.answer] at traces
    refine ⟨scanned ++ [s'.lookahead], ⟨passed ++ [s.current], mid, ?_, ?_, s.lexer, ?_, ?_⟩, ?_,
      declarations, underWay⟩
    · rw [window, refills.current]
      simp
    · exact Lexer.delivers_append delivers ⟨mid, answer, takes.kind_ne_endOfInput, rfl⟩
    · rw [refills.current]
      exact answer'
    · exact refills.answer
    · rw [traces, List.filterMap_append]
      rfl
  · have idles := idles_of_step (Bool.eq_false_iff.2 asks) h
    rw [answersTo, if_neg asks] at traces
    refine ⟨scanned, ⟨passed, behind, ?_, delivers, mid, ?_, ?_⟩,
      traces.trans (List.append_nil _), declarations, underWay⟩
    · rw [window, idles.current, idles.lookahead]
    · rw [idles.current]
      exact answer
    · rw [idles.lookahead, idles.lexer]
      exact answer'

/-- What has been scanned are the answers so far, and the next answer is that behind the window. -/
theorem Tracks.scans (tracks : s.Tracks source scanned) :
    Lexer.Scans source scanned ∧ s.lexer = Lexer.after source scanned.length := by
  obtain ⟨passed, behind, rfl, delivers, mid, answer, answer'⟩ := tracks.window
  have first : (Lexer.after source 0).Delivers passed behind := delivers
  obtain ⟨place, answers⟩ := Lexer.after_of_delivers 0 first
  rw [Nat.zero_add] at place
  subst place
  obtain rfl : Lexer.after source (passed.length + 1) = mid := congrArg Prod.snd answer
  have scans : Lexer.Scans source passed := fun index h => by
    have answer := (answers index h).1
    rwa [Nat.zero_add] at answer
  have further : (Lexer.after source (passed ++ [s.current]).length).next.1 = .ok s.lookahead := by
    rw [List.length_append]
    exact congrArg Prod.fst answer'
  have scans' := (scans.concat (congrArg Prod.fst answer)).concat further
  rw [List.append_assoc] at scans'
  refine ⟨scans', ?_⟩
  rw [List.length_append]
  exact (congrArg Prod.snd answer').symm

/-- With the end of the input at hand all tokens have been told. -/
theorem Tracks.all (tracks : s.Tracks source scanned) (last : s.current.kind = .endOfInput) :
    ∃ tokens, Lexer.tokens source = .ok tokens ∧
      s.log.toList.filter Event.isTrace = tokens.filterMap Event.ofToken? := by
  obtain ⟨passed, behind, rfl, delivers, at_⟩ := tracks.window
  obtain ⟨rest, -⟩ := at_.readAll_of_last last
  refine ⟨passed ++ [s.current], Lexer.tokens_eq_ok_iff.2 ?_, ?_⟩
  · rw [Lexer.readAll_of_delivers delivers, rest]
  · obtain ⟨mid, answer, answer'⟩ := at_
    have again := (Lexer.next_ok answer).2 last
    rw [answer'] at again
    obtain ⟨same, -⟩ := Prod.mk.inj again
    rw [tracks.traces, Except.ok.inj same, List.filterMap_append, List.filterMap_append]
    simp [Event.ofToken?_of_endOfInput last]

/-- The log tells of the tokens that were scanned until the error was found, and of no end. The
error is the next answer, or refuses the last token but one. -/
structure BreaksOff (source : String) (scanned : List Token) (error : Error) (log : List Event) :
    Prop where
  scans : Lexer.Scans source scanned
  traces : log.filter Event.isTrace = scanned.filterMap Event.ofToken?
  underWay : ∀ event ∈ log, event.level ≠ .info
  cause : (Lexer.after source scanned.length).next.1 = .error error ∨
    ∃ passed token next fault, scanned = passed ++ [token, next] ∧
      error = .grammatical fault token.span

theorem Tracks.halt (tracks : s.Tracks source scanned) (h : s.step symbol = .halt error s') :
    BreaksOff source scanned error s'.log.toList := by
  rw [log_of_halt h]
  obtain ⟨scans, lexer⟩ := tracks.scans
  refine ⟨scans, tracks.traces, tracks.underWay, ?_⟩
  rcases refuses_or_takes_of_step h with ⟨-, -, fault, same⟩ | ⟨leaf, more, work, takes, -⟩
  · obtain ⟨passed, behind, window, -⟩ := tracks.window
    exact .inr ⟨passed, s.current, s.lookahead, fault, window, same⟩
  · rw [← lexer]
    exact .inl (faulty_of_step (asks_iff.2 ⟨leaf, more, work, takes⟩) h)

theorem Tracks.run_done (tracks : s.Tracks source scanned) (done : s.run symbols = .done s') :
    ∃ scanned', s'.Tracks source scanned' := by
  fun_induction run s symbols generalizing scanned with
  | case1 s =>
    cases done
    exact ⟨scanned, tracks⟩
  | case2 s symbol rest error s' moved => cases done
  | case3 s symbol rest more mid moved _ ih =>
    obtain ⟨scanned', tracks'⟩ := tracks.step moved
    exact ih tracks' done

theorem Tracks.run_halted (tracks : s.Tracks source scanned)
    (halted : s.run symbols = .halted error s') :
    ∃ scanned', BreaksOff source scanned' error s'.log.toList := by
  fun_induction run s symbols generalizing scanned with
  | case1 s => cases halted
  | case2 s symbol rest error' s'' moved =>
    cases halted
    exact ⟨scanned, tracks.halt moved⟩
  | case3 s symbol rest more mid moved _ ih =>
    obtain ⟨scanned', tracks'⟩ := tracks.step moved
    exact ih tracks' halted

/-! ## Whole programs -/

theorem Tracks.writePreamble (tracks : s.Tracks source scanned) :
    s.writePreamble.Tracks source scanned :=
  ⟨tracks.window, tracks.traces, tracks.declarations, tracks.underWay⟩

/-- A session begins with telling the tokens of its window. -/
theorem log_of_start (started : Session.start source width target = .ok s) :
    s.log.toList = [.ok s.current, .ok s.lookahead].filterMap Event.ofAnswer? ∧
      s.statements = 0 := by
  unfold Session.start at started
  split at started
  · cases started
  · next current behind answer =>
    split at started
    · cases started
    · next lookahead behind' answer' =>
      cases started
      refine ⟨?_, rfl⟩
      cases first : Event.ofToken? current <;> cases second : Event.ofToken? lookahead <;>
        simp [Event.ofAnswer?, first, second]

theorem tracks_of_start (started : Session.start source width target = .ok s) :
    s.Tracks source [s.current, s.lookahead] := by
  obtain ⟨at_, scope, -⟩ := start_eq_ok started
  obtain ⟨told, -⟩ := log_of_start started
  refine ⟨⟨[], _, rfl, rfl, at_⟩, ?_, ?_, ?_⟩
  · rw [told]
    exact filter_isTrace_answers _
  · rw [told, scope]
    exact filterMap_answers (fun _ => rfl) _
  · intro event member
    rw [told] at member
    rw [level_ofAnswer? event member]
    decide

/-- What has been told of a source whose first tokens are faulty. -/
theorem breaksOff_of_start {log : Array Event}
    (failed : Session.start source width target = .error (error, log)) :
    ∃ scanned, BreaksOff source scanned error log.toList := by
  unfold Session.start at failed
  split at failed
  · next answer =>
    cases failed
    exact ⟨[], Lexer.scans_nil, rfl, nofun, .inl (congrArg Prod.fst answer)⟩
  · next current behind answer =>
    split at failed
    · next answer' =>
      cases failed
      obtain rfl : Lexer.after source 1 = behind := congrArg Prod.snd answer
      have told : (Event.ofToken? current).toArray.toList =
          ([.ok current] : List (Except Error Token)).filterMap Event.ofAnswer? := by
        cases first : Event.ofToken? current <;> simp [Event.ofAnswer?, first]
      refine ⟨[current], Lexer.scans_nil.concat (congrArg Prod.fst answer), ?_, ?_,
        .inl (congrArg Prod.fst answer')⟩
      · rw [told]
        exact filter_isTrace_answers _
      · intro event member
        rw [told] at member
        rw [level_ofAnswer? event member]
        decide
    · cases failed

/-- What has been told of a program that is not compiled to its end. -/
theorem Tracks.program_halted (tracks : s.Tracks source scanned)
    (halted : s.program = .halted error s') :
    ∃ scanned', BreaksOff source scanned' error s'.log.toList := by
  unfold Session.program at halted
  split at halted
  · cases halted
  · next ended =>
    cases halted
    exact tracks.writePreamble.run_halted ended

end Session

end Offside
