import Mathlib
import Offside.Proofs.Session.Growth

/-!
# What a statement leaves as it was

The depth of a draft is changed in the middle of statements, and so is the flag
that lets `RETURN` be used, with symbols in between at each of which a run may
end. What becomes of the two can be read off the symbols that are still to come
without a look at the source: a phrase leaves them as they are, and the branch
behind `ELSE` goes one level up in between. `Footing.behind` does this reading,
and a move changes neither its result nor, with it, the depth under which the
run never goes. So a statement that ends leaves the depth and the flag as they
were, one that ends with an error leaves the depth at least as large, and no
level is ever left where there is none.

A statement is run on its own wherever it stands, so all this holds of the
statements of a program, of those in its blocks, and of those with which a call
goes on after an error.
-/

namespace Offside

/-! ## Levels -/

/-- How many levels a draft is above some depth, and whether statements belong to a function. -/
structure Footing where
  level : Nat
  inFunction : Bool

/-- What a symbol makes of a footing. There is none below the lowest level. -/
def Symbol.footing : Symbol → Footing → Option Footing
  | .indent, ⟨level, inFunction⟩ => some ⟨level + 1, inFunction⟩
  | .dedent, ⟨level + 1, inFunction⟩ => some ⟨level, inFunction⟩
  | .dedent, ⟨0, _⟩ => none
  | .phrase .elseBranch, ⟨0, _⟩ => none
  | .setInFunction inFunction, ⟨level, _⟩ => some ⟨level, inFunction⟩
  | _, footing => some footing

/-- The footing behind symbols. -/
def Footing.behind (footing : Footing) (symbols : List Symbol) : Option Footing :=
  symbols.foldlM (fun footing symbol => symbol.footing footing) footing

namespace Footing

variable {footing last : Footing} {symbol : Symbol} {symbols more : List Symbol}

@[simp] theorem behind_nil (footing : Footing) : footing.behind [] = some footing := rfl

@[simp] theorem behind_cons (footing : Footing) (symbol : Symbol) (symbols : List Symbol) :
    footing.behind (symbol :: symbols) = (symbol.footing footing).bind (·.behind symbols) := rfl

theorem behind_append (footing : Footing) (symbols more : List Symbol) :
    footing.behind (symbols ++ more) = (footing.behind symbols).bind (·.behind more) :=
  List.foldlM_append

/-- A phrase leaves its footing as it is. -/
theorem eq_of_phrase {phrase : Phrase} (h : (Symbol.phrase phrase).footing footing = some last) :
    last = footing := by
  unfold Symbol.footing at h
  split at h <;> cases h <;> first | rfl | contradiction

end Footing

/-- What a prediction puts in the place of a phrase leaves the footing as it is. -/
def Prediction.Keeps (footing : Footing) : Prediction → Prop
  | .derive symbols | .take symbols | .copy symbols => footing.behind symbols = some footing
  | .refuse _ => True

theorem Prediction.Keeps.followedBy {footing : Footing} {prediction : Prediction}
    {more : List Symbol} (keeps : prediction.Keeps footing)
    (keeps' : footing.behind more = some footing) : (prediction.followedBy more).Keeps footing := by
  cases prediction with
  | refuse fault => trivial
  | _ =>
    show footing.behind (_ ++ more) = _
    rw [Footing.behind_append, show footing.behind _ = _ from keeps]
    exact keeps'

namespace Outlook

theorem keeps_statement (o : Outlook) (level : Nat) :
    o.statement.Keeps ⟨level, o.inFunction⟩ := by
  unfold statement
  split <;> (try split) <;> simp [Prediction.Keeps, Symbol.footing, lineEnd]

theorem keeps_wholeStatement (o : Outlook) (level : Nat) :
    o.wholeStatement.Keeps ⟨level, o.inFunction⟩ :=
  (o.keeps_statement level).followedBy rfl

theorem keeps_blockStatement (o : Outlook) (block : Block) (level : Nat) :
    (o.blockStatement block).Keeps ⟨level, o.inFunction⟩ := by
  unfold blockStatement
  split
  · trivial
  · exact (o.keeps_wholeStatement level).followedBy rfl

theorem keeps_predict (o : Outlook) (phrase : Phrase) {footing last : Footing}
    (flag : footing.inFunction = o.inFunction)
    (h : (Symbol.phrase phrase).footing footing = some last) :
    (o.predict phrase).Keeps footing := by
  obtain ⟨level, inFunction⟩ := footing
  obtain rfl : inFunction = o.inFunction := flag
  cases phrase with
  | statement => exact o.keeps_wholeStatement level
  | statements =>
    simp only [predict]
    split
    · rfl
    · exact (o.keeps_wholeStatement level).followedBy rfl
  | blockBody block =>
    simp only [predict]
    split
    · rfl
    · exact o.keeps_blockStatement block level
  | moreStatements block =>
    simp only [predict]
    split
    · rfl
    · exact o.keeps_blockStatement block level
  | elseBranch =>
    cases level with
    | zero => cases h
    | succ level =>
      simp only [predict]
      split <;> rfl
  | primary =>
    simp only [predict, operand]
    split
    · rfl
    · split <;> first | rfl | trivial
    · trivial
  | block | condition | conjunction | comparison | expression | term => rfl
  | conjunct =>
    simp only [predict]
    split <;> rfl
  | _ =>
    simp only [predict]
    split <;> first | rfl | trivial

end Outlook

namespace Session

variable {s mid s' : Session} {symbol : Symbol} {symbols more rest : List Symbol}
  {leaves : List Leaf} {base : Nat} {last : Footing} {error : Error}

/-- The session is not below the depth `base`, and the symbols to come lead it to the last
footing above that depth. -/
def Stands (base : Nat) (last : Footing) (s : Session) (symbols : List Symbol) : Prop :=
  ∃ footing : Footing, s.draft.depth = base + footing.level ∧
    s.inFunction = footing.inFunction ∧ footing.behind symbols = some last

theorem Takes.keeps {leaf : Leaf} {work : Work} {footing last : Footing}
    (takes : s.Takes symbol leaf more work) (flag : footing.inFunction = s.inFunction)
    (h : symbol.footing footing = some last) :
    footing.behind more = some footing ∧ last = footing ∧ work.draft.depth = s.draft.depth ∧
      work.inFunction = s.inFunction := by
  cases takes with
  | expect met => exact ⟨rfl, (Option.some.inj h).symm, rfl, rfl⟩
  | @declare role met =>
    exact ⟨by cases role <;> rfl, (Option.some.inj h).symm, rfl, rfl⟩
  | @take phrase _ predicted =>
    have keeps := s.keeps_predict phrase flag h
    rw [predicted] at keeps
    exact ⟨keeps, Footing.eq_of_phrase h, rfl, rfl⟩
  | @copy phrase _ predicted =>
    have keeps := s.keeps_predict phrase flag h
    rw [predicted] at keeps
    exact ⟨keeps, Footing.eq_of_phrase h, s.draft.depth_write _, rfl⟩

/-- A silent symbol changes depth and flag as its footing says. -/
theorem stands_of_silent {footing next : Footing} (silent : symbol.isSilent = true)
    (work : s'.work = symbol.effect s.target s.work)
    (depth : s.draft.depth = base + footing.level) (flag : s.inFunction = footing.inFunction)
    (h : symbol.footing footing = some next) :
    s'.draft.depth = base + next.level ∧ s'.inFunction = next.inFunction := by
  have depth' : s'.draft.depth = (symbol.effect s.target s.work).draft.depth := by rw [← work]; rfl
  have flag' : s'.inFunction = (symbol.effect s.target s.work).inFunction := by rw [← work]; rfl
  rw [depth', flag']
  obtain ⟨level, inFunction⟩ := footing
  cases symbol with
  | expect terminal => cases silent
  | declare role => cases silent
  | phrase phrase => cases silent
  | indent =>
    cases h
    exact ⟨congrArg Nat.succ depth, flag⟩
  | dedent =>
    cases level with
    | zero => cases h
    | succ level =>
      cases h
      exact ⟨congrArg Nat.pred depth, flag⟩
  | setInFunction inFunction' =>
    cases h
    exact ⟨depth, rfl⟩
  | countStatement | noteBlock | noteVariableCall =>
    cases h
    exact ⟨depth, flag⟩
  | write | writeText =>
    cases h
    exact ⟨(s.draft.depth_write _).trans depth, flag⟩
  | writeLine | endLine =>
    cases h
    exact ⟨(s.draft.depth_writeLine _).trans depth, flag⟩

theorem Moves.stands (moves : s.Moves symbol leaves more s')
    (stands : Stands base last s (symbol :: rest)) : Stands base last s' (more ++ rest) := by
  obtain ⟨footing, depth, flag, whole⟩ := stands
  obtain ⟨next, h, behind⟩ := Option.bind_eq_some_iff.1 whole
  cases moves with
  | @derive phrase _ predicted =>
    have keeps := s.keeps_predict phrase flag.symm h
    rw [predicted] at keeps
    obtain rfl := Footing.eq_of_phrase h
    refine ⟨next, depth, flag, ?_⟩
    rw [Footing.behind_append, show next.behind _ = some next from keeps]
    exact behind
  | take takes advances scope =>
    obtain ⟨keeps, rfl, depth', flag'⟩ := takes.keeps flag.symm h
    refine ⟨next, depth'.trans depth, flag'.trans flag, ?_⟩
    rw [Footing.behind_append, keeps]
    exact behind
  | perform silent stays work =>
    obtain ⟨depth', flag'⟩ := stands_of_silent silent work depth flag h
    exact ⟨next, depth', flag', behind⟩

theorem Reaches.stands {symbols' : List Symbol} (reaches : Reaches s symbols leaves s' symbols')
    (stands : Stands base last s symbols) : Stands base last s' symbols' := by
  induction reaches with
  | here s symbols => exact stands
  | move moves reaches ih => exact ih (moves.stands stands)

/-- A run whose symbols keep the footing restores depth and flag, and never goes below the depth
from which it started. -/
theorem run_done_restores (keeps : Footing.behind ⟨0, s.inFunction⟩ symbols =
      some ⟨0, s.inFunction⟩) (done : s.run symbols = .done s') :
    s'.draft.depth = s.draft.depth ∧ s'.inFunction = s.inFunction := by
  obtain ⟨leaves, reaches⟩ := reaches_of_run_done done
  obtain ⟨footing, depth, flag, behind⟩ := reaches.stands ⟨_, rfl, rfl, keeps⟩
  obtain rfl := Option.some.inj behind
  exact ⟨depth, flag⟩

theorem run_halted_depth_le (keeps : Footing.behind ⟨0, s.inFunction⟩ symbols =
      some ⟨0, s.inFunction⟩) (halted : s.run symbols = .halted error s') :
    s.draft.depth ≤ s'.draft.depth := by
  obtain ⟨leaves, mid, symbol, rest, reaches, stepped⟩ := reaches_of_run_halted halted
  obtain ⟨footing, depth, -, -⟩ := reaches.stands ⟨_, rfl, rfl, keeps⟩
  rw [(stops_of_step stepped).depth, depth]
  exact Nat.le_add_right _ _

/-- No level is left where there is none. -/
theorem depth_pos_of_comesTo (keeps : Footing.behind ⟨0, s.inFunction⟩ symbols =
      some ⟨0, s.inFunction⟩) (comes : s.ComesTo symbols s' (.dedent :: rest)) :
    0 < s'.draft.depth := by
  obtain ⟨leaves, reaches⟩ := comes.reaches
  obtain ⟨⟨level, inFunction⟩, depth, -, behind⟩ := reaches.stands ⟨_, rfl, rfl, keeps⟩
  cases level with
  | zero => cases behind
  | succ level =>
    rw [depth]
    exact Nat.lt_of_lt_of_le (Nat.succ_pos level) (Nat.le_add_left _ _)

/-! ## Statements and programs -/

/-- Where a phrase goes on with a statement, the run of that statement is what comes first. -/
theorem run_of_statement {phrase next : Phrase}
    (goesOn : s.predict phrase = s.wholeStatement.followedBy [.phrase next]) (rest : List Symbol) :
    s.run (.phrase phrase :: rest) = match s.run [.phrase .statement] with
      | .done s' => s'.run (.phrase next :: rest)
      | .halted error s' => .halted error s' := by
  have split := run_append s [.phrase .statement] (.phrase next :: rest)
  rw [List.singleton_append] at split
  refine Eq.trans ?_ split
  -- Both phrases take the same first step; only one of them puts `next` behind its symbols.
  have step : s.step (.phrase phrase) = s.follow (s.wholeStatement.followedBy [.phrase next]) :=
    congrArg s.follow goesOn
  have step' : s.step (.phrase .statement) = s.follow s.wholeStatement := rfl
  have before (outcome : Outcome) (symbols : List Symbol)
      (h : s.step (.phrase phrase) = outcome.before (symbols ++ [.phrase next]))
      (h' : s.step (.phrase .statement) = outcome.before symbols) :
      s.run (.phrase phrase :: rest) = s.run (.phrase .statement :: .phrase next :: rest) := by
    cases outcome with
    | done mid =>
      rw [run_cons_of_proceed h, run_cons_of_proceed h', List.append_assoc, List.singleton_append]
    | halted error mid => rw [run_cons_of_halt h, run_cons_of_halt h']
  cases whole : s.wholeStatement with
  | derive symbols =>
    rw [whole] at step step'
    exact before (.done s) symbols step step'
  | take symbols =>
    rw [whole] at step step'
    exact before s.shift symbols step step'
  | copy symbols =>
    rw [whole] at step step'
    exact before (s.write s.currentText).shift symbols step step'
  | refuse fault =>
    rw [whole] at step step'
    rw [run_cons_of_halt step, run_cons_of_halt step']

/-- What is the same before and after a statement, and what the statement has added. -/
structure Restores (s s' : Session) : Prop where
  depth : s'.draft.depth = s.draft.depth
  inFunction : s'.inFunction = s.inFunction
  grown : ∃ added, s'.draft.body = s.draft.body ++ added ++ "\n"
  ended : s'.draft.lineOpen = false

theorem restores_of_statement (done : s.run [.phrase .statement] = .done s') : s.Restores s' := by
  obtain ⟨depth, inFunction⟩ := run_done_restores rfl done
  obtain ⟨ended, ⟨impossible, -⟩ | grown⟩ := lined_of_statement done
  · exact impossible.elim
  · exact ⟨depth, inFunction, grown, ended⟩

/-- The statements of a call that ends without an error are compiled as they would be on their
own. -/
theorem restores_of_comesTo {phrase next : Phrase}
    (comes : s.writePreamble.ComesTo programSymbols mid (.phrase phrase :: rest))
    (goesOn : mid.predict phrase = mid.wholeStatement.followedBy [.phrase next])
    (done : s.program = .done s') :
    ∃ behind, mid.run [.phrase .statement] = .done behind ∧ mid.Restores behind := by
  unfold program at done
  rw [show [.phrase .blankLines, .phrase .statements] = programSymbols from rfl, comes.run_eq,
    run_of_statement goesOn] at done
  cases compiled : mid.run [.phrase .statement] with
  | done behind => exact ⟨behind, rfl, restores_of_statement compiled⟩
  | halted error behind =>
    rw [compiled] at done
    cases done

theorem draft_writePreamble (s : Session) :
    s.writePreamble.draft.depth = s.draft.depth ∧ s.writePreamble.draft.body = s.draft.body ∧
      s.writePreamble.draft.lineOpen = s.draft.lineOpen := by
  unfold writePreamble
  generalize s.draft = draft
  induction s.target.preamble generalizing draft with
  | nil => exact ⟨rfl, rfl, rfl⟩
  | cons line lines ih => exact ih (draft.writeHeader line)

theorem program_halted_depth_le (halted : s.program = .halted error s') :
    s.draft.depth ≤ s'.draft.depth := by
  unfold program at halted
  split at halted
  · cases halted
  · next ended =>
    cases halted
    have le := run_halted_depth_le rfl ended
    rw [s.draft_writePreamble.1] at le
    exact le

theorem program_done_restores {source : String} {width : Nat} {target : Target}
    (started : Session.start source width target = .ok s) (done : s.program = .done s') :
    s'.draft.depth = 0 ∧ s'.inFunction = false ∧
      (s'.draft.body = "" ∨ ∃ lines, s'.draft.body = lines ++ "\n") := by
  obtain ⟨-, -, inFunction, draft, -⟩ := start_eq_ok started
  obtain ⟨depth, body, lineOpen⟩ := s.draft_writePreamble
  rw [draft] at depth body lineOpen
  unfold program at done
  split at done
  · next mid ended =>
    cases done
    obtain ⟨depth', flag⟩ := run_done_restores rfl ended
    have empty : s.writePreamble.draft.Lined "" True := ⟨lineOpen, .inl ⟨trivial, body⟩⟩
    obtain ⟨-, lines⟩ := lined_of_run_done ended
      ⟨Draft.Lined.extends empty, true, fun _ => empty, rfl⟩
    refine ⟨depth'.trans depth, flag.trans inFunction, lines.imp And.right fun grown => ?_⟩
    obtain ⟨added, same⟩ := grown
    exact ⟨added, same.trans (by rw [String.empty_append])⟩
  · cases done

end Session

/-- In whatever state a session is, a statement that is compiled in it leaves depth and flag as they
were and adds whole lines, and so does each statement of a call that ends without an error. Neither
a statement nor a call that ends with an error leaves the depth lower than it was. No level is left
where there is none. And a first call that ends without an error ends at depth zero, outside of
functions, and behind whole lines. -/
theorem session_balanced (s : Session) :
    (∀ s', s.run [.phrase .statement] = .done s' → s.Restores s') ∧
    (∀ mid phrase next rest s',
      s.writePreamble.ComesTo Session.programSymbols mid (.phrase phrase :: rest) →
      mid.predict phrase = mid.wholeStatement.followedBy [.phrase next] →
      s.program = .done s' →
        ∃ behind, mid.run [.phrase .statement] = .done behind ∧ mid.Restores behind) ∧
    (∀ error s', s.run [.phrase .statement] = .halted error s' →
      s.draft.depth ≤ s'.draft.depth) ∧
    (∀ error s', s.program = .halted error s' → s.draft.depth ≤ s'.draft.depth) ∧
    (∀ mid rest, s.ComesTo [.phrase .statement] mid (.dedent :: rest) → 0 < mid.draft.depth) ∧
    (∀ mid rest, s.writePreamble.ComesTo Session.programSymbols mid (.dedent :: rest) →
      0 < mid.draft.depth) ∧
    ∀ source width target s', Session.start source width target = .ok s →
      s.program = .done s' → s'.draft.depth = 0 ∧ s'.inFunction = false ∧
        (s'.draft.body = "" ∨ ∃ lines, s'.draft.body = lines ++ "\n") :=
  ⟨fun _ => Session.restores_of_statement,
    fun _ _ _ _ _ comes goesOn => Session.restores_of_comesTo comes goesOn,
    fun _ _ => Session.run_halted_depth_le rfl, fun _ _ => Session.program_halted_depth_le,
    fun _ _ => Session.depth_pos_of_comesTo rfl, fun _ _ => Session.depth_pos_of_comesTo rfl,
    fun _ _ _ _ => Session.program_done_restores⟩

/-- A function with one statement: it is compiled at the beginning, and nothing is left open. -/
theorem session_balanced_function : ∃ first last s',
    Session.start "FUNC f()\nRETURN 1\nENDFUNC" 4 .python = .ok first ∧
      first.run [.phrase .statement] = .done last ∧ first.Restores last ∧
      first.program = .done s' ∧ s'.draft.depth = 0 ∧ s'.inFunction = false := by
  have ends : (match Session.start "FUNC f()\nRETURN 1\nENDFUNC" 4 .python with
      | .error _ => none
      | .ok first => match first.run [.phrase .statement], first.program with
        | .done last, .done _ => some last.draft.body
        | _, _ => none) = some "def f():\n    return 1\n" := by cbv
  split at ends
  · cases ends
  · next first started =>
    split at ends
    · next last s' compiled done =>
      obtain ⟨restores, -, -, -, -, -, balanced⟩ := session_balanced first
      obtain ⟨depth, inFunction, -⟩ := balanced _ _ _ s' started done
      exact ⟨first, last, s', started, compiled, restores last compiled, done, depth, inFunction⟩
    · cases ends

end Offside
