import Offside.Proofs.Grammar.Resolved
import Offside.Proofs.Session.Asked

/-!
# What a session tells

A step tells the answer that it gets from the lexer, if it asks for one, and
then what it has to remark: a declaration, a block or a call of a variable. So
the log is a faithful account of what has been read. At any time its traces are
the tokens up to the end of the window, but for the ends of the input, and the
declarations that it tells of are the entries of the scope, in their order. That
it has come to the end a session tells last of all.
-/

namespace Offside

namespace Event

/-- The level at which the event is told. -/
def level (event : Event) : Log.Level := event.record.level

/-- Whether the event is told as a trace. -/
def isTrace (event : Event) : Bool := event.level == .trace

/-- The declaration that the event tells of. -/
def declaration? : Event → Option (String × NameKind)
  | .declared kind name => some (name, kind)
  | _ => none

/-- The depth of the block that the event tells of. -/
def block? : Event → Option Nat
  | .blockOpened depth => some depth
  | _ => none

/-- What is told of an answer of the lexer. -/
def ofAnswer? : Except Error Token → Option Event
  | .ok token => ofToken? token
  | .error _ => none

/-- What is told when a name is declared. -/
def ofDeclaration (scope : Scope) (name : String) (kind : NameKind) : List Event :=
  match scope.kind? name with
  | none => [.declared kind name]
  | some first => if first = kind then [] else [.redeclared name first kind]

theorem level_ofDeclaration {scope : Scope} {name : String} {kind : NameKind} :
    ∀ event ∈ ofDeclaration scope name kind, event.level = .debug := by
  intro event member
  unfold ofDeclaration at member
  split at member
  · cases List.mem_singleton.1 member
    rfl
  · split at member
    · cases member
    · cases List.mem_singleton.1 member
      rfl

theorem filterMap_block?_ofDeclaration {scope : Scope} {name : String} {kind : NameKind} :
    (ofDeclaration scope name kind).filterMap block? = [] := by
  unfold ofDeclaration
  split
  · rfl
  · split <;> rfl

theorem ofToken?_eq_some {token : Token} {event : Event} (told : ofToken? token = some event) :
    event = .scanned token := by
  unfold ofToken? at told
  split at told
  · cases told
  · cases told
    rfl

theorem ofToken?_of_endOfInput {token : Token} (last : token.kind = .endOfInput) :
    ofToken? token = none :=
  if_pos last

end Event

namespace Session

variable {s mid s' : Session} {symbol : Symbol} {symbols more rest : List Symbol} {error : Error}

/-- What a step tells of itself. -/
def remarks (s : Session) : Symbol → List Event
  | .declare role => Event.ofDeclaration s.scope s.current.text role.kind
  | .noteBlock => [.blockOpened s.draft.depth]
  | .noteVariableCall name => [.variableCalled name]
  | _ => []

theorem answersTo_of_asks (asks : s.asks symbol = true) :
    s.answersTo symbol = [s.lexer.next.1] :=
  if_pos asks

theorem log_of_shift (h : s.shift = .done s') : s'.log.toList =
    s.log.toList ++ [s.lexer.next.1].filterMap Event.ofAnswer? := by
  unfold shift at h
  split at h
  · cases h
  · next token behind answer =>
    cases h
    rw [answer]
    cases told : Event.ofToken? token <;> simp [Event.ofAnswer?, told]

theorem log_declare (s : Session) (name : String) (kind : NameKind) :
    (s.declare name kind).log.toList =
      s.log.toList ++ Event.ofDeclaration s.scope name kind := by
  unfold declare Event.ofDeclaration
  cases s.scope.kind? name with
  | none => simp [note]
  | some first =>
    dsimp only
    split
    · simp
    · simp [note]

theorem log_settle {mid : Session} (asks : s.asks symbol = true) (scope : mid.scope = s.scope) :
    (s.settle mid symbol).log.toList = mid.log.toList ++ s.remarks symbol := by
  cases symbol with
  | expect terminal | phrase phrase => exact (List.append_nil _).symm
  | declare role =>
    rw [remarks, ← scope]
    exact mid.log_declare _ _
  | _ => cases asks

/-- A step tells the answer that it gets, and then what it has to remark. -/
theorem log_of_step (h : s.step symbol = .proceed more s') : s'.log.toList = s.log.toList ++
    ((s.answersTo symbol).filterMap Event.ofAnswer? ++ s.remarks symbol) := by
  by_cases asks : s.asks symbol = true
  · obtain ⟨draft, mid, shifted, rfl⟩ := shift_of_asks_proceed asks h
    have scope := scope_of_shift shifted
    rw [log_settle asks scope, log_of_shift shifted, answersTo_of_asks asks, List.append_assoc]
  · rw [answersTo, if_neg asks, List.filterMap_nil, List.nil_append]
    rcases derives_or_silent (Bool.eq_false_iff.2 asks) h with ⟨phrase, rfl, rfl⟩ | silent
    · exact (List.append_nil _).symm
    · cases symbol with
      | expect | declare | phrase => cases silent
      | noteBlock | noteVariableCall =>
        cases h
        exact Array.toList_push
      | _ =>
        cases h
        exact (List.append_nil _).symm

theorem log_of_shift_halted (h : s.shift = .halted error s') : s'.log = s.log := by
  unfold shift at h
  split at h
  · cases h
    rfl
  · cases h

/-- A step that ends the run tells nothing. -/
theorem log_of_halt (h : s.step symbol = .halt error s') : s'.log = s.log := by
  rcases refuses_or_takes_of_step h with ⟨rfl, -⟩ | ⟨leaf, more, work, takes, -⟩
  · rfl
  · obtain ⟨draft, shifted⟩ := shift_of_asks_halt (asks_iff.2 ⟨leaf, more, work, takes⟩) h
    have same := log_of_shift_halted shifted
    exact same

/-! ## What is told at which level -/

theorem level_remarks (s : Session) (symbol : Symbol) :
    ∀ event ∈ s.remarks symbol, event.level = .debug := by
  intro event member
  cases symbol with
  | declare role => exact Event.level_ofDeclaration event member
  | noteBlock | noteVariableCall =>
    cases List.mem_singleton.1 member
    rfl
  | _ => cases member

theorem level_ofAnswer? {answers : List (Except Error Token)} :
    ∀ event ∈ answers.filterMap Event.ofAnswer?, event.level = .trace := by
  intro event member
  obtain ⟨answer, -, told⟩ := List.mem_filterMap.1 member
  cases answer with
  | error error => cases told
  | ok token =>
    rw [Event.ofToken?_eq_some told]
    rfl

/-- All that is told of answers are traces. -/
theorem filter_isTrace_answers (answers : List (Except Error Token)) :
    (answers.filterMap Event.ofAnswer?).filter Event.isTrace =
      answers.filterMap Event.ofAnswer? :=
  List.filter_eq_self.2 fun event member => by
    rw [Event.isTrace, level_ofAnswer? event member]
    rfl

/-- What is selected without regard to the tokens is not told of answers. -/
theorem filterMap_answers {α : Type} {select : Event → Option α}
    (deaf : ∀ token, select (.scanned token) = none) (answers : List (Except Error Token)) :
    (answers.filterMap Event.ofAnswer?).filterMap select = [] := by
  refine List.filterMap_eq_nil_iff.2 fun event member => ?_
  obtain ⟨answer, -, told⟩ := List.mem_filterMap.1 member
  cases answer with
  | error error => cases told
  | ok token =>
    rw [Event.ofToken?_eq_some told]
    exact deaf token

/-- The traces that a step adds are the answers that it gets. -/
theorem traces_of_step (h : s.step symbol = .proceed more s') :
    s'.log.toList.filter Event.isTrace = s.log.toList.filter Event.isTrace ++
      (s.answersTo symbol).filterMap Event.ofAnswer? := by
  have remarks : (s.remarks symbol).filter Event.isTrace = [] :=
    List.filter_eq_nil_iff.2 fun event member => by
      rw [Event.isTrace, level_remarks s symbol event member]
      decide
  rw [log_of_step h, List.filter_append, List.filter_append,
    filter_isTrace_answers, remarks, List.append_nil]

/-- What is selected from the log without regard to the tokens is added by what a step has to
remark. -/
theorem filterMap_log_of_step {α : Type} {select : Event → Option α}
    (deaf : ∀ token, select (.scanned token) = none) (h : s.step symbol = .proceed more s') :
    s'.log.toList.filterMap select =
      s.log.toList.filterMap select ++ (s.remarks symbol).filterMap select := by
  rw [log_of_step h, List.filterMap_append, List.filterMap_append, filterMap_answers deaf,
    List.nil_append]

theorem entries_declare (scope : Scope) (name : String) (kind : NameKind) :
    (scope.declare name kind).entries =
      scope.entries ++ (Event.ofDeclaration scope name kind).filterMap Event.declaration? := by
  unfold Event.ofDeclaration
  split
  · next fresh =>
    rw [Scope.declare, dif_pos fresh]
    rfl
  · next first known =>
    rw [Scope.declare, dif_neg (by rw [known]; exact Option.some_ne_none first)]
    split <;> exact (List.append_nil _).symm

/-- A name that comes into the scope is told. -/
theorem entries_of_step (h : s.step symbol = .proceed more s') :
    s'.scope.entries =
      s.scope.entries ++ (s.remarks symbol).filterMap Event.declaration? := by
  obtain ⟨leaves, moves⟩ := moves_of_step h
  cases moves with
  | derive predicted => exact (List.append_nil _).symm
  | take takes advances scope =>
    rw [scope]
    generalize s'.work = work at takes
    cases takes with
    | expect met => exact (List.append_nil _).symm
    | declare met => exact entries_declare _ _ _
    | take predicted | copy predicted =>
      rw [behind_leaf]
      exact (List.append_nil _).symm
  | perform silent stays =>
    rw [stays.scope]
    cases symbol with
    | declare role => cases silent
    | _ => exact (List.append_nil _).symm

end Session

end Offside
