import Offside.Proofs.Grammar.Tree
import Offside.Proofs.Session.Window

/-!
# What a step can do

A step does one of three things. It replaces a phrase by symbols without
looking any further, it takes the token at hand, or it works on the draft and
leaves the source alone. `Session.Moves` says so, and it is the only place that
looks at `step`: everything that is said of runs below is said of moves.

A token that is taken becomes a leaf. Whether an identifier is declared or read
depends on the symbol that takes it, so a run does not only consume words, it
also tells what each of them does; `Session.Reaches` collects the leaves.
-/

namespace Offside

/-- What the symbols that demand nothing of the source work on. -/
structure Work where
  inFunction : Bool
  draft : Draft

namespace Work

/-- Writes a piece of a line. -/
def write (work : Work) (piece : String) : Work :=
  { work with draft := work.draft.write piece }

/-- Writes the last piece of a line. -/
def writeLine (work : Work) (piece : String) : Work :=
  { work with draft := work.draft.writeLine piece }

end Work

namespace Symbol

/-- Whether the symbol is dealt with without a look at the source. -/
def isSilent : Symbol → Bool
  | .expect _ | .declare _ | .phrase _ => false
  | _ => true

/-- What a silent symbol does. -/
def effect (target : Target) (work : Work) : Symbol → Work
  | .write fragment => work.write (target.spelling fragment)
  | .writeLine fragment => work.writeLine (target.spelling fragment)
  | .writeText text => work.write text
  | .endLine => work.writeLine ""
  | .indent => { work with draft := work.draft.indent }
  | .dedent => { work with draft := work.draft.dedent }
  | .setInFunction inFunction => { work with inFunction }
  | _ => work

end Symbol

/-- The leaf that a token becomes unless it declares a name. -/
def Token.leaf (token : Token) : Leaf :=
  match token.kind with
  | .number => .number token.text
  | .identifier => .read token.text
  | .stringLiteral => .literal token.text
  | kind => .fixed kind

theorem Token.leaf_word {token : Token} (proper : token.word.Proper) :
    token.leaf.word = token.word := by
  obtain ⟨kind, text, span⟩ := token
  cases kind with
  | number | identifier | stringLiteral => rfl
  | _ => exact (proper.eq_fixed rfl).symm

namespace Session

variable {s s' : Session} {symbol : Symbol} {more : List Symbol} {error : Error}

/-- The part of a session that silent symbols work on. -/
def work (s : Session) : Work := ⟨s.inFunction, s.draft⟩

/-- The symbol takes the token at hand as this leaf, and leaves these symbols and this work. -/
inductive Takes (s : Session) : Symbol → Leaf → List Symbol → Work → Prop where
  | expect {terminal : Terminal} (met : s.current.kind = terminal.kind) :
    Takes s (.expect terminal) (.fixed terminal.kind) [] s.work
  | declare {role : Role} (met : s.current.kind = .identifier) :
    Takes s (.declare role) (.declared role s.current.text) (declaration role s.current.text)
      s.work
  | take {phrase : Phrase} {symbols : List Symbol} (predicted : s.predict phrase = .take symbols) :
    Takes s (.phrase phrase) s.current.leaf symbols s.work
  | copy {phrase : Phrase} {symbols : List Symbol} (predicted : s.predict phrase = .copy symbols) :
    Takes s (.phrase phrase) s.current.leaf symbols (s.work.write s.currentText)

/-- A session whose window has moved on by one token. -/
structure Advances (s s' : Session) : Prop where
  current : s'.current = s.lookahead
  target : s'.target = s.target
  place : s.current.kind ≠ .endOfInput → ∀ lexer, s.At lexer →
    ∃ behind, lexer.Delivers [s.current] behind ∧ s'.At behind

/-- A session whose window has not moved. -/
structure Stays (s s' : Session) : Prop where
  current : s'.current = s.current
  lookahead : s'.lookahead = s.lookahead
  lexer : s'.lexer = s.lexer
  scope : s'.scope = s.scope
  target : s'.target = s.target

/-- What a step can do: it deals with the symbol, makes these leaves of the tokens that it takes,
and puts further symbols in its place. -/
inductive Moves (s : Session) : Symbol → List Leaf → List Symbol → Session → Prop where
  | derive {phrase : Phrase} {symbols : List Symbol}
      (predicted : s.predict phrase = .derive symbols) :
    Moves s (.phrase phrase) [] symbols s
  | take {symbol : Symbol} {leaf : Leaf} {more : List Symbol} {s' : Session}
      (takes : s.Takes symbol leaf more s'.work) (advances : s.Advances s')
      (scope : s'.scope = s.scope.behind leaf) :
    Moves s symbol [leaf] more s'
  | perform {symbol : Symbol} {s' : Session} (silent : symbol.isSilent = true)
      (stays : s.Stays s') (work : s'.work = symbol.effect s.target s.work) :
    Moves s symbol [] [] s'

/-- The token at hand is not one that the symbol may go on with. -/
inductive Refuses (s : Session) : Symbol → Prop where
  | expect {terminal : Terminal} (unmet : s.current.kind ≠ terminal.kind) :
    Refuses s (.expect terminal)
  | declare {role : Role} (unmet : s.current.kind ≠ .identifier) : Refuses s (.declare role)
  | phrase {phrase : Phrase} {fault : GrammarFault}
      (refused : s.predict phrase = .refuse fault) : Refuses s (.phrase phrase)

/-! ## Steps are moves -/

theorem advances_of_shift (h : s.shift = .done s') : s.Advances s' where
  current := (shift_done h).1
  target := (shift_done h).2.2.2.2.1
  place more _ at_ := at_.shift_done more h

theorem work_of_shift (h : s.shift = .done s') : s'.work = s.work := by
  obtain ⟨-, -, inFunction, draft, -, -⟩ := shift_done h
  rw [work, work, inFunction, draft]

theorem scope_of_shift (h : s.shift = .done s') : s'.scope = s.scope := (shift_done h).2.1

theorem behind_leaf (scope : Scope) (token : Token) : scope.behind token.leaf = scope := by
  obtain ⟨kind, text, span⟩ := token
  cases kind <;> rfl

theorem declare_eq_none {scope : Scope} {name : String} (kind : NameKind)
    (declared : scope.kind? name ≠ none) : scope.declare name kind = scope := by
  rw [Scope.declare, dif_neg declared]

/-- Declaring a name changes nothing but the scope, and the log. -/
theorem declare_stays (s : Session) (name : String) (kind : NameKind) :
    (s.declare name kind).current = s.current ∧ (s.declare name kind).lookahead = s.lookahead ∧
      (s.declare name kind).lexer = s.lexer ∧ (s.declare name kind).target = s.target ∧
      (s.declare name kind).work = s.work ∧
      (s.declare name kind).scope = s.scope.declare name kind := by
  unfold declare
  split
  · exact ⟨rfl, rfl, rfl, rfl, rfl, rfl⟩
  · next first known =>
    have same := declare_eq_none kind (by rw [known]; exact Option.some_ne_none first)
    split
    · exact ⟨rfl, rfl, rfl, rfl, rfl, same.symm⟩
    · exact ⟨rfl, rfl, rfl, rfl, rfl, same.symm⟩

theorem advances_of_shift_declare {mid : Session} (h : s.shift = .done mid) (name : String)
    (kind : NameKind) : s.Advances (mid.declare name kind) := by
  obtain ⟨current, lookahead, lexer, target, -, -⟩ := mid.declare_stays name kind
  have advances := advances_of_shift h
  refine ⟨current.trans advances.current, target.trans advances.target, fun more start at_ => ?_⟩
  obtain ⟨behind, delivers, next, answer, answer'⟩ := advances.place more start at_
  refine ⟨behind, delivers, next, ?_, ?_⟩
  · rw [current]
    exact answer
  · rw [lookahead, lexer]
    exact answer'

theorem proceed_of_before {outcome : Outcome} {symbols : List Symbol}
    (h : outcome.before symbols = .proceed more s') : outcome = .done s' ∧ symbols = more := by
  cases outcome with
  | done s => cases h; exact ⟨rfl, rfl⟩
  | halted error s => cases h

theorem halt_of_before {outcome : Outcome} {symbols : List Symbol}
    (h : outcome.before symbols = .halt error s') : outcome = .halted error s' := by
  cases outcome with
  | done s => cases h
  | halted error s => cases h; rfl

theorem moves_of_follow {phrase : Phrase} {prediction : Prediction}
    (predicted : s.predict phrase = prediction) (h : s.follow prediction = .proceed more s') :
    ∃ leaves, s.Moves (.phrase phrase) leaves more s' := by
  cases prediction with
  | derive symbols =>
    cases h
    exact ⟨[], .derive predicted⟩
  | take symbols =>
    obtain ⟨shifted, rfl⟩ := proceed_of_before h
    refine ⟨[s.current.leaf], .take ?_ (advances_of_shift shifted) ?_⟩
    · rw [work_of_shift shifted]
      exact .take predicted
    · rw [scope_of_shift shifted, behind_leaf]
  | copy symbols =>
    obtain ⟨shifted, rfl⟩ := proceed_of_before h
    -- Writing does not touch the window.
    have advances : s.Advances s' :=
      ⟨(advances_of_shift shifted).current, (advances_of_shift shifted).target,
        (advances_of_shift shifted).place⟩
    refine ⟨[s.current.leaf], .take ?_ advances ?_⟩
    · rw [work_of_shift shifted]
      exact .copy predicted
    · rw [scope_of_shift shifted, behind_leaf]
      rfl
  | refuse fault => cases h

/-- Every step is a move. -/
theorem moves_of_step (h : s.step symbol = .proceed more s') :
    ∃ leaves, s.Moves symbol leaves more s' := by
  cases symbol with
  | expect terminal =>
    simp only [step, expect] at h
    split at h
    · next met =>
      obtain ⟨shifted, rfl⟩ := proceed_of_before h
      refine ⟨[.fixed terminal.kind], .take ?_ (advances_of_shift shifted)
        (scope_of_shift shifted)⟩
      rw [work_of_shift shifted]
      exact .expect met
    · cases h
  | declare role =>
    simp only [step, expectName] at h
    split at h
    · next met =>
      split at h
      · next mid shifted =>
        cases h
        obtain ⟨-, -, -, -, work, scope⟩ := mid.declare_stays s.current.text role.kind
        refine ⟨[.declared role s.current.text], .take ?_
          (advances_of_shift_declare shifted _ _) ?_⟩
        · rw [work, work_of_shift shifted]
          exact .declare met
        · rw [scope, scope_of_shift shifted]
          rfl
      · cases h
    · cases h
  | phrase phrase => exact moves_of_follow rfl h
  | _ =>
    cases h
    exact ⟨[], .perform rfl ⟨rfl, rfl, rfl, rfl, rfl⟩ rfl⟩

/-- A step that ends the run refuses the token at hand, or takes it and finds a faulty word behind
the window. -/
theorem refuses_or_takes_of_step (h : s.step symbol = .halt error s') :
    (s' = s ∧ s.Refuses symbol ∧ ∃ fault, error = .grammatical fault s.current.span) ∨
      ∃ leaf more work, s.Takes symbol leaf more work ∧
        ∀ lexer, s.At lexer → lexer.readAll = ([s.current, s.lookahead], some error) := by
  cases symbol with
  | expect terminal =>
    simp only [step, expect] at h
    split at h
    · next met =>
      exact .inr ⟨_, _, _, .expect met, fun _ at_ => (at_.shift_halted (halt_of_before h)).1⟩
    · next unmet =>
      cases halt_of_before h
      exact .inl ⟨rfl, .expect unmet, _, rfl⟩
  | declare role =>
    simp only [step, expectName] at h
    split at h
    · next met =>
      split at h
      · cases h
      · next shifted =>
        cases h
        exact .inr ⟨_, _, _, .declare met, fun _ at_ => (at_.shift_halted shifted).1⟩
    · next unmet =>
      cases halt_of_before h
      exact .inl ⟨rfl, .declare unmet, _, rfl⟩
  | phrase phrase =>
    simp only [step] at h
    cases predicted : s.predict phrase with
    | derive symbols =>
      rw [predicted] at h
      cases h
    | take symbols =>
      rw [predicted] at h
      exact .inr ⟨_, _, _, .take predicted,
        fun _ at_ => (at_.shift_halted (halt_of_before h)).1⟩
    | copy symbols =>
      rw [predicted] at h
      exact .inr ⟨_, _, _, .copy predicted, fun _ at_ =>
        (At.shift_halted (s := s.write s.currentText) at_ (halt_of_before h)).1⟩
    | refuse fault =>
      rw [predicted] at h
      cases h
      exact .inl ⟨rfl, .phrase predicted, _, rfl⟩
  | _ => cases h

/-! ## Runs -/

/-- A run comes to this session with these symbols still to come, and has made these leaves of the
tokens in between. -/
inductive Reaches : Session → List Symbol → List Leaf → Session → List Symbol → Prop where
  | here (s : Session) (symbols : List Symbol) : Reaches s symbols [] s symbols
  | move {s mid s' : Session} {symbol : Symbol} {more rest symbols : List Symbol}
      {leaves leaves' : List Leaf} (moves : s.Moves symbol leaves more mid)
      (reaches : Reaches mid (more ++ rest) leaves' s' symbols) :
    Reaches s (symbol :: rest) (leaves ++ leaves') s' symbols

theorem reaches_of_run_done {symbols : List Symbol} (h : s.run symbols = .done s') :
    ∃ leaves, Reaches s symbols leaves s' [] := by
  fun_induction run s symbols with
  | case1 s =>
    cases h
    exact ⟨[], .here _ _⟩
  | case2 s symbol rest error s' moved => cases h
  | case3 s symbol rest more mid moved _ ih =>
    obtain ⟨leaves, moves⟩ := moves_of_step moved
    obtain ⟨leaves', reaches⟩ := ih h
    exact ⟨leaves ++ leaves', .move moves reaches⟩

theorem reaches_of_run_halted {symbols : List Symbol} (h : s.run symbols = .halted error s') :
    ∃ leaves mid symbol rest, Reaches s symbols leaves mid (symbol :: rest) ∧
      mid.step symbol = .halt error s' := by
  fun_induction run s symbols with
  | case1 s => cases h
  | case2 s symbol rest error' s'' moved =>
    cases h
    exact ⟨[], s, symbol, rest, .here _ _, moved⟩
  | case3 s symbol rest more mid moved _ ih =>
    obtain ⟨leaves, moves⟩ := moves_of_step moved
    obtain ⟨leaves', mid', symbol', rest', reaches, halts⟩ := ih h
    exact ⟨leaves ++ leaves', mid', symbol', rest', .move moves reaches, halts⟩

end Session

end Offside
