import Mathlib
import Offside.Proofs.Grammar.Blank
import Offside.Proofs.Session.Accepts
import Offside.Proofs.Session.Predict

/-!
# What does not depend on the spacing

Two sources may differ in the blanks between their words, in their comments and
in their blank lines. The runs on them then take different numbers of steps: a
blank line is passed over token by token, and where one of the sources has none
the session on it has to wait. So the sessions are compared where they face the
same token but for its place, and are said to be abreast there. Blank lines are
only ever passed over behind a line end and at the front, where the next symbol
asks for any number of them; everywhere else a step takes sessions that are
abreast to sessions that are abreast.
-/

namespace Offside

/-! ## Tokens -/

/-- The tokens without the line ends of blank lines. The flag tells whether no line has begun. -/
def kept : (ended : Bool) → List Token → List Token
  | _, [] => []
  | ended, token :: tokens =>
    if token.kind = .newline then
      if ended then kept true tokens else token :: kept true tokens
    else token :: kept false tokens

section

variable {token token' : Token} {tokens : List Token} {ended : Bool}

theorem map_word_kept (ended : Bool) (tokens : List Token) :
    (kept ended tokens).map Token.word = collapse ended (tokens.map Token.word) := by
  induction tokens generalizing ended with
  | nil => rfl
  | cons token tokens ih =>
    rw [List.map_cons, kept, collapse, Token.word_kind]
    split
    · split
      · exact ih true
      · rw [List.map_cons, ih]
    · rw [List.map_cons, ih]

theorem kept_newline (is : token.kind = .newline) :
    kept true (token :: tokens) = kept true tokens ∧
      kept false (token :: tokens) = token :: kept true tokens := by
  simp [kept, is]

theorem kept_more (more : token.kind ≠ .newline) :
    kept ended (token :: tokens) = token :: kept false tokens := by
  rw [kept, if_neg more]

/-- Where a line has begun the next token is kept, whatever it is. -/
theorem kept_begun (token : Token) (tokens : List Token) :
    kept false (token :: tokens) = token :: kept (token.kind == .newline) tokens := by
  by_cases is : token.kind = .newline
  · rw [(kept_newline is).2, is]
    rfl
  · rw [kept_more is, beq_false_of_ne is]

theorem Token.kind_eq (same : token'.word = token.word) : token'.kind = token.kind :=
  congrArg Word.kind same

theorem Token.text_eq (same : token'.word = token.word) : token'.text = token.text :=
  congrArg Word.text same

theorem Token.shown_eq (same : token'.word = token.word) : token'.shown = token.shown := by
  rw [shown, shown, kind_eq same, text_eq same]

end

/-- Tokens that are the same word, and are one of the pairs. -/
def Token.Opposite (pairs : List (Token × Token)) (token token' : Token) : Prop :=
  token'.word = token.word ∧ (token, token') ∈ pairs

theorem opposite_of_map_word_eq {tokens tokens' : List Token}
    (same : tokens.map Token.word = tokens'.map Token.word) :
    List.Forall₂ (Token.Opposite (tokens.zip tokens')) tokens tokens' := by
  rw [← List.forall₂_eq_eq_eq, List.forall₂_map_left_iff, List.forall₂_map_right_iff] at same
  obtain ⟨length, words⟩ := List.forall₂_iff_zip.1 same
  exact List.forall₂_iff_zip.2 ⟨length, fun member => ⟨(words member).symm, member⟩⟩

/-! ## Predictions -/

/-- Predictions that go on in the same way, or refuse the token at hand with the same message. -/
inductive Prediction.Agrees : Prediction → Prediction → Prop where
  | same (prediction : Prediction) : Agrees prediction prediction
  | refuse {fault fault' : GrammarFault} (message : fault'.message = fault.message) :
    Agrees (.refuse fault) (.refuse fault')

theorem Prediction.Agrees.followedBy {prediction prediction' : Prediction}
    (agrees : prediction.Agrees prediction') (more : List Symbol) :
    (prediction.followedBy more).Agrees (prediction'.followedBy more) := by
  cases agrees with
  | same => exact .same _
  | refuse message => exact .refuse message

theorem GrammarFault.message_unmet {token token' : Token} (same : token'.word = token.word)
    (demand : Demand) : (unmet demand token').message = (unmet demand token).message := by
  unfold message
  dsimp only
  rw [Token.shown_eq same]

theorem GrammarFault.message_noStatement {token token' : Token}
    (same : token'.word = token.word) :
    (noStatement token').message = (noStatement token).message := by
  unfold message
  dsimp only
  rw [Token.kind_eq same, Token.text_eq same]

namespace Outlook

/-- The outlooks differ at most in the places of the tokens, and in the second token where it is not
looked at. -/
structure Agrees (o o' : Outlook) : Prop where
  current : o'.current.word = o.current.word
  lookahead : o.current.kind = .identifier → o'.lookahead.kind = o.lookahead.kind
  scope : o'.scope = o.scope
  inFunction : o'.inFunction = o.inFunction

namespace Agrees

variable {o o' : Outlook}

theorem unmet (agrees : o.Agrees o') (demand : Demand) :
    (Prediction.refuse (.unmet demand o.current)).Agrees (.refuse (.unmet demand o'.current)) :=
  .refuse (GrammarFault.message_unmet agrees.current demand)

theorem statement (agrees : o.Agrees o') : o.statement.Agrees o'.statement := by
  simp only [Outlook.statement, Token.kind_eq agrees.current, agrees.inFunction]
  split
  on_goal 11 => exact .refuse (GrammarFault.message_noStatement agrees.current)
  all_goals exact .same _

theorem wholeStatement (agrees : o.Agrees o') : o.wholeStatement.Agrees o'.wholeStatement :=
  agrees.statement.followedBy _

theorem blockStatement (agrees : o.Agrees o') (block : Block) :
    (o.blockStatement block).Agrees (o'.blockStatement block) := by
  simp only [Outlook.blockStatement, Token.kind_eq agrees.current]
  split
  · exact agrees.unmet _
  · exact agrees.wholeStatement.followedBy _

theorem operand (agrees : o.Agrees o') : o.operand.Agrees o'.operand := by
  have text := Token.text_eq agrees.current
  simp only [Outlook.operand, Token.kind_eq agrees.current]
  split
  · exact .same _
  · next is =>
    rw [agrees.scope, text, agrees.lookahead is]
    exact .same _
  · exact agrees.unmet _

theorem predict (agrees : o.Agrees o') (phrase : Phrase) :
    (o.predict phrase).Agrees (o'.predict phrase) := by
  have kind := Token.kind_eq agrees.current
  cases phrase with
  | statement => exact agrees.wholeStatement
  | primary => exact agrees.operand
  | statements =>
    simp only [Outlook.predict, kind]
    split
    · exact .same _
    · exact agrees.wholeStatement.followedBy _
  | blockBody block | moreStatements block =>
    simp only [Outlook.predict, kind]
    split
    · exact .same _
    · exact agrees.blockStatement block
  | rightSide | call =>
    simp only [Outlook.predict, kind]
    split
    · exact .same _
    · exact agrees.unmet _
  | _ =>
    simp only [Outlook.predict, kind]
    exact .same _

end Agrees

/-- A line end is taken where it is asked for, and among blank lines. -/
theorem takesToken_of_newline {o : Outlook} {phrase : Phrase} (is : o.current.kind = .newline)
    (other : phrase ≠ .blankLines) : (o.predict phrase).takesToken = false := by
  have statement : o.wholeStatement.takesToken = false := by
    rw [wholeStatement, Prediction.takesToken_followedBy]
    simp [Outlook.statement, is, Prediction.takesToken]
  have blockStatement (block : Block) : (o.blockStatement block).takesToken = false := by
    simp [Outlook.blockStatement, is, Prediction.takesToken_followedBy, statement]
  cases phrase with
  | blankLines => exact absurd rfl other
  | statement => exact statement
  | statements => simp [predict, is, Prediction.takesToken_followedBy, statement]
  | blockBody block | moreStatements block =>
    simp only [predict]
    split
    · rfl
    · exact blockStatement block
  | _ =>
    simp [predict, operand, is, Prediction.takesToken, Token.Kind.isComparison,
      Token.Kind.isSign, Token.Kind.isFactorOperator]

end Outlook

/-! ## Symbols -/

/-- Whether the symbol asks for a line end. -/
def Symbol.asksLineEnd : Symbol → Bool
  | .expect .newline => true
  | _ => false

/-- Whether blank lines come first. -/
def opensBlank : List Symbol → Bool
  | .phrase .blankLines :: _ => true
  | _ => false

theorem opensBlank_cons {symbol : Symbol} (other : symbol ≠ .phrase .blankLines)
    (symbols : List Symbol) : opensBlank (symbol :: symbols) = false := by
  unfold opensBlank
  split
  · next same => exact absurd (List.cons.inj same).1 other
  · rfl

/-- Whether blank lines may follow wherever a line end is asked for. -/
def allowsBlank : List Symbol → Bool
  | [] => true
  | symbol :: symbols => (!symbol.asksLineEnd || opensBlank symbols) && allowsBlank symbols

theorem allowsBlank_append {symbols more : List Symbol} (allows : allowsBlank symbols = true)
    (allows' : allowsBlank more = true) : allowsBlank (symbols ++ more) = true := by
  induction symbols with
  | nil => exact allows'
  | cons symbol symbols ih =>
    simp only [allowsBlank, Bool.and_eq_true] at allows
    rw [List.cons_append, allowsBlank, ih allows.2, Bool.and_true]
    cases symbols with
    | nil =>
      have none : symbol.asksLineEnd = false := by simpa [opensBlank] using allows.1
      rw [none]
      rfl
    | cons next symbols =>
      have first : opensBlank (next :: symbols ++ more) = opensBlank (next :: symbols) := by
        rw [List.cons_append]
        unfold opensBlank
        split <;> simp_all
      rw [first]
      exact allows.1

namespace Prediction

/-- Among the symbols of the prediction, blank lines may follow wherever a line end is asked for. -/
def AllowsBlank : Prediction → Prop
  | .derive symbols | .take symbols | .copy symbols => allowsBlank symbols = true
  | .refuse _ => True

theorem AllowsBlank.followedBy {prediction : Prediction} {more : List Symbol}
    (allows : prediction.AllowsBlank) (allows' : allowsBlank more = true) :
    (prediction.followedBy more).AllowsBlank := by
  cases prediction with
  | refuse fault => trivial
  | _ => exact allowsBlank_append allows allows'

end Prediction

namespace Outlook

theorem allowsBlank_wholeStatement (o : Outlook) : o.wholeStatement.AllowsBlank := by
  refine Prediction.AllowsBlank.followedBy ?_ rfl
  unfold statement
  split <;> first | rfl | trivial | (split <;> first | rfl | trivial)

theorem allowsBlank_blockStatement (o : Outlook) (block : Block) :
    (o.blockStatement block).AllowsBlank := by
  unfold blockStatement
  split
  · trivial
  · exact o.allowsBlank_wholeStatement.followedBy rfl

theorem allowsBlank_operand (o : Outlook) : o.operand.AllowsBlank := by
  unfold operand
  split
  · rfl
  · split <;> first | rfl | trivial
  · trivial

theorem allowsBlank_predict (o : Outlook) (phrase : Phrase) :
    (o.predict phrase).AllowsBlank := by
  cases phrase with
  | statement => exact o.allowsBlank_wholeStatement
  | primary => exact o.allowsBlank_operand
  | statements =>
    simp only [predict]
    split
    · rfl
    · exact o.allowsBlank_wholeStatement.followedBy rfl
  | blockBody block | moreStatements block =>
    simp only [predict]
    split
    · rfl
    · exact o.allowsBlank_blockStatement block
  | block | condition | conjunction | comparison | expression | term => rfl
  | _ =>
    simp only [predict]
    split <;> first | rfl | trivial

end Outlook

/-! ## Sessions that are abreast -/

namespace Session

variable {s s' t t' : Session} {tokens behind : List Token} {pairs : List (Token × Token)}
  {symbol : Symbol} {symbols : List Symbol} {ended : Bool}

/-- These tokens are what the session has before it, and there is no error among them. -/
def Faces (s : Session) (tokens : List Token) : Prop :=
  ∃ lexer, s.At lexer ∧ lexer.readAll = (tokens, none)

theorem Faces.eq_cons (faces : s.Faces tokens) : ∃ behind, tokens = s.current :: behind ∧
    (s.current.kind ≠ .endOfInput → ∃ further, behind = s.lookahead :: further) := by
  obtain ⟨lexer, at_, read⟩ := faces
  obtain ⟨behind, first, second⟩ := at_.readAll_eq_cons
  rw [read] at first
  exact ⟨behind, first, second⟩

/-- What a session faces is decided by its window and its lexer. -/
theorem Faces.of_same (faces : s.Faces tokens) (current : s'.current = s.current)
    (lookahead : s'.lookahead = s.lookahead) (lexer : s'.lexer = s.lexer) : s'.Faces tokens := by
  obtain ⟨place, at_, read⟩ := faces
  refine ⟨place, ?_, read⟩
  rw [At, current, lookahead, lexer]
  exact at_

theorem Faces.shift (faces : s.Faces (s.current :: behind))
    (more : s.current.kind ≠ .endOfInput) : ∃ s', s.shift = .done s' ∧ s'.Faces behind := by
  obtain ⟨lexer, at_, read⟩ := faces
  cases shifted : s.shift with
  | done s' =>
    obtain ⟨mid, delivers, at_'⟩ := at_.shift_done more shifted
    have whole := Lexer.readAll_of_delivers delivers
    rw [read] at whole
    obtain ⟨first, none⟩ := Prod.mk.inj whole
    exact ⟨s', rfl, mid, at_', Prod.ext (List.cons.inj first).2.symm none.symm⟩
  | halted error s' =>
    have faulty := (at_.shift_halted shifted).1
    rw [read] at faulty
    cases (Prod.mk.inj faulty).2

/-- A silent symbol is dealt with in any case. -/
theorem exists_performed (s : Session) (silent : symbol.isSilent = true) :
    ∃ s', s.step symbol = .proceed [] s' ∧ s.Stays s' ∧
      s'.work = symbol.effect s.target s.work := by
  cases symbol with
  | expect terminal => cases silent
  | declare role => cases silent
  | phrase phrase => cases silent
  | _ => exact ⟨_, rfl, ⟨rfl, rfl, rfl, rfl, rfl⟩, rfl⟩

/-- The sessions have the same names and the same code, and go on with it in the same way. -/
structure Peers (s t : Session) : Prop where
  scope : t.scope = s.scope
  work : t.work = s.work
  target : t.target = s.target

namespace Peers

theorem refl (s : Session) : s.Peers s := ⟨rfl, rfl, rfl⟩

theorem symm (peers : s.Peers t) : t.Peers s :=
  ⟨peers.scope.symm, peers.work.symm, peers.target.symm⟩

theorem trans (peers : s.Peers t) (peers' : t.Peers t') : s.Peers t' :=
  ⟨peers'.scope.trans peers.scope, peers'.work.trans peers.work,
    peers'.target.trans peers.target⟩

theorem of_shift (shifted : s.shift = .done s') : s.Peers s' :=
  ⟨scope_of_shift shifted, work_of_shift shifted, (advances_of_shift shifted).target⟩

theorem draft (peers : s.Peers t) : t.draft = s.draft := congrArg Work.draft peers.work

theorem inFunction (peers : s.Peers t) : t.inFunction = s.inFunction :=
  congrArg Work.inFunction peers.work

end Peers

/-- The sessions face the same tokens but for their places and for blank lines, and have done the
same so far. The flag tells whether no line has begun. -/
structure Abreast (pairs : List (Token × Token)) (ended : Bool) (s t : Session) : Prop where
  peers : s.Peers t
  tokens : ∃ tokens tokens', s.Faces tokens ∧ t.Faces tokens' ∧
    List.Forall₂ (Token.Opposite pairs) (kept ended tokens) (kept ended tokens')

end Session

/-- Steps that lead abreast sessions to the same symbols, or to errors that have the same message
and are about tokens that are opposite. -/
inductive Move.Abreast (pairs : List (Token × Token)) (ended : Bool) : Move → Move → Prop where
  | proceed {s t : Session} {symbols : List Symbol} (abreast : s.Abreast pairs ended t) :
    Abreast pairs ended (.proceed symbols s) (.proceed symbols t)
  | halt {s t : Session} {fault fault' : GrammarFault} {token token' : Token}
    (message : fault'.message = fault.message) (opposite : token.Opposite pairs token') :
    Abreast pairs ended (.halt (.grammatical fault token.span) s)
      (.halt (.grammatical fault' token'.span) t)

/-- Runs that end with the same code, or with errors that have the same message and are about tokens
that are opposite. -/
inductive Outcome.Abreast (pairs : List (Token × Token)) : Outcome → Outcome → Prop where
  | done {s t : Session} (same : t.draft = s.draft) : Abreast pairs (.done s) (.done t)
  | halted {s t : Session} {fault fault' : GrammarFault} {token token' : Token}
    (message : fault'.message = fault.message) (opposite : token.Opposite pairs token') :
    Abreast pairs (.halted (.grammatical fault token.span) s)
      (.halted (.grammatical fault' token'.span) t)

namespace Session

variable {s s' t t' : Session} {tokens behind : List Token} {pairs : List (Token × Token)}
  {symbol : Symbol} {symbols : List Symbol} {ended : Bool}

namespace Abreast

/-- Where a line has begun, the tokens at hand are opposite, and what is behind them is. -/
theorem heads (abreast : s.Abreast pairs false t) : s.current.Opposite pairs t.current ∧
    ∃ behind behind', s.Faces (s.current :: behind) ∧ t.Faces (t.current :: behind') ∧
      List.Forall₂ (Token.Opposite pairs) (kept (s.current.kind == .newline) behind)
        (kept (s.current.kind == .newline) behind') := by
  obtain ⟨peers, tokens, tokens', faces, faces', opposite⟩ := abreast
  obtain ⟨behind, rfl, -⟩ := faces.eq_cons
  obtain ⟨behind', rfl, -⟩ := faces'.eq_cons
  rw [kept_begun, kept_begun] at opposite
  obtain ⟨head, rest⟩ := List.forall₂_cons.1 opposite
  rw [Token.kind_eq head.1] at rest
  exact ⟨head, behind, behind', faces, faces', rest⟩

/-- Sessions that face the same line may also begin one there. -/
theorem anyway (abreast : s.Abreast pairs false t) (ended : Bool) : s.Abreast pairs ended t := by
  cases ended with
  | false => exact abreast
  | true =>
    obtain ⟨head, behind, behind', faces, faces', rest⟩ := abreast.heads
    refine ⟨abreast.peers, _, _, faces, faces', ?_⟩
    by_cases is : s.current.kind = .newline
    · rw [is] at rest
      rw [(kept_newline is).1, (kept_newline ((Token.kind_eq head.1).trans is)).1]
      exact rest
    · rw [beq_false_of_ne is] at rest
      rw [kept_more is, kept_more fun is' => is ((Token.kind_eq head.1).symm.trans is')]
      exact .cons head rest

theorem agrees (abreast : s.Abreast pairs false t) : s.toOutlook.Agrees t.toOutlook := by
  obtain ⟨head, behind, behind', faces, faces', rest⟩ := abreast.heads
  refine ⟨head.1, fun is => ?_, abreast.peers.scope, abreast.peers.inFunction⟩
  have is' : t.current.kind = .identifier := (Token.kind_eq head.1).trans is
  obtain ⟨_, same, second⟩ := faces.eq_cons
  obtain ⟨further, rfl⟩ := second (by rw [is]; nofun)
  obtain ⟨_, same', second'⟩ := faces'.eq_cons
  obtain ⟨further', rfl⟩ := second' (by rw [is']; nofun)
  obtain ⟨-, rfl⟩ := List.cons.inj same
  obtain ⟨-, rfl⟩ := List.cons.inj same'
  -- A name is no line end, so the token behind it is kept too.
  rw [is, show (Token.Kind.identifier == .newline) = false from rfl, kept_begun,
    kept_begun] at rest
  exact Token.kind_eq (List.forall₂_cons.1 rest).1.1

theorem shift (abreast : s.Abreast pairs false t) (more : s.current.kind ≠ .endOfInput) :
    ∃ s' t', s.shift = .done s' ∧ t.shift = .done t' ∧
      s'.Abreast pairs (s.current.kind == .newline) t' := by
  obtain ⟨head, behind, behind', faces, faces', rest⟩ := abreast.heads
  obtain ⟨s', shifted, faces⟩ := faces.shift more
  obtain ⟨t', shifted', faces'⟩ := faces'.shift (by rwa [Token.kind_eq head.1])
  exact ⟨s', t', shifted, shifted', ((Peers.of_shift shifted).symm.trans abreast.peers).trans
    (Peers.of_shift shifted'), behind, behind', faces, faces', rest⟩

theorem write (abreast : s.Abreast pairs ended t) (piece : String) :
    (s.write piece).Abreast pairs ended (t.write piece) :=
  ⟨⟨abreast.peers.scope, congrArg (Work.write · piece) abreast.peers.work, abreast.peers.target⟩,
    abreast.tokens⟩

theorem currentText (abreast : s.Abreast pairs false t) : t.currentText = s.currentText := by
  have same := abreast.heads.1.1
  rw [Session.currentText, Session.currentText, Token.kind_eq same, Token.text_eq same,
    abreast.peers.target]

theorem refuse (abreast : s.Abreast pairs false t) {fault fault' : GrammarFault}
    (message : fault'.message = fault.message) (ended : Bool) :
    ((s.refuse fault).before []).Abreast pairs ended ((t.refuse fault').before []) :=
  .halt message abreast.heads.1

/-- A token that is taken is no line end. -/
theorem take (abreast : s.Abreast pairs false t) (more : s.current.kind ≠ .endOfInput)
    (line : s.current.kind ≠ .newline) (symbols : List Symbol) :
    (s.shift.before symbols).Abreast pairs false (t.shift.before symbols) := by
  obtain ⟨s', t', shifted, shifted', abreast'⟩ := abreast.shift more
  rw [beq_false_of_ne line] at abreast'
  rw [shifted, shifted']
  exact .proceed abreast'

theorem expect (abreast : s.Abreast pairs false t) (terminal : Terminal) :
    (s.expect terminal).Abreast pairs (Symbol.expect terminal).asksLineEnd
      (t.expect terminal) := by
  have same := abreast.heads.1.1
  simp only [Session.expect, Token.kind_eq same]
  split
  · next met =>
    obtain ⟨s', t', shifted, shifted', abreast'⟩ :=
      abreast.shift (Takes.expect met).kind_ne_endOfInput
    have line : (s.current.kind == .newline) = (Symbol.expect terminal).asksLineEnd := by
      rw [met]
      cases terminal <;> rfl
    rw [line] at abreast'
    rw [shifted, shifted']
    exact .proceed abreast'
  · exact abreast.refuse (GrammarFault.message_unmet same _) _

theorem declare (abreast : s.Abreast pairs ended t) (name : String) (kind : NameKind) :
    (s.declare name kind).Abreast pairs ended (t.declare name kind) := by
  obtain ⟨⟨scope, work, target⟩, tokens, tokens', faces, faces', opposite⟩ := abreast
  obtain ⟨current₁, lookahead₁, lexer₁, target₁, work₁, scope₁⟩ := s.declare_stays name kind
  obtain ⟨current₂, lookahead₂, lexer₂, target₂, work₂, scope₂⟩ := t.declare_stays name kind
  refine ⟨⟨?_, ?_, ?_⟩, tokens, tokens', faces.of_same current₁ lookahead₁ lexer₁,
    faces'.of_same current₂ lookahead₂ lexer₂, opposite⟩
  · rw [scope₁, scope₂, scope]
  · rw [work₁, work₂, work]
  · rw [target₁, target₂, target]

theorem expectName (abreast : s.Abreast pairs false t) (role : Role) :
    (s.expectName role).Abreast pairs false (t.expectName role) := by
  have same := abreast.heads.1.1
  simp only [Session.expectName, Token.kind_eq same, Token.text_eq same]
  split
  · next met =>
    obtain ⟨s', t', shifted, shifted', abreast'⟩ :=
      abreast.shift (@Takes.declare s role met).kind_ne_endOfInput
    rw [met] at abreast'
    rw [shifted, shifted']
    exact .proceed (abreast'.declare _ _)
  · exact abreast.refuse (GrammarFault.message_unmet same _) _

theorem phrase (abreast : s.Abreast pairs false t) {phrase : Phrase}
    (other : phrase ≠ .blankLines) :
    (s.follow (s.predict phrase)).Abreast pairs false (t.follow (t.predict phrase)) := by
  have agrees := abreast.agrees.predict phrase
  have line (takes : (s.predict phrase).takesToken = true) : s.current.kind ≠ .newline := by
    intro is
    rw [Outlook.takesToken_of_newline is other] at takes
    cases takes
  have more (takes : (s.predict phrase).takesToken = true) : s.current.kind ≠ .endOfInput :=
    (Outlook.takesToken_predict takes).1
  generalize s.predict phrase = prediction, t.predict phrase = prediction' at agrees line more
  cases agrees with
  | same =>
    cases prediction with
    | derive symbols => exact .proceed abreast
    | take symbols => exact abreast.take (more rfl) (line rfl) symbols
    | copy symbols =>
      rw [follow, follow, abreast.currentText]
      exact (abreast.write _).take (more rfl) (line rfl) symbols
    | refuse fault => exact abreast.refuse rfl _
  | refuse message => exact abreast.refuse message _

theorem silent (abreast : s.Abreast pairs false t) (silent : symbol.isSilent = true) :
    (s.step symbol).Abreast pairs false (t.step symbol) := by
  obtain ⟨⟨scope, work, target⟩, tokens, tokens', faces, faces', opposite⟩ := abreast
  obtain ⟨s', stepped, stays, work₁⟩ := s.exists_performed silent
  obtain ⟨t', stepped', stays', work₂⟩ := t.exists_performed silent
  rw [stepped, stepped']
  refine .proceed ⟨⟨?_, ?_, ?_⟩, tokens, tokens',
    faces.of_same stays.current stays.lookahead stays.lexer,
    faces'.of_same stays'.current stays'.lookahead stays'.lexer, opposite⟩
  · rw [stays'.scope, stays.scope, scope]
  · rw [work₁, work₂, target, work]
  · rw [stays'.target, stays.target, target]

/-- A step takes abreast sessions to abreast ones, unless it is one over blank lines. -/
theorem step (abreast : s.Abreast pairs false t) (other : symbol ≠ .phrase .blankLines) :
    (s.step symbol).Abreast pairs symbol.asksLineEnd (t.step symbol) := by
  cases symbol with
  | expect terminal => exact abreast.expect terminal
  | declare role => exact abreast.expectName role
  | phrase phrase => exact abreast.phrase fun same => other (congrArg Symbol.phrase same)
  | _ => exact abreast.silent rfl

end Abreast

/-! ## Blank lines -/

/-- A step over blank lines takes one line end, if there is one. -/
theorem Faces.step_blankLines (faces : s.Faces tokens) :
    (s.current.kind ≠ .newline ∧ s.step (.phrase .blankLines) = .proceed [] s) ∨
      ∃ s' behind, s.current.kind = .newline ∧ tokens = s.current :: behind ∧ s'.Faces behind ∧
        s.Peers s' ∧ s.step (.phrase .blankLines) = .proceed [.phrase .blankLines] s' := by
  by_cases is : s.current.kind = .newline
  · obtain ⟨behind, rfl, -⟩ := faces.eq_cons
    obtain ⟨s', shifted, faces'⟩ := faces.shift (by rw [is]; nofun)
    refine .inr ⟨s', behind, is, rfl, faces', .of_shift shifted, ?_⟩
    have predicted : s.predict .blankLines = .take [.phrase .blankLines] := if_pos is
    rw [step, predicted, follow, shifted]
    rfl
  · exact .inl ⟨is, congrArg s.follow (if_neg is)⟩

/-- All blank lines are passed over before anything else is done. -/
theorem Faces.exists_passed (faces : t.Faces tokens) (rest : List Symbol) :
    ∃ t' behind, t.run (.phrase .blankLines :: rest) = t'.run rest ∧ t.Peers t' ∧
      t'.Faces behind ∧ t'.current.kind ≠ .newline ∧ kept true tokens = kept true behind := by
  induction tokens generalizing t with
  | nil =>
    obtain ⟨behind, none, -⟩ := faces.eq_cons
    cases none
  | cons token tokens ih =>
    rcases faces.step_blankLines with ⟨more, stepped⟩ | ⟨mid, _, is, split, faces', peers, stepped⟩
    · exact ⟨t, token :: tokens, run_cons_of_proceed stepped rest, .refl t, faces, more, rfl⟩
    · obtain ⟨rfl, rfl⟩ := List.cons.inj split
      obtain ⟨t', behind, run, peers', faces', more, same⟩ := ih faces'
      exact ⟨t', behind, (run_cons_of_proceed stepped rest).trans run, peers.trans peers', faces',
        more, (kept_newline is).1.trans same⟩

/-- Sessions that face no blank lines are abreast if they are but for blank lines. -/
theorem Abreast.of_more (abreast : s.Abreast pairs true t) (more : s.current.kind ≠ .newline)
    (more' : t.current.kind ≠ .newline) : s.Abreast pairs false t := by
  obtain ⟨peers, tokens, tokens', faces, faces', opposite⟩ := abreast
  obtain ⟨behind, rfl, -⟩ := faces.eq_cons
  obtain ⟨behind', rfl, -⟩ := faces'.eq_cons
  refine ⟨peers, _, _, faces, faces', ?_⟩
  rw [kept_more more, kept_more more'] at opposite ⊢
  exact opposite

theorem allowsBlank_of_step {more : List Symbol} (stepped : s.step symbol = .proceed more s') :
    allowsBlank more = true := by
  cases symbol with
  | expect terminal =>
    simp only [step, expect] at stepped
    split at stepped
    · obtain ⟨-, rfl⟩ := proceed_of_before stepped
      rfl
    · cases stepped
  | declare role =>
    simp only [step, expectName] at stepped
    split at stepped
    · split at stepped
      · cases stepped
        cases role <;> rfl
      · cases stepped
    · cases stepped
  | phrase phrase =>
    have allows := s.allowsBlank_predict phrase
    simp only [step] at stepped
    cases predicted : s.predict phrase with
    | derive symbols =>
      rw [predicted] at stepped allows
      cases stepped
      exact allows
    | take symbols | copy symbols =>
      rw [predicted] at stepped allows
      obtain ⟨-, rfl⟩ := proceed_of_before stepped
      exact allows
    | refuse fault =>
      rw [predicted] at stepped
      cases stepped
  | _ =>
    cases stepped
    rfl

theorem eq_nil_of_asksLineEnd {more : List Symbol} (asks : symbol.asksLineEnd = true)
    (stepped : s.step symbol = .proceed more s') : more = [] := by
  cases symbol with
  | expect terminal =>
    simp only [step, expect] at stepped
    split at stepped
    · exact (proceed_of_before stepped).2.symm
    · cases stepped
  | _ => cases asks

/-- While the first session passes over a blank line the second one waits, and when it has passed
over the last one the second one passes over all of its own. -/
theorem Abreast.passes {more : List Symbol} (abreast : s.Abreast pairs true t)
    (stepped : s.step (.phrase .blankLines) = .proceed more s') (rest : List Symbol) :
    ∃ t', t.run (.phrase .blankLines :: rest) = t'.run (more ++ rest) ∧
      s'.Abreast pairs (opensBlank (more ++ rest)) t' := by
  obtain ⟨peers, tokens, tokens', faces, faces', opposite⟩ := abreast
  rcases faces.step_blankLines with
    ⟨line, stepped'⟩ | ⟨mid, behind, is, rfl, faces, peers', stepped'⟩
  · rw [stepped] at stepped'
    cases stepped'
    obtain ⟨t', behind, run, peers', faces', line', same⟩ := faces'.exists_passed rest
    rw [same] at opposite
    have passed : s.Abreast pairs true t' :=
      ⟨peers.trans peers', tokens, behind, faces, faces', opposite⟩
    exact ⟨t', run, (passed.of_more line line').anyway _⟩
  · rw [stepped] at stepped'
    cases stepped'
    rw [(kept_newline is).1] at opposite
    exact ⟨t, rfl, peers'.symm.trans peers, behind, tokens', faces, faces', opposite⟩

/-- A step of the first session is followed by the second one, in one step unless it is one over
blank lines. -/
theorem Abreast.follows {more rest : List Symbol}
    (abreast : s.Abreast pairs (opensBlank (symbol :: rest)) t)
    (allows : !symbol.asksLineEnd || opensBlank rest)
    (stepped : s.step symbol = .proceed more s') :
    ∃ t', t.run (symbol :: rest) = t'.run (more ++ rest) ∧
      s'.Abreast pairs (opensBlank (more ++ rest)) t' := by
  by_cases blank : symbol = .phrase .blankLines
  · subst blank
    exact Abreast.passes abreast stepped rest
  · rw [opensBlank_cons blank] at abreast
    have steps := abreast.step blank
    rw [stepped] at steps
    generalize moved : t.step symbol = move at steps
    cases steps with
    | @proceed _ t' _ abreast' =>
      refine ⟨t', run_cons_of_proceed moved rest, ?_⟩
      cases asks : symbol.asksLineEnd with
      | false =>
        rw [asks] at abreast'
        exact abreast'.anyway _
      | true =>
        -- Nothing is put in the place of a line end, so what comes next are blank lines.
        rw [asks] at abreast' allows
        rw [eq_nil_of_asksLineEnd asks stepped, List.nil_append,
          show opensBlank rest = true from allows]
        exact abreast'

/-- Abreast sessions end their runs in the same way. -/
theorem Abreast.run (abreast : s.Abreast pairs (opensBlank symbols) t)
    (allows : allowsBlank symbols = true) :
    (s.run symbols).Abreast pairs (t.run symbols) := by
  fun_induction Session.run s symbols generalizing t with
  | case1 s =>
    rw [run_nil]
    exact .done abreast.peers.draft
  | case2 s symbol rest error s' halted =>
    have other : symbol ≠ .phrase .blankLines := by
      rintro rfl
      obtain ⟨-, _, _, faces, -, -⟩ := abreast
      rcases faces.step_blankLines with ⟨-, stepped⟩ | ⟨_, _, -, -, -, -, stepped⟩
      all_goals
        rw [halted] at stepped
        cases stepped
    rw [opensBlank_cons other] at abreast
    have steps := abreast.step other
    rw [halted] at steps
    generalize moved : t.step symbol = move at steps
    cases steps with
    | halt message opposite =>
      rw [run_cons_of_halt moved]
      exact .halted message opposite
  | case3 s symbol rest more s' stepped _ ih =>
    obtain ⟨first, allows⟩ := Bool.and_eq_true_iff.1 allows
    obtain ⟨t', run, abreast'⟩ := abreast.follows first stepped
    rw [run]
    exact ih abreast' (allowsBlank_append (allowsBlank_of_step stepped) allows)

/-! ## Whole programs -/

theorem Abreast.program (abreast : s.Abreast pairs true t) :
    s.program.Abreast pairs t.program := by
  obtain ⟨⟨scope, work, target⟩, tokens⟩ := abreast
  have header : t.writePreamble.work = s.writePreamble.work := by
    show Work.mk t.inFunction (t.target.preamble.foldl Draft.writeHeader t.draft) = _
    rw [target, show t.draft = s.draft from congrArg Work.draft work,
      show t.inFunction = s.inFunction from congrArg Work.inFunction work]
    rfl
  have begins : s.writePreamble.Abreast pairs true t.writePreamble :=
    ⟨⟨scope, header, target⟩, tokens⟩
  have runs := @Abreast.run _ _ _ [.phrase .blankLines, .phrase .statements] begins rfl
  unfold Session.program
  generalize s.writePreamble.run _ = outcome, t.writePreamble.run _ = outcome' at runs ⊢
  cases runs with
  | done same => exact .done same
  | halted message opposite => exact .halted message opposite

end Session

/-- Sources with the same words but for those of blank lines are compiled to the same code, or are
refused with the same message, and because of tokens that are the same word and stand in the same
place when those of blank lines are left out. -/
theorem compile_spacing {source source' : String} {tokens tokens' : List Token}
    (read : Lexer.tokens source = .ok tokens) (read' : Lexer.tokens source' = .ok tokens')
    (same : collapsed (tokens.map Token.word) = collapsed (tokens'.map Token.word))
    (width : Nat) :
    (∃ code, compile source width = .ok code ∧ compile source' width = .ok code) ∨
      ∃ fault fault' token token', compile source width = .error (.grammatical fault token.span) ∧
        compile source' width = .error (.grammatical fault' token'.span) ∧
        fault'.message = fault.message ∧ token'.word = token.word ∧
        (token, token') ∈ (kept true tokens).zip (kept true tokens') := by
  obtain ⟨s, started⟩ := Session.exists_start read width .python
  obtain ⟨t, started'⟩ := Session.exists_start read' width .python
  obtain ⟨at_, scope, inFunction, draft, target⟩ := Session.start_eq_ok started
  obtain ⟨at_', scope', inFunction', draft', target'⟩ := Session.start_eq_ok started'
  rw [collapsed, collapsed, ← map_word_kept, ← map_word_kept] at same
  have abreast : s.Abreast ((kept true tokens).zip (kept true tokens')) true t := by
    refine ⟨⟨scope'.trans scope.symm, ?_, target'.trans target.symm⟩, tokens, tokens',
      ⟨_, at_, Lexer.tokens_eq_ok_iff.1 read⟩, ⟨_, at_', Lexer.tokens_eq_ok_iff.1 read'⟩,
      opposite_of_map_word_eq same⟩
    rw [Session.work, Session.work, inFunction, inFunction', draft, draft']
  have ends := abreast.program
  simp only [compile_eq_compileFor, compileFor, started, started']
  generalize s.program = outcome, t.program = outcome' at ends ⊢
  cases ends with
  | done same => exact .inl ⟨_, rfl, congrArg Except.ok (congrArg Draft.code same)⟩
  | halted message opposite => exact .inr ⟨_, _, _, _, rfl, rfl, message, opposite.1, opposite.2⟩

/-- What the tokens of two sources are evaluated for. -/
theorem exists_collapsed_eq {source source' : String}
    (evaluated : (match Lexer.tokens source, Lexer.tokens source' with
      | .ok tokens, .ok tokens' =>
        decide (collapsed (tokens.map Token.word) = collapsed (tokens'.map Token.word))
      | _, _ => false) = true) :
    ∃ tokens tokens', Lexer.tokens source = .ok tokens ∧ Lexer.tokens source' = .ok tokens' ∧
      collapsed (tokens.map Token.word) = collapsed (tokens'.map Token.word) := by
  split at evaluated
  · next tokens tokens' read read' =>
    exact ⟨tokens, tokens', read, read', of_decide_eq_true evaluated⟩
  · cases evaluated

/-- Comments, blank lines, blanks and the line end at the end of a source change neither the code
for a program nor what is told of a name that is not declared. -/
theorem compile_spacing_passed :
    (∃ code, compile "LET y = 1\nPRINT y" 4 = .ok code ∧
      compile "\n# y\nLET y=1\r\n\n  PRINT y\n" 4 = .ok code) ∧
    ∃ (fault fault' : GrammarFault) (span span' : Span),
      compile "PRINT 1\nPRINT y" 4 = .error (.grammatical fault span) ∧
      compile "\n# y\nPRINT 1\r\n\n  PRINT y\n" 4 = .error (.grammatical fault' span') ∧
      fault'.message = fault.message := by
  constructor
  · obtain ⟨tokens, tokens', read, read', same⟩ := @exists_collapsed_eq "LET y = 1\nPRINT y"
      "\n# y\nLET y=1\r\n\n  PRINT y\n" (by cbv)
    have compiled : compile "LET y = 1\nPRINT y" 4 = .ok "import sys\ny = 1\nprint(y)\n" := by cbv
    rcases compile_spacing read read' same 4 with accepted | ⟨_, _, _, _, refused, -⟩
    · exact accepted
    · rw [compiled] at refused
      cases refused
  · obtain ⟨tokens, tokens', read, read', same⟩ := @exists_collapsed_eq "PRINT 1\nPRINT y"
      "\n# y\nPRINT 1\r\n\n  PRINT y\n" (by cbv)
    have refused : compile "PRINT 1\nPRINT y" 4 =
      .error (.grammatical (.undeclared "y") ⟨14, 15⟩) := by cbv
    rcases compile_spacing read read' same 4 with
      ⟨_, accepted, -⟩ | ⟨fault, fault', token, token', first, second, message, -⟩
    · rw [refused] at accepted
      cases accepted
    · exact ⟨fault, fault', token.span, token'.span, first, second, message⟩

end Offside
