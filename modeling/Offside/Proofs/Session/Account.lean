import Offside.Proofs.Grammar.Outline
import Offside.Proofs.Session.Tracks

/-!
# What a session owes

A block is told when its statements begin, and not at the keyword that opens it;
a statement is counted at its end, and not where it begins. So the outline of
what has been taken is ahead of what has been told. The difference can be read
off the symbols that are still to come: `Owes` says how deep they are nested,
which blocks are still to be told and how many statements are still to be
counted. No statement begins before the block that it belongs to has been told,
so where one may begin no block is owed, and the margin is as deep as the
nesting. A run that ends owes nothing.
-/

namespace Offside

/-- Whether the phrase consists of statements. -/
def Phrase.isOutline : Phrase → Bool
  | .statements | .statement | .blockBody _ | .moreStatements _ => true
  | _ => false

/-- Whether the symbol has no part in the outline. -/
def Symbol.isPlain : Symbol → Bool
  | .expect terminal => terminal.kind.isWritten
  | .phrase (.block _) | .phrase .elseBranch => false
  | .phrase other => !other.isOutline
  | .indent | .dedent | .countStatement | .noteBlock => false
  | _ => true

/-- The number of commands that begin with a word. -/
def Token.Kind.commands (kind : Token.Kind) : Nat := if kind.beginsCommand = true then 1 else 0

/-- A token of this kind has no part in the outline. -/
structure Token.Kind.Neutral (kind : Token.Kind) : Prop where
  past (nesting : Nesting) : nesting.past kind = nesting
  commands : kind.commands = 0

theorem Token.Kind.neutral_of_isWritten {kind : Token.Kind} (written : kind.isWritten = true) :
    kind.Neutral where
  past _ := Nesting.past_of_isWritten written
  commands := if_neg (by rw [not_beginsCommand_of_isWritten written]; decide)

theorem Token.Kind.neutral_of_eq {kind written : Token.Kind} (is : kind = written)
    (h : written.isWritten = true) : kind.Neutral :=
  neutral_of_isWritten (is.symm ▸ h)

theorem Token.Kind.neutral_newline : newline.Neutral := ⟨fun _ => rfl, rfl⟩

theorem Token.Kind.neutral_of_isOperator {kind : Token.Kind} (operates : kind.isOperator = true) :
    kind.Neutral :=
  neutral_of_isWritten <| by
    cases kind <;> first | rfl | cases operates

/-- Blocks that have been told before do not matter to the nesting. -/
theorem Nesting.past_told (nesting : Nesting) (told : List Nat) (kind : Token.Kind) :
    (⟨nesting.depth, told ++ nesting.blocks⟩ : Nesting).past kind =
      ⟨(nesting.past kind).depth, told ++ (nesting.past kind).blocks⟩ := by
  cases kind with
  | keyword word =>
    cases word <;> simp only [Nesting.past, List.append_assoc]
  | _ => rfl

theorem Nesting.behindAll_told (nesting : Nesting) (told : List Nat) (leaves : List Leaf) :
    (⟨nesting.depth, told ++ nesting.blocks⟩ : Nesting).behindAll leaves =
      ⟨(nesting.behindAll leaves).depth, told ++ (nesting.behindAll leaves).blocks⟩ := by
  induction leaves generalizing nesting with
  | nil => rfl
  | cons leaf leaves ih =>
    rw [behindAll_cons, behindAll_cons, behind, past_told]
    exact ih (nesting.behind leaf)

theorem commandCount_singleton (leaf : Leaf) : commandCount [leaf] = leaf.kind.commands := by
  rw [commandCount, List.countP_cons, List.countP_nil, Nat.zero_add]
  rfl

theorem Token.leaf_kind (token : Token) : token.leaf.kind = token.kind := by
  obtain ⟨kind, text, span⟩ := token
  cases kind <;> rfl

/-- With the margin this deep the symbols are nested this deep, and these blocks and this number of
statements are still to be told. -/
inductive Owes : (level : Nat) → List Symbol → Nesting → (count : Nat) → Prop where
  | nothing (level : Nat) : Owes level [] ⟨0, []⟩ 0
  | plain {level count : Nat} {symbol : Symbol} {symbols : List Symbol} {nesting : Nesting}
      (plain : symbol.isPlain = true) (owes : Owes level symbols nesting count) :
    Owes level (symbol :: symbols) nesting count
  | expect {level count : Nat} {terminal : Terminal} {symbols : List Symbol} {nesting : Nesting}
      (owes : Owes level symbols (nesting.past terminal.kind) (count + terminal.kind.commands)) :
    Owes level (.expect terminal :: symbols) nesting count
  | indent {level count : Nat} {symbols : List Symbol} {nesting : Nesting}
      (owes : Owes (level + 1) symbols nesting count) :
    Owes level (.indent :: symbols) nesting count
  | dedent {level count : Nat} {symbols : List Symbol} {nesting : Nesting}
      (owes : Owes (level - 1) symbols nesting count) :
    Owes level (.dedent :: symbols) nesting count
  | count {level count : Nat} {symbols : List Symbol} {nesting : Nesting}
      (owes : Owes level symbols nesting count) :
    Owes level (.countStatement :: symbols) nesting (count + 1)
  | noteBlock {level count : Nat} {symbols : List Symbol}
      (owes : Owes level symbols ⟨level, []⟩ count) :
    Owes level (.noteBlock :: symbols) ⟨level, [level]⟩ count
  | block {level count : Nat} {block : Block} {symbols : List Symbol}
      (owes : Owes level symbols ⟨level, []⟩ count) :
    Owes level (.phrase (.block block) :: symbols) ⟨level, [level]⟩ count
  | outline {level count : Nat} {phrase : Phrase} {symbols : List Symbol}
      (outline : phrase.isOutline = true) (owes : Owes level symbols ⟨level, []⟩ count) :
    Owes level (.phrase phrase :: symbols) ⟨level, []⟩ count
  | elseBranch {level count : Nat} {symbols : List Symbol} (deep : 0 < level)
      (owes : Owes level symbols ⟨level, []⟩ count) :
    Owes level (.phrase .elseBranch :: symbols) ⟨level, []⟩ count

/-- With the prediction followed this is owed: what was owed before, and what a token that is taken
adds to it. -/
def Prediction.Owes (level : Nat) (rest : List Symbol) (kind : Token.Kind) (nesting : Nesting)
    (count : Nat) : Prediction → Prop
  | .derive symbols => Offside.Owes level (symbols ++ rest) nesting count
  | .take symbols | .copy symbols =>
    Offside.Owes level (symbols ++ rest) (nesting.past kind) (count + kind.commands)
  | .refuse _ => True

/-- The symbols of the prediction have no part in the outline. -/
def Prediction.IsPlain (kind : Token.Kind) : Prediction → Prop
  | .derive symbols => symbols.all Symbol.isPlain = true
  | .take symbols | .copy symbols => symbols.all Symbol.isPlain = true ∧ kind.Neutral
  | .refuse _ => True

section

variable {level count : Nat} {symbols more rest : List Symbol} {nesting : Nesting}
  {kind : Token.Kind} {prediction : Prediction}

theorem Owes.settled (owes : Owes level [] nesting count) : nesting = ⟨0, []⟩ ∧ count = 0 := by
  cases owes
  exact ⟨rfl, rfl⟩

theorem Owes.append_plain (plain : symbols.all Symbol.isPlain = true)
    (owes : Owes level rest nesting count) : Owes level (symbols ++ rest) nesting count := by
  induction symbols with
  | nil => exact owes
  | cons symbol symbols ih =>
    obtain ⟨first, plain⟩ := Bool.and_eq_true_iff.1 plain
    exact .plain first (ih plain)

theorem Prediction.IsPlain.owes (plain : prediction.IsPlain kind)
    (owes : Offside.Owes level rest nesting count) :
    prediction.Owes level rest kind nesting count := by
  cases prediction with
  | derive symbols => exact owes.append_plain plain
  | take symbols | copy symbols =>
    obtain ⟨plain, neutral⟩ := plain
    rw [Prediction.Owes, neutral.past, neutral.commands]
    exact owes.append_plain plain
  | refuse fault => trivial

theorem Prediction.Owes.followedBy
    (owes : prediction.Owes level (more ++ rest) kind nesting count) :
    (prediction.followedBy more).Owes level rest kind nesting count := by
  cases prediction with
  | refuse fault => trivial
  | _ =>
    simp only [Prediction.followedBy, Prediction.Owes, List.append_assoc]
    exact owes

end

namespace Outlook

variable {level count : Nat} {rest : List Symbol}

theorem owes_lineEnd {nesting : Nesting} (owes : Owes level rest nesting count) :
    Owes level (lineEnd ++ rest) nesting count :=
  .expect <| .plain rfl owes

/-- The blocks of a statement are told one by one and have all been left where it ends. -/
theorem owes_statement (o : Outlook) (owes : Owes level rest ⟨level, []⟩ (count + 1)) :
    o.statement.Owes level rest o.current.kind ⟨level, []⟩ count := by
  unfold statement
  -- The keyword is ahead of its block by what is left of the line. Behind the line end the margin
  -- has caught up with the nesting, so the block is owed there at the depth that it is told with.
  split
  · next is =>
    rw [is]
    exact .plain rfl <| .plain rfl <| .plain rfl owes
  · next is =>
    rw [is]
    exact .plain rfl <| .plain rfl <| .plain rfl <| .expect <| owes_lineEnd <| .indent <|
      .block <| .elseBranch (Nat.succ_pos level) <| .dedent <| .expect owes
  · next is =>
    rw [is]
    exact .plain rfl <| .plain rfl <| .plain rfl <| .expect <| owes_lineEnd <| .indent <|
      .block <| .dedent <| .expect owes
  · next is =>
    rw [is]
    exact .plain rfl <| .plain rfl <| .plain rfl <| .plain rfl <| .plain rfl <| .plain rfl <|
      .plain rfl <| owes_lineEnd <| .plain rfl <| .indent <|
      .block <| .dedent <| .expect <| .plain rfl owes
  · next is =>
    rw [is]
    exact .plain rfl <| .plain rfl <| .plain rfl <| .plain rfl <| .plain rfl owes
  · next is =>
    rw [is]
    exact .plain rfl <| .plain rfl <| .plain rfl owes
  · next is =>
    split
    · rw [is]
      exact .plain rfl <| .plain rfl <| .plain rfl owes
    · trivial
  all_goals trivial

theorem owes_wholeStatement (o : Outlook) (owes : Owes level rest ⟨level, []⟩ count) :
    o.wholeStatement.Owes level rest o.current.kind ⟨level, []⟩ count :=
  .followedBy <| o.owes_statement <| .count <| owes_lineEnd owes

theorem owes_blockStatement (o : Outlook) (block : Block)
    (owes : Owes level rest ⟨level, []⟩ count) :
    (o.blockStatement block).Owes level rest o.current.kind ⟨level, []⟩ count := by
  unfold blockStatement
  split
  · trivial
  · exact .followedBy <| o.owes_wholeStatement <| .outline rfl owes

theorem owes_outline (o : Outlook) {phrase : Phrase} (outline : phrase.isOutline = true)
    (owes : Owes level rest ⟨level, []⟩ count) :
    (o.predict phrase).Owes level rest o.current.kind ⟨level, []⟩ count := by
  cases phrase with
  | statements =>
    simp only [predict]
    split
    · exact owes
    · exact .followedBy <| o.owes_wholeStatement <| .outline rfl owes
  | statement => exact o.owes_wholeStatement owes
  | blockBody block =>
    simp only [predict]
    split
    · exact .plain rfl owes
    · exact o.owes_blockStatement block owes
  | moreStatements block =>
    simp only [predict]
    split
    · exact owes
    · exact o.owes_blockStatement block owes
  | _ => cases outline

theorem owes_elseBranch (o : Outlook) (deep : 0 < level)
    (owes : Owes level rest ⟨level, []⟩ count) :
    (o.predict .elseBranch).Owes level rest o.current.kind ⟨level, []⟩ count := by
  simp only [predict]
  split
  · next is =>
    -- its first line stands at the margin of the line that it belongs to
    have back : Owes (level - 1 + 1) (lineEnd ++ .phrase (.block .alternative) :: rest)
        ⟨level, [level]⟩ count := by
      rw [Nat.sub_add_cancel deep]
      exact owes_lineEnd <| .block owes
    rw [is]
    exact .dedent <| .plain rfl <| .indent back
  · exact owes

/-- What stands within a line has no part in the outline, and neither have blank lines. -/
theorem isPlain_predict (o : Outlook) {phrase : Phrase}
    (plain : (Symbol.phrase phrase).isPlain = true) :
    (o.predict phrase).IsPlain o.current.kind := by
  cases phrase with
  | statements | statement | block | blockBody | moreStatements | elseBranch => cases plain
  | blankLines =>
    simp only [predict]
    split
    · next is =>
      rw [is]
      exact ⟨rfl, Token.Kind.neutral_newline⟩
    · rfl
  | rightSide | moreRightSides =>
    simp only [predict]
    split
    · next compares =>
      exact ⟨rfl, Token.Kind.neutral_of_isOperator (Token.Kind.isOperator_of_isComparison compares)⟩
    · first | rfl | trivial
  | moreTerms | factor =>
    simp only [predict]
    split
    · next signs =>
      exact ⟨rfl, Token.Kind.neutral_of_isOperator (Token.Kind.isOperator_of_isSign signs)⟩
    · rfl
  | moreFactors =>
    simp only [predict]
    split
    · next operates =>
      exact ⟨rfl, Token.Kind.neutral_of_isOperator
        (Token.Kind.isOperator_of_isFactorOperator operates)⟩
    · rfl
  | primary =>
    simp only [predict, operand]
    split
    · next is => exact ⟨rfl, Token.Kind.neutral_of_eq is rfl⟩
    · next is =>
      split
      · trivial
      · rfl
      · rfl
      · exact ⟨rfl, Token.Kind.neutral_of_eq is rfl⟩
    · trivial
  | conjunct =>
    simp only [predict]
    split
    · next is => exact ⟨rfl, Token.Kind.neutral_of_eq is rfl⟩
    · next is => exact ⟨rfl, Token.Kind.neutral_of_eq is rfl⟩
    · rfl
  | condition | conjunction | comparison | expression | term => rfl
  | _ =>
    simp only [predict]
    split
    · first
        | rfl
        | next is => exact ⟨rfl, Token.Kind.neutral_of_eq is rfl⟩
    · first | rfl | trivial

/-- Following a prediction changes what is owed by the token that is taken. -/
theorem owes_predict (o : Outlook) {phrase : Phrase} {nesting : Nesting}
    (owes : Owes level (.phrase phrase :: rest) nesting count) :
    (o.predict phrase).Owes level rest o.current.kind nesting count := by
  cases owes with
  | plain plain owes => exact (o.isPlain_predict plain).owes owes
  | block owes => exact .noteBlock <| .outline rfl owes
  | outline outline owes => exact o.owes_outline outline owes
  | elseBranch deep owes => exact o.owes_elseBranch deep owes

end Outlook

namespace Session

variable {s mid s' : Session} {symbol : Symbol} {symbols more rest : List Symbol}
  {taken leaves : List Leaf} {error : Error}

/-- The depths of the blocks that have been told. -/
def blocksTold (s : Session) : List Nat := s.log.toList.filterMap Event.block?

theorem blocksTold_of_step (h : s.step symbol = .proceed more s') :
    s'.blocksTold = s.blocksTold ++ (s.remarks symbol).filterMap Event.block? :=
  filterMap_log_of_step (fun _ => rfl) h

theorem statements_of_shift (h : s.shift = .done s') : s'.statements = s.statements :=
  (shift_done h).2.2.2.2.2

theorem statements_declare (s : Session) (name : String) (kind : NameKind) :
    (s.declare name kind).statements = s.statements := by
  unfold declare
  split
  · rfl
  · split <;> rfl

/-- Statements are counted where the symbols say so. -/
theorem statements_of_step (h : s.step symbol = .proceed more s') :
    s'.statements = s.statements + if symbol = .countStatement then 1 else 0 := by
  by_cases asks : s.asks symbol = true
  · obtain ⟨draft, mid, shifted, rfl⟩ := shift_of_asks_proceed asks h
    have same := statements_of_shift shifted
    cases symbol with
    | expect | phrase => exact same
    | declare => exact (statements_declare _ _ _).trans same
    | _ => cases asks
  · rcases derives_or_silent (Bool.eq_false_iff.2 asks) h with ⟨phrase, rfl, rfl⟩ | silent
    · rfl
    · cases symbol with
      | expect | declare | phrase => cases silent
      | _ =>
        cases h
        rfl

theorem Takes.depth {leaf : Leaf} {work : Work} (takes : s.Takes symbol leaf more work) :
    work.draft.depth = s.draft.depth := by
  cases takes with
  | copy predicted => exact s.draft.depth_write _
  | _ => rfl

theorem Takes.owes {leaf : Leaf} {work : Work} {level count : Nat} {nesting : Nesting}
    (takes : s.Takes symbol leaf more work) (owes : Owes level (symbol :: rest) nesting count) :
    Owes level (more ++ rest) (nesting.past leaf.kind) (count + leaf.kind.commands) := by
  cases takes with
  | expect met =>
    cases owes with
    | plain written owes =>
      have neutral := Token.Kind.neutral_of_isWritten written
      rw [Leaf.kind_fixed, neutral.past, neutral.commands]
      exact owes
    | expect owes => exact owes
  | @declare role met =>
    cases owes with
    | plain plain owes => cases role <;> exact owes.append_plain rfl
  | @take phrase _ predicted | @copy phrase _ predicted =>
    have follows := s.owes_predict owes
    rw [predicted] at follows
    rw [Token.leaf_kind]
    exact follows

theorem Takes.tells {leaf : Leaf} {work : Work} (takes : s.Takes symbol leaf more work) :
    (s.remarks symbol).filterMap Event.block? = [] ∧ symbol ≠ .countStatement := by
  cases takes with
  | declare met => exact ⟨Event.filterMap_block?_ofDeclaration, nofun⟩
  | _ => exact ⟨rfl, nofun⟩

/-- What a silent symbol tells is not owed any more. -/
theorem owes_of_silent {count : Nat} {nesting : Nesting} (silent : symbol.isSilent = true)
    (work : s'.work = symbol.effect s.target s.work)
    (owes : Owes s.draft.depth (symbol :: rest) nesting count) :
    ∃ blocks count', Owes s'.draft.depth rest ⟨nesting.depth, blocks⟩ count' ∧
      nesting.blocks = (s.remarks symbol).filterMap Event.block? ++ blocks ∧
      count = (if symbol = .countStatement then 1 else 0) + count' := by
  have depth : s'.draft.depth = (symbol.effect s.target s.work).draft.depth := by rw [← work]; rfl
  rw [depth]
  cases symbol with
  | expect terminal => cases silent
  | declare role => cases silent
  | phrase phrase => cases silent
  | indent =>
    cases owes with
    | plain plain => cases plain
    | indent owes => exact ⟨_, _, owes, rfl, (Nat.zero_add _).symm⟩
  | dedent =>
    cases owes with
    | plain plain => cases plain
    | dedent owes => exact ⟨_, _, owes, rfl, (Nat.zero_add _).symm⟩
  | countStatement =>
    cases owes with
    | plain plain => cases plain
    | count owes => exact ⟨_, _, owes, rfl, Nat.add_comm _ _⟩
  | noteBlock =>
    cases owes with
    | plain plain => cases plain
    | noteBlock owes => exact ⟨_, _, owes, rfl, (Nat.zero_add _).symm⟩
  | setInFunction | noteVariableCall =>
    cases owes with
    | plain plain owes => exact ⟨_, _, owes, rfl, (Nat.zero_add _).symm⟩
  | write | writeText =>
    cases owes with
    | plain plain owes =>
      rw [← s.draft.depth_write] at owes
      exact ⟨_, _, owes, rfl, (Nat.zero_add _).symm⟩
  | writeLine | endLine =>
    cases owes with
    | plain plain owes =>
      rw [← s.draft.depth_writeLine] at owes
      exact ⟨_, _, owes, rfl, (Nat.zero_add _).symm⟩

/-- A move changes what is owed by what it takes and by what it tells. -/
theorem Moves.owes {count : Nat} {nesting : Nesting} (moves : s.Moves symbol leaves more s')
    (owes : Owes s.draft.depth (symbol :: rest) nesting count) :
    ∃ nesting' count', Owes s'.draft.depth (more ++ rest) nesting' count' ∧
      nesting.behindAll leaves =
        ⟨nesting'.depth, (s.remarks symbol).filterMap Event.block? ++ nesting'.blocks⟩ ∧
      count + commandCount leaves = (if symbol = .countStatement then 1 else 0) + count' := by
  cases moves with
  | derive predicted =>
    have follows := s.owes_predict owes
    rw [predicted] at follows
    exact ⟨nesting, count, follows, rfl, by simp⟩
  | @take _ leaf _ _ takes advances scope =>
    have depth : s'.draft.depth = s.draft.depth := takes.depth
    rw [depth]
    obtain ⟨silent, uncounted⟩ := takes.tells
    refine ⟨_, _, takes.owes owes, ?_, ?_⟩
    · rw [silent]
      rfl
    · rw [commandCount_singleton, if_neg uncounted, Nat.zero_add]
  | perform silent stays work =>
    obtain ⟨blocks, count', owes', told, counted⟩ := owes_of_silent silent work owes
    refine ⟨⟨nesting.depth, blocks⟩, count', owes', ?_, counted⟩
    rw [← told]
    rfl

/-- What has been told and what is owed make up the outline of what has been taken. -/
def Accounts (taken : List Leaf) (s : Session) (symbols : List Symbol) : Prop :=
  ∃ nesting count, Owes s.draft.depth symbols nesting count ∧
    Nesting.behindAll ⟨0, []⟩ taken = ⟨nesting.depth, s.blocksTold ++ nesting.blocks⟩ ∧
    commandCount taken = s.statements + count

theorem Accounts.step (accounts : Accounts taken s (symbol :: rest))
    (h : s.step symbol = .proceed more s') (moves : s.Moves symbol leaves more s') :
    Accounts (taken ++ leaves) s' (more ++ rest) := by
  obtain ⟨nesting, count, owes, outline, counted⟩ := accounts
  obtain ⟨nesting', count', owes', outline', counted'⟩ := moves.owes owes
  refine ⟨nesting', count', owes', ?_, ?_⟩
  · rw [Nesting.behindAll_append, outline, Nesting.behindAll_told, outline', blocksTold_of_step h,
      List.append_assoc]
  · rw [commandCount_append, counted, Nat.add_assoc, counted', statements_of_step h, Nat.add_assoc]

/-- A run that ends has told the outline of what it has taken. -/
theorem Accounts.run_done (accounts : Accounts taken s symbols) (done : s.run symbols = .done s') :
    ∃ leaves, Reaches s symbols leaves s' [] ∧
      Nesting.behindAll ⟨0, []⟩ (taken ++ leaves) = ⟨0, s'.blocksTold⟩ ∧
      commandCount (taken ++ leaves) = s'.statements := by
  -- The account is kept with what was taken before, so that it can be handed on along the run.
  fun_induction run s symbols generalizing taken with
  | case1 s =>
    cases done
    obtain ⟨nesting, count, owes, outline, counted⟩ := accounts
    obtain ⟨rfl, rfl⟩ := owes.settled
    refine ⟨[], .here _ _, ?_, ?_⟩
    · rw [List.append_nil, outline, List.append_nil]
    · rw [List.append_nil]
      exact counted
  | case2 s symbol rest error s' moved => cases done
  | case3 s symbol rest more mid moved _ ih =>
    obtain ⟨leaves, moves⟩ := moves_of_step moved
    obtain ⟨leaves', reaches, outline, counted⟩ := ih (accounts.step moved moves) done
    rw [List.append_assoc] at outline counted
    exact ⟨leaves ++ leaves', .move moves reaches, outline, counted⟩

end Session

end Offside
