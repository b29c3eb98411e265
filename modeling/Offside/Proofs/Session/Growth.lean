import Offside.Proofs.Session.Calls

/-!
# What a run adds to a draft

A run only adds to the body of its draft. Whether it leaves the last line ended
can be read off the symbols that are still to come: some of them end a line,
some leave one open, and a phrase does what the symbols do that it may stand
for. `Symbol.ends` is on the safe side where that depends on the source. So a
statement, which ends in a line or in a block, ends its last line, also where
it began in the middle of one.
-/

namespace Offside

/-! ## Drafts -/

namespace Draft

variable {body : String} {allowed : Prop} {draft : Draft}

/-- The body of the draft begins with this text. -/
def Extends (body : String) (draft : Draft) : Prop := ∃ added, draft.body = body ++ added

/-- What the body of the draft has behind this text are whole lines: at least one, or none at all if
that is allowed. -/
def Lined (body : String) (allowed : Prop) (draft : Draft) : Prop :=
  draft.lineOpen = false ∧
    (allowed ∧ draft.body = body ∨ ∃ added, draft.body = body ++ added ++ "\n")

theorem Extends.refl (draft : Draft) : Extends draft.body draft :=
  ⟨"", String.append_empty.symm⟩

theorem Extends.write (extends_ : Extends body draft) (piece : String) :
    Extends body (draft.write piece) := by
  obtain ⟨added, same⟩ := extends_
  unfold Draft.write
  split
  · exact ⟨added ++ piece, by simp only [same, String.append_assoc]⟩
  · exact ⟨added ++ draft.margin ++ piece, by simp only [same, String.append_assoc]⟩

theorem Extends.writeLine (extends_ : Extends body draft) (piece : String) :
    Extends body (draft.writeLine piece) := by
  obtain ⟨added, same⟩ := extends_.write piece
  refine ⟨added ++ "\n", ?_⟩
  show (draft.write piece).body ++ "\n" = _
  rw [same, String.append_assoc]

theorem Extends.lined (extends_ : Extends body draft) (piece : String) :
    Lined body allowed (draft.writeLine piece) := by
  obtain ⟨added, same⟩ := extends_.write piece
  refine ⟨rfl, .inr ⟨added, ?_⟩⟩
  show (draft.write piece).body ++ "\n" = _
  rw [same]

theorem Lined.extends (lined : Lined body allowed draft) : Extends body draft := by
  obtain ⟨-, ⟨-, same⟩ | ⟨added, same⟩⟩ := lined
  · exact ⟨"", same.trans String.append_empty.symm⟩
  · exact ⟨added ++ "\n", same.trans String.append_assoc⟩

end Draft

/-! ## Symbols -/

/-- Whether the line is surely ended behind a phrase, if this tells whether it is before. -/
def Phrase.ends : Phrase → Bool → Bool
  | .block _, _ | .blockBody _, _ | .statement, _ => true
  | .blankLines, ended | .statements, ended | .moreStatements _, ended
  | .elseBranch, ended => ended
  | _, _ => false

/-- Whether the line is surely ended behind a symbol. -/
def Symbol.ends : Symbol → Bool → Bool
  | .phrase p, ended => p.ends ended
  | .writeLine _, _ | .endLine, _ => true
  | .write _, _ | .writeText _, _ | .declare _, _ => false
  | _, ended => ended

/-- Whether the line is surely ended behind symbols. -/
def endsBehind (ended : Bool) (symbols : List Symbol) : Bool :=
  symbols.foldl (fun ended symbol => symbol.ends ended) ended

section

variable {symbol : Symbol} {symbols more : List Symbol} {ended : Bool}

@[simp] theorem endsBehind_nil (ended : Bool) : endsBehind ended [] = ended := rfl

@[simp] theorem endsBehind_cons (ended : Bool) (symbol : Symbol) (symbols : List Symbol) :
    endsBehind ended (symbol :: symbols) = endsBehind (symbol.ends ended) symbols := rfl

theorem endsBehind_append (ended : Bool) (symbols more : List Symbol) :
    endsBehind ended (symbols ++ more) = endsBehind (endsBehind ended symbols) more :=
  List.foldl_append

theorem Symbol.ends_mono (symbol : Symbol) {ended ended' : Bool} (le : ended ≤ ended') :
    symbol.ends ended ≤ symbol.ends ended' := by
  cases symbol with
  | phrase phrase => cases phrase <;> first | exact le | exact Bool.le_refl _
  | _ => first | exact le | exact Bool.le_refl _

/-- A line that is ended before the symbols does not spoil anything behind them. -/
theorem endsBehind_mono (symbols : List Symbol) {ended ended' : Bool} (le : ended ≤ ended') :
    endsBehind ended symbols ≤ endsBehind ended' symbols := by
  induction symbols generalizing ended ended' with
  | nil => exact le
  | cons symbol symbols ih => exact ih (symbol.ends_mono le)

/-- Symbols that end as much as is expected may take the place of others. -/
theorem endsBehind_replace {expected : Bool} (le : expected ≤ endsBehind ended more)
    (ends : endsBehind expected symbols = true) : endsBehind ended (more ++ symbols) = true := by
  rw [endsBehind_append]
  exact endsBehind_mono symbols le ends

end

/-- What a prediction puts in the place of a phrase ends the line if this is to be expected. A token
that is written leaves the line open. -/
def Prediction.Ends (expected ended : Bool) : Prediction → Prop
  | .derive symbols | .take symbols => expected ≤ endsBehind ended symbols
  | .copy symbols => expected ≤ endsBehind false symbols
  | .refuse _ => True

section

variable {expected expected' ended : Bool} {prediction : Prediction}

theorem Prediction.Ends.mono (ends : prediction.Ends expected ended) (le : expected' ≤ expected) :
    prediction.Ends expected' ended := by
  cases prediction with
  | refuse fault => trivial
  | _ => exact Bool.le_trans le ends

/-- Nothing has to end if nothing is expected to. -/
theorem Prediction.ends_false (prediction : Prediction) (ended : Bool) :
    prediction.Ends false ended := by
  cases prediction with
  | refuse fault => trivial
  | _ => exact Bool.false_le _

theorem Prediction.Ends.followedBy
    (ends : prediction.Ends expected ended) (more : List Symbol) :
    (prediction.followedBy more).Ends (endsBehind expected more) ended := by
  cases prediction with
  | refuse fault => trivial
  | _ =>
    show _ ≤ endsBehind _ (_ ++ more)
    rw [endsBehind_append]
    exact endsBehind_mono more ends

end

namespace Outlook

theorem ends_wholeStatement (o : Outlook) (ended : Bool) :
    o.wholeStatement.Ends true ended := by
  have statement : o.statement.Ends true ended := by
    unfold statement
    split <;> (try split) <;>
      simp [Prediction.Ends, Symbol.ends, Phrase.ends, lineEnd]
  exact statement.followedBy _

theorem ends_blockStatement (o : Outlook) (block : Block) (ended : Bool) :
    (o.blockStatement block).Ends true ended := by
  unfold blockStatement
  split
  · trivial
  · exact (o.ends_wholeStatement ended).followedBy _

theorem ends_predict (o : Outlook) (phrase : Phrase) (ended : Bool) :
    (o.predict phrase).Ends (phrase.ends ended) ended := by
  cases phrase with
  | statement => exact o.ends_wholeStatement ended
  | statements =>
    simp only [predict]
    split
    · exact Bool.le_refl _
    · exact ((o.ends_wholeStatement ended).followedBy _).mono (Bool.le_true _)
  | blockBody block =>
    simp only [predict]
    split
    · exact Bool.le_refl _
    · exact o.ends_blockStatement block ended
  | moreStatements block =>
    simp only [predict]
    split
    · exact Bool.le_refl _
    · exact (o.ends_blockStatement block ended).mono (Bool.le_true _)
  | block => exact Bool.le_refl _
  | blankLines =>
    simp only [predict]
    split <;> exact Bool.le_refl _
  | elseBranch =>
    simp only [predict]
    split
    · exact Bool.le_true _
    · exact Bool.le_refl _
  | _ => exact Prediction.ends_false _ _

end Outlook

/-- The draft has only got longer since it held this text, and with the symbols to come all lines
that it has got will be ended. -/
def Draft.Grows (body : String) (allowed : Prop) (draft : Draft) (symbols : List Symbol) : Prop :=
  draft.Extends body ∧ ∃ ended, (ended = true → draft.Lined body allowed) ∧
    endsBehind ended symbols = true

namespace Session

variable {s s' : Session} {symbol : Symbol} {symbols symbols' more rest : List Symbol}
  {leaf : Leaf} {leaves : List Leaf} {work : Work} {body : String} {allowed : Prop}

theorem Takes.grows (takes : s.Takes symbol leaf more work)
    (grows : s.draft.Grows body allowed (symbol :: rest)) :
    work.draft.Grows body allowed (more ++ rest) := by
  obtain ⟨longer, ended, lined, ends⟩ := grows
  cases takes with
  | expect met => exact ⟨longer, ended, lined, ends⟩
  | @declare role met =>
    exact ⟨longer, ended, lined, endsBehind_replace (Bool.false_le _) ends⟩
  | @take phrase _ predicted =>
    have expected := s.ends_predict phrase ended
    rw [predicted] at expected
    exact ⟨longer, ended, lined, endsBehind_replace expected ends⟩
  | @copy phrase _ predicted =>
    have expected := s.ends_predict phrase ended
    rw [predicted] at expected
    exact ⟨longer.write _, false, nofun, endsBehind_replace expected ends⟩

theorem grows_effect (target : Target) (silent : symbol.isSilent = true)
    (grows : work.draft.Grows body allowed (symbol :: rest)) :
    (symbol.effect target work).draft.Grows body allowed rest := by
  obtain ⟨longer, ended, lined, ends⟩ := grows
  cases symbol with
  | expect terminal => cases silent
  | declare role => cases silent
  | phrase phrase => cases silent
  | write | writeText => exact ⟨longer.write _, false, nofun, ends⟩
  | writeLine | endLine => exact ⟨longer.writeLine _, true, fun _ => longer.lined _, ends⟩
  | _ => exact ⟨longer, ended, lined, ends⟩

theorem Moves.grows (moves : s.Moves symbol leaves more s')
    (grows : s.draft.Grows body allowed (symbol :: rest)) :
    s'.draft.Grows body allowed (more ++ rest) := by
  cases moves with
  | @derive phrase _ predicted =>
    obtain ⟨longer, ended, lined, ends⟩ := grows
    have expected := s.ends_predict phrase ended
    rw [predicted] at expected
    exact ⟨longer, ended, lined, endsBehind_replace expected ends⟩
  | take takes advances scope => exact takes.grows grows
  | perform silent stays work =>
    have grows' : (symbol.effect s.target s.work).draft.Grows body allowed rest :=
      grows_effect s.target silent grows
    rw [← work] at grows'
    exact grows'

theorem Reaches.grows (reaches : Reaches s symbols leaves s' symbols')
    (grows : s.draft.Grows body allowed symbols) : s'.draft.Grows body allowed symbols' := by
  induction reaches with
  | here s symbols => exact grows
  | move moves reaches ih => exact ih (moves.grows grows)

/-- A run that ends has ended the lines that its symbols are to end. -/
theorem lined_of_run_done (done : s.run symbols = .done s')
    (grows : s.draft.Grows body allowed symbols) : s'.draft.Lined body allowed := by
  obtain ⟨leaves, reaches⟩ := reaches_of_run_done done
  obtain ⟨-, ended, lined, ends⟩ := reaches.grows grows
  exact lined ends

/-- A statement that ends has added a line, or more than one, and has ended the last of them. -/
theorem lined_of_statement (done : s.run [.phrase .statement] = .done s') :
    s'.draft.Lined s.draft.body False :=
  lined_of_run_done done ⟨.refl _, false, nofun, rfl⟩

end Session

end Offside
