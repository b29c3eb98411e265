import Offside.Proofs.Lexing.Progress
import Offside.Proofs.Session.Viable

/-!
# An error is about an answer of the lexer

Whatever is wrong with a source, it is found in one of the answers of its lexer:
the answer is the error itself, or a token that is refused. So the place of an
error is the place of that answer.
-/

namespace Offside

variable {source : String} {width : Nat} {target : Target} {lexer : Lexer} {error : Error}

/-- The answer is this error, or the error refuses the token that is the answer. -/
inductive Error.Answers (error : Error) : Except Error Token → Prop where
  | faulty {fault : LexicalFault} {span : Span} (same : error = .lexical fault span) :
    error.Answers (.error error)
  | refused {fault : GrammarFault} {token : Token} (same : error = .grammatical fault token.span) :
    error.Answers (.ok token)

theorem Error.Answers.span {answer : Except Error Token} (answers : error.Answers answer) :
    Lexer.spanOf answer = error.span? := by
  cases answers with
  | faulty same => rfl
  | refused same =>
    rw [same]
    rfl

/-- An error of the source is a diagnostic. -/
theorem Error.Answers.exists_diagnostic {answer : Except Error Token}
    (answers : error.Answers answer) :
    ∃ d, error.diagnostic? = some d := by
  cases answers with
  | faulty same =>
    rw [same]
    exact ⟨_, rfl⟩
  | refused same =>
    rw [same]
    exact ⟨_, rfl⟩

/-- The faulty word is the answer to a call. -/
theorem answers_of_readAll (passed : Nat) (within : lexer = Lexer.after source passed)
    (read : lexer.readAll.2 = some error) :
    ∃ count, error.Answers (Lexer.after source count).next.1 := by
  subst within
  obtain ⟨fault, span, same⟩ := Lexer.lexical_of_readAll read
  cases whole : (Lexer.after source passed).readAll with
  | mk tokens error? =>
    rw [whole] at read
    obtain rfl : error? = some error := read
    obtain ⟨mid, behind, delivers, answer⟩ := Lexer.delivers_of_readAll whole
    obtain ⟨rfl, -⟩ := Lexer.after_of_delivers passed delivers
    refine ⟨passed + tokens.length, ?_⟩
    rw [answer]
    exact .faulty same

theorem answers_of_compileFor (failed : compileFor source width target = .error error) :
    ∃ count, error.Answers (Lexer.after source count).next.1 := by
  rcases eq_error_of_compileFor failed with ⟨log, started⟩ | ⟨s, s', started, halted⟩
  · exact answers_of_readAll 0 rfl (Session.start_eq_error started)
  · obtain ⟨at_, -⟩ := Session.start_eq_ok started
    obtain ⟨leaves, mid, symbol, rest, reaches, stepped⟩ :=
      Session.reaches_of_program_halted halted
    obtain ⟨front, behind, delivers, at_', -⟩ := reaches.place at_
    have first : (Lexer.after source 0).Delivers front behind := delivers
    obtain ⟨place, -⟩ := Lexer.after_of_delivers 0 first
    rcases Session.refuses_or_takes_of_step stepped with
      ⟨rfl, -, fault, same⟩ | ⟨leaf, more, work, -, halts⟩
    · obtain ⟨behind', answer, -⟩ := at_'
      refine ⟨0 + front.length, ?_⟩
      rw [← place, answer]
      exact .refused same
    · exact answers_of_readAll _ place (by rw [halts behind at_'])

end Offside
