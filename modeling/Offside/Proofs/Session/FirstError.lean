import Offside.Proofs.Session.Viable

/-!
# Which of two errors is told

A source may be wrong in two ways at once: a word is faulty, and the words
before it are not those of a program. The lexer is one token ahead of the
grammar, because the window holds the token behind the one at hand. So a faulty
word is met when the token two places before it is taken. Whatever is taken
before that has been accepted, and a token that is refused by then is refused
for good: the faulty word is told of exactly if the words up to that token are
viable. The word right before the faulty one is never looked at.
-/

namespace Offside

variable {source : String} {width : Nat} {target : Target} {tokens : List Token} {error : Error}

theorem Viable.of_prefix {words words' : List Word} (viable : Viable width target words)
    (starts : words' <+: words) : Viable width target words' := by
  obtain ⟨source, code, tokens, compiled, read, starts'⟩ := viable
  exact ⟨source, code, tokens, compiled, read, starts.trans starts'⟩

theorem viable_nil (width : Nat) (target : Target) : Viable width target [] :=
  viable_of_program (.program 0 .noStatement) width target nofun trivial trivial List.nil_prefix

namespace Session

/-- A session cannot begin if one of the first two words is faulty. -/
theorem start_eq_error_iff (faulty : (Lexer.start source).readAll = (tokens, some error)) :
    (∃ log, start source width target = .error (error, log)) ↔ tokens.length ≤ 1 := by
  obtain ⟨mid, behind, delivers, answer⟩ := Lexer.delivers_of_readAll faulty
  unfold start
  match tokens, delivers with
  | [], delivers =>
    obtain rfl : Lexer.start source = mid := delivers
    rw [answer]
    exact ⟨fun _ => Nat.zero_le 1, fun _ => ⟨_, rfl⟩⟩
  | [first], ⟨place, next, _, delivers⟩ =>
    obtain rfl : place = mid := delivers
    rw [next]
    simp only [answer]
    exact ⟨fun _ => Nat.le_refl 1, fun _ => ⟨_, rfl⟩⟩
  | first :: second :: others, ⟨place, next, _, place', next', _, delivers⟩ =>
    rw [next]
    simp only [next']
    constructor
    · intro failed
      obtain ⟨log, failed⟩ := failed
      cases failed
    · intro short
      simp at short

/-- In a source with a faulty word, the token at hand has another behind it. -/
theorem At.dropLast_eq {s : Session} {lexer behind : Lexer} {front : List Token}
    (delivers : lexer.Delivers front behind) (at_ : s.At behind)
    (faulty : lexer.readAll = (tokens, some error)) :
    ∃ back, tokens.dropLast = front ++ s.current :: back := by
  have whole := Lexer.readAll_of_delivers delivers
  rw [faulty] at whole
  obtain ⟨same, same'⟩ := Prod.mk.inj whole
  obtain ⟨others, rest, more⟩ := at_.readAll_eq_cons
  have notLast : s.current.kind ≠ .endOfInput := by
    intro last
    rw [(at_.readAll_of_last last).1] at same'
    cases same'
  obtain ⟨further, rfl⟩ := more notLast
  refine ⟨(s.lookahead :: further).dropLast, ?_⟩
  rw [same, rest, List.dropLast_append_of_ne_nil (List.cons_ne_nil _ _)]
  rfl

end Session

/-- Compiling a source with a faulty word tells of that word after viable words, or of a token
before it that is not viable. -/
theorem error_of_faulty (faulty : (Lexer.start source).readAll = (tokens, some error))
    (width : Nat) (target : Target) :
    compileFor source width target = .error error ∧
        Viable width target (tokens.dropLast.map Token.word) ∨
      ∃ fault before token after, tokens.dropLast = before ++ token :: after ∧
        compileFor source width target = .error (.grammatical fault token.span) ∧
          ¬Viable width target ((before ++ [token]).map Token.word) := by
  cases compiled : compileFor source width target with
  | ok code =>
    obtain ⟨found, read, -⟩ := spells_of_compileFor compiled
    rw [Lexer.tokens_eq_ok_iff, faulty] at read
    cases read
  | error error' =>
    rcases eq_error_of_compileFor compiled with ⟨log, started⟩ | ⟨s, s', started, halted⟩
    · -- the session never began, so there is no token to be refused
      have failed := Session.start_eq_error started
      rw [faulty] at failed
      obtain rfl : error = error' := Option.some.inj failed
      have short := (Session.start_eq_error_iff faulty).1 ⟨log, started⟩
      have none : tokens.dropLast = [] := by
        rw [← List.length_eq_zero_iff, List.length_dropLast]
        omega
      rw [none]
      exact .inl ⟨rfl, viable_nil width target⟩
    · obtain ⟨at_, scope, inFunction, -, -⟩ := Session.start_eq_ok started
      obtain ⟨leaves, mid, symbol, rest, reaches, stepped⟩ :=
        Session.reaches_of_program_halted halted
      obtain ⟨front, behind, delivers, at_', same⟩ := reaches.place at_
      rcases Session.refuses_or_takes_of_step stepped with
        ⟨rfl, refuses, fault, rfl⟩ | ⟨leaf, more, work, takes, halts⟩
      · -- the token at hand was refused, and has another behind it before the faulty word
        obtain ⟨back, whole⟩ := at_'.dropLast_eq delivers faulty
        refine .inr ⟨fault, front, s'.current, back, whole, rfl, ?_⟩
        rw [List.map_append, same]
        exact reaches.not_viable refuses at_ scope inFunction width target
      · -- the token at hand was taken, and the faulty word was met in refilling the window
        have whole := Lexer.readAll_of_delivers delivers
        rw [faulty, halts behind at_'] at whole
        obtain ⟨rfl, failed⟩ := Prod.mk.inj whole
        obtain rfl : error = error' := Option.some.inj failed
        refine .inl ⟨rfl, ?_⟩
        rw [List.dropLast_append_of_ne_nil (List.cons_ne_nil _ _), List.map_append, same]
        exact reaches.viable_takes takes at_ scope inFunction width target

/-- A source with a faulty word is never compiled. The error is the one of that word exactly if the
words up to the last but one before it are viable, as they are if there is at most one word before
it and no session begins. If they are not viable, the error is one of the grammar, about one of
them. -/
theorem lexical_iff_viable (faulty : (Lexer.start source).readAll = (tokens, some error))
    (width : Nat) (target : Target) :
    (∃ told, compileFor source width target = .error told) ∧
      (compileFor source width target = .error error ↔
        Viable width target (tokens.dropLast.map Token.word)) ∧
      ((∃ log, Session.start source width target = .error (error, log)) ↔ tokens.length ≤ 1) ∧
      (¬Viable width target (tokens.dropLast.map Token.word) →
        ∃ fault, ∃ token ∈ tokens.dropLast,
          compileFor source width target = .error (.grammatical fault token.span)) := by
  refine ⟨?_, ?_, Session.start_eq_error_iff faulty, ?_⟩
  · rcases error_of_faulty faulty width target with ⟨told, -⟩ | ⟨_, _, _, _, -, told, -⟩
    · exact ⟨_, told⟩
    · exact ⟨_, told⟩
  · rcases error_of_faulty faulty width target with
      ⟨told, viable⟩ | ⟨fault, before, token, after, same, told, not⟩
    · exact ⟨fun _ => viable, fun _ => told⟩
    · constructor
      · intro told'
        obtain ⟨_, _, lexical⟩ := Lexer.lexical_of_readAll (congrArg Prod.snd faulty)
        rw [told', lexical] at told
        cases told
      · intro viable
        refine absurd (viable.of_prefix ?_) not
        rw [same]
        exact ((List.prefix_append_right_inj before).2 (List.prefix_append [token] after)).map _
  · intro not
    rcases error_of_faulty faulty width target with
      ⟨-, viable⟩ | ⟨fault, before, token, after, same, told, -⟩
    · exact absurd viable not
    · exact ⟨fault, token, by rw [same]; simp, told⟩

/-- The variable is two words before the faulty word, and is told of in its place. -/
theorem lexical_iff_viable_undeclared :
    compileFor "PRINT 1\nPRINT y+@" 4 .python = .error (.grammatical (.undeclared "y") ⟨14, 15⟩) ∧
      ¬Viable 4 .python [Word.fixed (.keyword .print), ⟨.number, "1"⟩, Word.fixed .newline,
        Word.fixed (.keyword .print), ⟨.identifier, "y"⟩] := by
  have read : (Lexer.start "PRINT 1\nPRINT y+@").readAll =
      ([⟨.keyword .print, "PRINT", ⟨0, 5⟩⟩, ⟨.number, "1", ⟨6, 7⟩⟩, ⟨.newline, "\n", ⟨7, 8⟩⟩,
        ⟨.keyword .print, "PRINT", ⟨8, 13⟩⟩, ⟨.identifier, "y", ⟨14, 15⟩⟩,
        ⟨.plus, "+", ⟨15, 16⟩⟩],
        some (.lexical (.unknown '@') ⟨16, 17⟩)) := by cbv
  have told : compileFor "PRINT 1\nPRINT y+@" 4 .python =
      .error (.grammatical (.undeclared "y") ⟨14, 15⟩) := by cbv
  refine ⟨told, fun viable => ?_⟩
  have lexical := (lexical_iff_viable read 4 .python).2.1.2 viable
  rw [told] at lexical
  cases lexical

end Offside
