import Offside.Session.Measure

/-!
# Running a session

A session runs until no symbols are left or an error is found. Running some symbols and then others
is running them all: nothing in a run depends on what is to come after the symbols that it deals
with, so what is shown of the symbols of a phrase holds wherever the phrase stands.
-/

namespace Offside.Session

/-- Deals with symbols until none is left or an error is found. -/
def run (s : Session) (symbols : List Symbol) : Outcome :=
  match symbols with
  | [] => .done s
  | symbol :: rest =>
    match moved : s.step symbol with
    | .halt error s' => .halted error s'
    | .proceed more s' =>
      have := lex_of_lowers rest (step_lowers moved)
      s'.run (more ++ rest)
termination_by (s.unread, stackWeight symbols)
decreasing_by exact this

theorem run_nil (s : Session) : s.run [] = .done s := by rw [run]

theorem run_cons_of_proceed {s s' : Session} {symbol : Symbol} {more : List Symbol}
    (h : s.step symbol = .proceed more s') (rest : List Symbol) :
    s.run (symbol :: rest) = s'.run (more ++ rest) := by
  rw [run]
  split
  · next halted => rw [h] at halted; cases halted
  · next moved => rw [h] at moved; cases moved; rfl

theorem run_cons_of_halt {s s' : Session} {symbol : Symbol} {error : Error}
    (h : s.step symbol = .halt error s') (rest : List Symbol) :
    s.run (symbol :: rest) = .halted error s' := by
  rw [run]
  split
  · next halted => rw [h] at halted; cases halted; rfl
  · next moved => rw [h] at moved; cases moved

/-- Symbols are dealt with one after the other: what the first of them leave behind is what the
others begin with, and an error among the first ends the run. -/
theorem run_append (s : Session) (left right : List Symbol) :
    s.run (left ++ right) = match s.run left with
      | .done s' => s'.run right
      | .halted error s' => .halted error s' := by
  fun_induction run s left with
  | case1 s => rfl
  | case2 s symbol rest error s' moved => exact run_cons_of_halt moved _
  | case3 s symbol rest more s' moved _ ih =>
    rw [List.cons_append, run_cons_of_proceed moved, ← List.append_assoc]
    exact ih

end Offside.Session
