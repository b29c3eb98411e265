import Offside.Token.Gap
import Offside.Token.Reading
import Offside.Error

/-!
# Delivering tokens

A lexer is a place in a source: what is still to be read, and how many bytes lie before it. It reads
the source as if one more `\n` followed, so that the last line is always closed, and delivers one
token at a time. A fault does not wear it out: it stays where reading stopped and can be asked
again. At the end it delivers the end of input as often as it is asked.
-/

namespace Offside

/-- A place in a source. -/
structure Lexer where
  /-- The characters that are still to be read. -/
  rest : List Char
  /-- The number of bytes before them. -/
  position : Nat
deriving Repr, DecidableEq

namespace Lexer

/-- The beginning of a source, which is closed by one more line end. -/
def start (source : String) : Lexer := ⟨source.toList ++ ['\n'], 0⟩

/-- The bytes to blame for a fault that was found between `start` and `stop`: the illegal character
behind them, or all of them. -/
def blame (start stop : Nat) : LexicalFault → Span
  | .illegalInString c => ⟨stop, stop + c.utf8Size⟩
  | _ => ⟨start, stop⟩

/-- The token or error that a reading stands for if it takes the bytes from `start` to `stop`. -/
def located (start stop : Nat) (reading : Reading) : Except Error Token :=
  match reading.result with
  | .ok (kind, word) => .ok ⟨kind, String.ofList word, ⟨start, stop⟩⟩
  | .error fault => .error (.lexical fault (blame start stop fault))

/-- The place behind the gap at the front. -/
def skipGap (lexer : Lexer) : Lexer :=
  let (gap, rest) := Gap.split lexer.rest
  ⟨rest, lexer.position + byteLength gap⟩

/-- The token or error that begins right here, and the place behind it. -/
def readHere (lexer : Lexer) : Except Error Token × Lexer :=
  let start := lexer.position
  match lexer.rest with
  | [] => (.ok ⟨.endOfInput, "", ⟨start, start⟩⟩, lexer)
  | c :: text =>
    let reading := Reading.first c text
    let stop := start + byteLength reading.taken
    (located start stop reading, ⟨reading.rest, stop⟩)

/-- The next token or error, and the place behind it. -/
def next (lexer : Lexer) : Except Error Token × Lexer := lexer.skipGap.readHere

/-! ## Progress -/

theorem length_skipGap_le (lexer : Lexer) : lexer.skipGap.rest.length ≤ lexer.rest.length := by
  have whole := congrArg List.length (Gap.split_append lexer.rest)
  rw [List.length_append] at whole
  exact Nat.le_of_add_left_le (Nat.le_of_eq whole)

theorem length_readHere_lt {lexer : Lexer} (h : lexer.rest ≠ []) :
    lexer.readHere.2.rest.length < lexer.rest.length := by
  obtain ⟨_ | ⟨c, text⟩, position⟩ := lexer
  · exact absurd rfl h
  · have ⟨whole, taken⟩ := Reading.first_splits c text
    have whole := congrArg List.length whole
    have taken := List.length_pos_iff.2 taken
    rw [List.length_append] at whole
    show (Reading.first c text).rest.length < (c :: text).length
    omega

theorem readHere_nil {lexer : Lexer} (h : lexer.rest = []) :
    lexer.readHere = (.ok ⟨.endOfInput, "", ⟨lexer.position, lexer.position⟩⟩, lexer) := by
  unfold readHere
  rw [h]

/-- Reading never gives characters back. -/
theorem length_next_le (lexer : Lexer) : lexer.next.2.rest.length ≤ lexer.rest.length := by
  refine Nat.le_trans ?_ lexer.length_skipGap_le
  by_cases h : lexer.skipGap.rest = []
  · exact Nat.le_of_eq (by rw [next, readHere_nil h])
  · exact Nat.le_of_lt (length_readHere_lt h)

/-- Every answer but the end of input is paid for with a character. -/
theorem length_next_lt {lexer : Lexer}
    (h : ∀ token, lexer.next.1 = .ok token → token.kind ≠ .endOfInput) :
    lexer.next.2.rest.length < lexer.rest.length := by
  refine Nat.lt_of_lt_of_le (length_readHere_lt fun rest => ?_) lexer.length_skipGap_le
  rw [next, readHere_nil rest] at h
  exact h _ rfl rfl

theorem length_next_lt_of_ok {lexer behind : Lexer} {token : Token}
    (answer : lexer.next = (.ok token, behind)) (more : token.kind ≠ .endOfInput) :
    behind.rest.length < lexer.rest.length := by
  have progress := @length_next_lt lexer
  rw [answer] at progress
  exact progress fun _ same => by cases same; exact more

/-! ## All tokens -/

/-- The tokens up to the end of input, and the error that kept the lexer from reaching it. -/
def readAll (lexer : Lexer) : List Token × Option Error :=
  match answer : lexer.next with
  | (.error error, _) => ([], some error)
  | (.ok token, behind) =>
    if last : token.kind = .endOfInput then ([token], none)
    else
      have : behind.rest.length < lexer.rest.length := length_next_lt_of_ok answer last
      let (tokens, error?) := behind.readAll
      (token :: tokens, error?)
termination_by lexer.rest.length

/-- The tokens of a source, if none of its words is faulty. -/
def tokens (source : String) : Except Error (List Token) :=
  match (start source).readAll with
  | (_, some error) => .error error
  | (tokens, none) => .ok tokens

end Lexer

end Offside
