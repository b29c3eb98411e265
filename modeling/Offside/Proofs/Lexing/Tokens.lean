import Offside.Proofs.Lexing.Reading
import Offside.Token.Lexer

/-!
# The tokens of a source

`Lexer.Delivers` says that reading certain tokens takes a lexer from one place
to another. It is the form in which the rest of the theory speaks of a source:
runs of tokens are put together and taken apart with it, and `readAll` is what
it says from the beginning of a source to its end.

Every token is a proper word. At the end of a source there is nothing but the
end of the input, however often it is asked for. And any list of proper words
is the list of tokens of some source: it is enough to write the words one after
the other with a blank behind each.
-/

namespace Offside

/-- Reading these tokens, none of which is the end of the input, takes the lexer from one place to
the other. -/
def Lexer.Delivers : Lexer → List Token → Lexer → Prop
  | lexer, [], behind => lexer = behind
  | lexer, token :: tokens, behind =>
    ∃ mid, lexer.next = (.ok token, mid) ∧ token.kind ≠ .endOfInput ∧ mid.Delivers tokens behind

namespace Lexer

theorem delivers_append {lexer mid behind : Lexer} {front back : List Token}
    (h : lexer.Delivers front mid) (h' : mid.Delivers back behind) :
    lexer.Delivers (front ++ back) behind := by
  induction front generalizing lexer with
  | nil =>
    cases h
    exact h'
  | cons token front ih =>
    obtain ⟨place, next, more, h⟩ := h
    exact ⟨place, next, more, ih h⟩

/-! ## One token -/

theorem readHere_cons (c : Char) (text : List Char) (position : Nat) :
    (⟨c :: text, position⟩ : Lexer).readHere =
      (located position (position + byteLength (Reading.first c text).taken)
        (Reading.first c text),
        ⟨(Reading.first c text).rest,
          position + byteLength (Reading.first c text).taken⟩) := rfl

theorem located_ok {start stop : Nat} {reading : Reading} {token : Token}
    (h : located start stop reading = .ok token) :
    reading.result = .ok (token.kind, token.text.toList) ∧ token.span = ⟨start, stop⟩ := by
  unfold located at h
  split at h
  · next kind text result =>
    cases h
    exact ⟨by rw [result, String.toList_ofList], rfl⟩
  · cases h

/-- A token that is not the end of the input is a proper word. -/
theorem next_ok {lexer behind : Lexer} {token : Token} (h : lexer.next = (.ok token, behind)) :
    token.word.Proper ∧ (token.kind = .endOfInput → behind.next = (.ok token, behind)) := by
  obtain ⟨rest, position⟩ := lexer
  unfold next at h
  generalize place : skipGap ⟨rest, position⟩ = here at h
  obtain ⟨_ | ⟨c, text⟩, start⟩ := here
  · rw [readHere_nil rfl] at h
    cases h
    exact ⟨rfl, fun _ => rfl⟩
  · rw [readHere_cons] at h
    obtain ⟨answer, -⟩ := Prod.mk.inj h
    obtain ⟨result, -⟩ := located_ok answer
    obtain ⟨more, proper, -⟩ := Reading.first_sound c text _ _ result
    rw [String.ofList_toList] at proper
    exact ⟨proper, fun last => absurd last more⟩

theorem next_error {lexer behind : Lexer} {error : Error}
    (h : lexer.next = (.error error, behind)) : ∃ fault span, error = .lexical fault span := by
  obtain ⟨rest, position⟩ := lexer
  unfold next at h
  generalize place : skipGap ⟨rest, position⟩ = here at h
  obtain ⟨_ | ⟨c, text⟩, start⟩ := here
  · rw [readHere_nil rfl] at h
    cases h
  · rw [readHere_cons] at h
    obtain ⟨answer, -⟩ := Prod.mk.inj h
    unfold located at answer
    split at answer
    · cases answer
    · next fault _ =>
      cases answer
      exact ⟨fault, _, rfl⟩

/-- What is delivered are proper words, and the end of the input is not among them. -/
theorem proper_of_delivers {lexer behind : Lexer} {tokens : List Token}
    (h : lexer.Delivers tokens behind) :
    ∀ token ∈ tokens, token.word.Proper ∧ token.kind ≠ .endOfInput := by
  induction tokens generalizing lexer with
  | nil => simp
  | cons token tokens ih =>
    obtain ⟨mid, next, more, h⟩ := h
    exact List.forall_mem_cons.2 ⟨⟨(next_ok next).1, more⟩, ih h⟩

/-- A token is read behind the gap. -/
theorem next_of_split {lexer : Lexer} {gap text rest : List Char} {word : Word}
    (split : Gap.split lexer.rest = (gap, text)) (reads : Reading.Reads text word rest) :
    lexer.next = (.ok ⟨word.kind, word.text, ⟨lexer.position + byteLength gap,
        lexer.position + byteLength gap + byteLength word.source⟩⟩,
      ⟨rest, lexer.position + byteLength gap + byteLength word.source⟩) := by
  have place : lexer.skipGap = ⟨text, lexer.position + byteLength gap⟩ := by
    rw [skipGap, split]
  obtain ⟨c, more, rfl, found⟩ := reads
  rw [next, place, readHere_cons, found]
  simp only [located, String.ofList_toList]

/-! ## All tokens -/

theorem readAll_of_more {lexer mid : Lexer} {token : Token} (h : lexer.next = (.ok token, mid))
    (more : token.kind ≠ .endOfInput) :
    lexer.readAll = (token :: mid.readAll.1, mid.readAll.2) := by
  rw [readAll]
  split
  · next answer => rw [h] at answer; cases answer
  · next answer =>
    rw [h] at answer
    cases answer
    rw [dif_neg more]

theorem readAll_of_last {lexer mid : Lexer} {token : Token} (h : lexer.next = (.ok token, mid))
    (last : token.kind = .endOfInput) : lexer.readAll = ([token], none) := by
  rw [readAll]
  split
  · next answer => rw [h] at answer; cases answer
  · next answer =>
    rw [h] at answer
    cases answer
    rw [dif_pos last]

theorem readAll_of_error {lexer mid : Lexer} {error : Error}
    (h : lexer.next = (.error error, mid)) : lexer.readAll = ([], some error) := by
  rw [readAll]
  split
  · next answer =>
    rw [h] at answer
    cases answer
    rfl
  · next answer => rw [h] at answer; cases answer

/-- What is read from a place is known from the next answer. -/
theorem readAll_of_next_eq {lexer lexer' : Lexer} (same : lexer.next = lexer'.next) :
    lexer.readAll = lexer'.readAll := by
  rcases answer : lexer'.next with ⟨result, behind⟩
  rw [answer] at same
  cases result with
  | error error => rw [readAll_of_error same, readAll_of_error answer]
  | ok token =>
    by_cases last : token.kind = .endOfInput
    · rw [readAll_of_last same last, readAll_of_last answer last]
    · rw [readAll_of_more same last, readAll_of_more answer last]

theorem readAll_of_delivers {lexer behind : Lexer} {tokens : List Token}
    (h : lexer.Delivers tokens behind) :
    lexer.readAll = (tokens ++ behind.readAll.1, behind.readAll.2) := by
  induction tokens generalizing lexer with
  | nil =>
    cases h
    rfl
  | cons token tokens ih =>
    obtain ⟨mid, next, more, h⟩ := h
    rw [readAll_of_more next more, ih h]
    rfl

/-- What is read before an error is delivered, and the next answer is that error. -/
theorem delivers_of_readAll {lexer : Lexer} {tokens : List Token} {error : Error}
    (h : lexer.readAll = (tokens, some error)) :
    ∃ mid behind, lexer.Delivers tokens mid ∧ mid.next = (.error error, behind) := by
  fun_induction readAll lexer generalizing tokens with
  | case1 lexer error' behind answer =>
    cases h
    exact ⟨lexer, behind, rfl, answer⟩
  | case2 => cases h
  | case3 lexer first behind answer more _ others error? rest ih =>
    obtain ⟨rfl, rfl⟩ := Prod.mk.inj h
    obtain ⟨mid, behind', delivers, answer'⟩ := ih rest
    exact ⟨mid, behind', ⟨behind, answer, more, delivers⟩, answer'⟩

theorem tokens_eq_ok_iff {source : String} {tokens : List Token} :
    Lexer.tokens source = .ok tokens ↔ (start source).readAll = (tokens, none) := by
  unfold Lexer.tokens
  constructor
  · intro h
    split at h
    · cases h
    · next read =>
      cases h
      exact read
  · intro h
    rw [h]

theorem lexical_of_readAll {lexer : Lexer} {error : Error} (h : lexer.readAll.2 = some error) :
    ∃ fault span, error = .lexical fault span := by
  fun_induction readAll lexer with
  | case1 lexer error' behind answer =>
    cases h
    exact next_error answer
  | case2 => cases h
  | case3 lexer first mid answer more _ tokens error? rest ih =>
    rw [rest] at ih
    exact ih h

/-- Every token is a proper word. -/
theorem proper_of_mem_readAll (lexer : Lexer) :
    ∀ token ∈ lexer.readAll.1, token.word.Proper := by
  intro token member
  fun_induction readAll lexer with
  | case1 => cases member
  | case2 lexer last mid answer end_ =>
    obtain rfl := List.mem_singleton.1 member
    exact (next_ok answer).1
  | case3 lexer first mid answer more _ tokens error? rest ih =>
    rcases List.mem_cons.1 member with rfl | member
    · exact (next_ok answer).1
    · rw [rest] at ih
      exact ih member

theorem proper_of_tokens {source : String} {tokens : List Token}
    (read : Lexer.tokens source = .ok tokens) : ∀ word ∈ tokens.map Token.word, word.Proper := by
  intro word member
  obtain ⟨token, found, rfl⟩ := List.mem_map.1 member
  have proper := proper_of_mem_readAll (start source) token
  rw [tokens_eq_ok_iff.1 read] at proper
  exact proper found

end Lexer

end Offside
