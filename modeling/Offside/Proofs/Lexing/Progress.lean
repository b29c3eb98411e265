import Offside.Proofs.Lexing.Longest

/-!
# A lexer makes progress

A lexer can be called any number of times, behind errors and behind the end of
the input. Wherever it comes to, it stands between two characters of its source
or behind the line end that is read past the source, and as long as it does not
stand there each call takes it further. The line end is what it passes last, and
it passes it as a token of its own: no gap holds a line end, and no word or
faulty word but the line end itself does. So the end of the input is delivered
exactly where everything has been read, which is after at most as many calls as
the source has bytes, and one more.
-/

namespace Offside

/-- The bytes of a source are the bytes of its characters. -/
theorem byteLength_toList (source : String) : byteLength source.toList = source.utf8ByteSize := by
  obtain ⟨text, rfl⟩ : ∃ text, source = String.ofList text :=
    ⟨source.toList, String.ofList_toList.symm⟩
  rw [String.toList_ofList]
  induction text with
  | nil => simp
  | cons c text ih =>
    have split : String.ofList (c :: text) = String.singleton c ++ String.ofList text := by
      rw [String.singleton_eq_ofList, ← String.ofList_append]
      rfl
    rw [byteLength_cons, ih, split, String.utf8ByteSize_append, String.utf8ByteSize_singleton]

/-- A byte offset between two characters of a source, or behind the line end that is read past
it. -/
def IsPlace (source : String) (offset : Nat) : Prop :=
  String.Pos.Raw.IsValid source ⟨offset⟩ ∨ offset = source.utf8ByteSize + 1

theorem isValid_of_append {source : String} {before after : List Char}
    (whole : source.toList = before ++ after) :
    String.Pos.Raw.IsValid source ⟨byteLength before⟩ := by
  refine String.Pos.Raw.isValid_iff_exists_append.2
    ⟨String.ofList before, String.ofList after, ?_, ?_⟩
  · rw [← String.ofList_append, ← whole, String.ofList_toList]
  · rw [String.Pos.Raw.ext_iff, String.byteIdx_rawEndPos, ← byteLength_toList,
      String.toList_ofList]

theorem isPlace_of_append {source : String} {before after : List Char}
    (whole : source.toList ++ ['\n'] = before ++ after) : IsPlace source (byteLength before) := by
  rcases List.eq_nil_or_concat after with rfl | ⟨rest, last, rfl⟩
  · refine .inr ?_
    rw [← byteLength_toList, ← List.append_nil before, ← whole, byteLength_append]
    rfl
  · rw [List.concat_eq_append, ← List.append_assoc] at whole
    exact .inl (isValid_of_append (List.append_inj' whole rfl).1)

/-! ## Line ends are passed one by one -/

namespace Reading

theorem newline_not_mem_comparator {c : Char} (other : c ≠ '\n') (alone : Option Token.Kind)
    (joined : Token.Kind) (text : List Char) : '\n' ∉ (comparator c alone joined text).taken := by
  unfold comparator
  split
  · simp [word, other.symm]
  · cases alone <;> simp [word, fault, other.symm]

theorem newline_not_mem_number (text : List Char) : '\n' ∉ (number text).taken := by
  have digits (run : List Char) : '\n' ∉ run.takeWhile Char.isDigit := fun member =>
    absurd (all_of_mem_takeWhile _ _ _ member) (by decide)
  unfold number
  split
  · next fraction _ =>
    refine fun member => ?_
    rcases List.mem_append.1 member with member | member
    · exact digits _ member
    · rcases List.mem_cons.1 member with same | member
      · cases same
      · exact digits _ member
  · exact digits _

theorem newline_not_mem_stringLiteral (text : List Char) :
    '\n' ∉ (stringLiteral text).taken := by
  have legal : '\n' ∉ '"' :: text.takeWhile isLegalInString := by
    refine fun member => ?_
    rcases List.mem_cons.1 member with same | member
    · cases same
    · exact absurd (all_of_mem_takeWhile _ _ _ member) (by decide)
  unfold stringLiteral
  split
  · exact legal
  · exact legal
  · refine fun member => ?_
    rcases List.mem_append.1 member with member | member
    · exact legal member
    · cases List.mem_singleton.1 member
  · exact legal

/-- A reading passes over a line end only if it begins with it. -/
theorem newline_not_mem_first {c : Char} (other : c ≠ '\n') (text : List Char) :
    '\n' ∉ (first c text).taken := by
  have single : '\n' ∉ [c] := fun member => other (List.mem_singleton.1 member).symm
  unfold first
  split
  · exact single
  · exact newline_not_mem_comparator other _ _ _
  · split
    · exact newline_not_mem_stringLiteral text
    · split
      · exact newline_not_mem_number _
      · split
        · intro member
          exact absurd (all_of_mem_takeWhile _ _ _ member) (by decide)
        · exact single

/-- The illegal character that is told of has not been passed over. -/
theorem rest_of_illegalInString {c d : Char} {text : List Char}
    (told : (first c text).result = .error (.illegalInString d)) :
    ∃ more, (first c text).rest = d :: more := by
  unfold first at told ⊢
  split at told
  · cases told
  · unfold comparator at told
    split at told
    · cases told
    · split at told <;> cases told
  · split at told
    · next quote =>
      rw [if_pos quote]
      unfold stringLiteral at told ⊢
      split at told <;> cases told
      exact ⟨_, rfl⟩
    · split at told
      · unfold number at told
        split at told <;> cases told
      · split at told <;> cases told

end Reading

/-! ## Places of a source -/

namespace Lexer

variable {source : String} {lexer lexer' : Lexer} {passed : List Char}

/-- The lexer stands at a place of the source: it counts the bytes before what it has still to
read. -/
def Within (source : String) (lexer : Lexer) : Prop :=
  ∃ before, source.toList ++ ['\n'] = before ++ lexer.rest ∧ lexer.position = byteLength before

/-- From one place to the other these characters are passed over. -/
structure Passes (lexer : Lexer) (passed : List Char) (lexer' : Lexer) : Prop where
  rest : lexer.rest = passed ++ lexer'.rest
  position : lexer'.position = lexer.position + byteLength passed

theorem passes_skipGap (lexer : Lexer) :
    lexer.Passes (Gap.split lexer.rest).1 lexer.skipGap :=
  ⟨(Gap.split_append lexer.rest).symm, rfl⟩

theorem within_after (source : String) (count : Nat) : Within source (after source count) :=
  after_eq source count

theorem Within.passes (within : Within source lexer) (passes : lexer.Passes passed lexer') :
    Within source lexer' := by
  obtain ⟨before, whole, position⟩ := within
  refine ⟨before ++ passed, ?_, ?_⟩
  · rw [whole, passes.rest, List.append_assoc]
  · rw [passes.position, position, byteLength_append]

theorem Within.next (within : Within source lexer) : Within source lexer.next.2 := by
  obtain ⟨passed, rest, position⟩ := lexer.next_suffix
  exact within.passes ⟨rest, position⟩

theorem Within.isPlace (within : Within source lexer) : IsPlace source lexer.position := by
  obtain ⟨before, whole, position⟩ := within
  rw [position]
  exact isPlace_of_append whole

theorem Within.position_add (within : Within source lexer) :
    lexer.position + byteLength lexer.rest = source.utf8ByteSize + 1 := by
  obtain ⟨before, whole, position⟩ := within
  rw [position, ← byteLength_append, ← whole, byteLength_append, byteLength_toList]
  rfl

/-- Everything has been read exactly at the end. -/
theorem Within.rest_eq_nil_iff (within : Within source lexer) :
    lexer.rest = [] ↔ lexer.position = source.utf8ByteSize + 1 := by
  have whole := within.position_add
  constructor
  · intro none
    rw [none] at whole
    exact whole
  · intro last
    have length := length_le_byteLength lexer.rest
    exact List.length_eq_zero_iff.1 (by omega)

/-- What is still to be read is closed by the line end. -/
theorem Within.closed (within : Within source lexer) (more : lexer.rest ≠ []) :
    ∃ text, lexer.rest = text ++ ['\n'] := by
  obtain ⟨before, whole, -⟩ := within
  rcases List.eq_nil_or_concat lexer.rest with none | ⟨text, last, same⟩
  · exact absurd none more
  · refine ⟨text, ?_⟩
    rw [same, List.concat_eq_append, ← List.append_assoc] at whole
    rw [same, List.concat_eq_append, (List.append_inj' whole rfl).2]

/-- A gap does not reach to the end, since it holds no line end. -/
theorem Within.skipGap_ne_nil (within : Within source lexer) (more : lexer.rest ≠ []) :
    lexer.skipGap.rest ≠ [] := by
  intro none
  obtain ⟨text, closed⟩ := within.closed more
  have gap : (Gap.split lexer.rest).1 = lexer.rest := by
    have passes := lexer.passes_skipGap.rest
    rw [none, List.append_nil] at passes
    exact passes.symm
  refine Gap.newline_not_mem (Gap.isGap_split lexer.rest) ?_
  rw [gap, closed]
  simp

/-! ## One call -/

/-- The bytes that an answer is about. -/
def spanOf : Except Error Token → Option Span
  | .ok token => some token.span
  | .error error => error.span?

/-- What is true of a lexer wherever it stands in a source, and of its next answer. -/
structure Progresses (source : String) (lexer : Lexer) : Prop where
  place : IsPlace source lexer.position
  span : ∀ span, spanOf lexer.next.1 = some span →
    IsPlace source span.start ∧ IsPlace source span.stop ∧ span.start ≤ span.stop
  advances : (∀ token, lexer.next.1 = .ok token → token.kind ≠ .endOfInput) →
    lexer.position < lexer.next.2.position
  endOfInput_iff : (∃ token, lexer.next.1 = .ok token ∧ token.kind = .endOfInput) ↔
    lexer.position = source.utf8ByteSize + 1
  ends : lexer.position = source.utf8ByteSize + 1 → lexer.next =
    (.ok ⟨.endOfInput, "", ⟨source.utf8ByteSize + 1, source.utf8ByteSize + 1⟩⟩, lexer)
  closes : lexer.position ≤ source.utf8ByteSize →
    lexer.next.2.position = source.utf8ByteSize + 1 → lexer.next.1 =
      .ok ⟨.newline, "\n", ⟨source.utf8ByteSize, source.utf8ByteSize + 1⟩⟩

theorem position_lt_next (more : ∀ token, lexer.next.1 = .ok token → token.kind ≠ .endOfInput) :
    lexer.position < lexer.next.2.position := by
  obtain ⟨passed, rest, position⟩ := lexer.next_suffix
  have shorter := length_next_lt more
  have length := length_le_byteLength passed
  rw [rest, List.length_append] at shorter
  rw [position]
  omega

theorem Within.next_of_last (within : Within source lexer)
    (last : lexer.position = source.utf8ByteSize + 1) : lexer.next =
      (.ok ⟨.endOfInput, "", ⟨source.utf8ByteSize + 1, source.utf8ByteSize + 1⟩⟩, lexer) := by
  have none := within.rest_eq_nil_iff.2 last
  obtain ⟨rest, position⟩ := lexer
  obtain rfl : rest = [] := none
  obtain rfl : position = source.utf8ByteSize + 1 := last
  rfl

theorem Within.endOfInput_iff (within : Within source lexer) :
    (∃ token, lexer.next.1 = .ok token ∧ token.kind = .endOfInput) ↔
      lexer.position = source.utf8ByteSize + 1 := by
  constructor
  · intro ended
    obtain ⟨token, answer, last⟩ := ended
    refine within.rest_eq_nil_iff.1 (Decidable.byContradiction fun more => ?_)
    exact within.skipGap_ne_nil more ((lexer.answers.endOfInput_iff answer).1 last)
  · intro last
    rw [within.next_of_last last]
    exact ⟨_, rfl, rfl⟩

/-- The line end that is read past the source is the last thing that is passed, on its own. -/
theorem Within.closes (within : Within source lexer)
    (more : lexer.position ≤ source.utf8ByteSize)
    (last : lexer.next.2.position = source.utf8ByteSize + 1) : lexer.next.1 =
      .ok ⟨.newline, "\n", ⟨source.utf8ByteSize, source.utf8ByteSize + 1⟩⟩ := by
  have nonempty : lexer.rest ≠ [] := fun none => by
    have position := within.rest_eq_nil_iff.1 none
    omega
  have none := within.next.rest_eq_nil_iff.2 last
  have within' := within.passes lexer.passes_skipGap
  have nonempty' := within.skipGap_ne_nil nonempty
  unfold Lexer.next at none last ⊢
  generalize lexer.skipGap = here at none last within' nonempty' ⊢
  obtain ⟨_ | ⟨c, text⟩, start⟩ := here
  · exact absurd rfl nonempty'
  obtain ⟨whole, closed⟩ := within'.closed nonempty'
  rw [readHere_cons] at none last ⊢
  obtain ⟨split, -⟩ := Reading.first_splits c text
  have newline : c = '\n' := Decidable.byContradiction fun other => by
    refine Reading.newline_not_mem_first other text ?_
    rw [show (Reading.first c text).rest = [] from none, List.append_nil] at split
    rw [split, show c :: text = whole ++ ['\n'] from closed]
    simp
  subst newline
  have start : start = source.utf8ByteSize := Nat.succ.inj last
  rw [start]
  rfl

theorem Within.span (within : Within source lexer) {span : Span}
    (told : spanOf lexer.next.1 = some span) :
    IsPlace source span.start ∧ IsPlace source span.stop ∧ span.start ≤ span.stop := by
  have within' := within.passes lexer.passes_skipGap
  have behind := within.next
  unfold Lexer.next at told behind
  generalize lexer.skipGap = here at told within' behind
  obtain ⟨_ | ⟨c, text⟩, start⟩ := here
  · cases told
    exact ⟨within'.isPlace, within'.isPlace, Nat.le_refl _⟩
  rw [readHere_cons] at told behind
  have between : IsPlace source start ∧
      IsPlace source (start + byteLength (Reading.first c text).taken) ∧
        start ≤ start + byteLength (Reading.first c text).taken :=
    ⟨within'.isPlace, behind.isPlace, Nat.le_add_right _ _⟩
  simp only [located] at told
  split at told
  · cases told
    exact between
  · next fault result =>
    cases fault with
    | illegalInString d =>
      cases told
      obtain ⟨more, rest⟩ := Reading.rest_of_illegalInString result
      have passes : Passes ⟨(Reading.first c text).rest,
          start + byteLength (Reading.first c text).taken⟩ [d] ⟨more,
            start + byteLength (Reading.first c text).taken + byteLength [d]⟩ := ⟨rest, rfl⟩
      exact ⟨between.2.1, (behind.passes passes).isPlace, Nat.le_add_right _ _⟩
    | bareBang | unknown _ | unterminatedString =>
      cases told
      exact between

theorem Within.progresses (within : Within source lexer) : lexer.Progresses source where
  place := within.isPlace
  span _ told := within.span told
  advances more := position_lt_next more
  endOfInput_iff := within.endOfInput_iff
  ends last := within.next_of_last last
  closes more last := within.closes more last

/-! ## All calls -/

theorem progresses_after (source : String) (count : Nat) :
    (after source count).Progresses source :=
  (within_after source count).progresses

/-- At the end calls make no difference any more. -/
theorem after_eq_of_last {count later : Nat}
    (last : (after source count).position = source.utf8ByteSize + 1) (le : count ≤ later) :
    after source later = after source count := by
  induction le with
  | refl => rfl
  | step le ih => rw [after, ih, (within_after source count).next_of_last last]

/-- Until the end each call takes the lexer further by at least one byte. -/
theorem le_position_after (source : String) (count : Nat) :
    min count (source.utf8ByteSize + 1) ≤ (after source count).position := by
  induction count with
  | zero => omega
  | succ count ih =>
    have progresses := progresses_after source count
    by_cases last : (after source count).position = source.utf8ByteSize + 1
    · rw [after_eq_of_last last (Nat.le_succ count), last]
      omega
    · have advances := progresses.advances fun token answer ended =>
        last (progresses.endOfInput_iff.1 ⟨token, answer, ended⟩)
      rw [after]
      omega

/-- As many calls as there are bytes, and one more, lead to the end. -/
theorem position_after_eq {count : Nat} (enough : source.utf8ByteSize < count) :
    (after source count).position = source.utf8ByteSize + 1 := by
  have reached := le_position_after source count
  have whole := (within_after source count).position_add
  omega

/-! ## The calls that read all tokens -/

/-- Tokens that are delivered one after the other are the answers to as many calls. -/
theorem after_of_delivers (count : Nat) {tokens : List Token}
    (delivers : (after source count).Delivers tokens lexer) :
    lexer = after source (count + tokens.length) ∧
      ∀ index (h : index < tokens.length),
        (after source (count + index)).next.1 = .ok tokens[index] ∧
          tokens[index].kind ≠ .endOfInput := by
  induction tokens generalizing count with
  | nil => exact ⟨delivers.symm, nofun⟩
  | cons token tokens ih =>
    obtain ⟨mid, answer, more, delivers⟩ := delivers
    obtain rfl : after source (count + 1) = mid := congrArg Prod.snd answer
    obtain ⟨rfl, answers⟩ := ih (count + 1) delivers
    refine ⟨by rw [List.length_cons, Nat.add_right_comm, Nat.add_assoc], fun index h => ?_⟩
    cases index with
    | zero => exact ⟨congrArg Prod.fst answer, more⟩
    | succ index =>
      have answers := answers index (Nat.lt_of_succ_lt_succ h)
      rwa [Nat.add_assoc, Nat.add_comm 1 index] at answers

/-- What is read to the end is delivered, and then comes the end of the input. -/
theorem delivers_of_readAll_none {tokens : List Token} (read : lexer.readAll = (tokens, none)) :
    ∃ front mid last, tokens = front ++ [last] ∧ lexer.Delivers front mid ∧
      mid.next.1 = .ok last ∧ last.kind = .endOfInput := by
  fun_induction readAll lexer generalizing tokens with
  | case1 => cases read
  | case2 lexer token behind answer last =>
    cases read
    exact ⟨[], lexer, token, rfl, rfl, congrArg Prod.fst answer, last⟩
  | case3 lexer token behind answer more _ others error? rest ih =>
    obtain ⟨rfl, rfl⟩ := Prod.mk.inj read
    obtain ⟨front, mid, last, rfl, delivers, answer', ended⟩ := ih rest
    exact ⟨token :: front, mid, last, rfl, ⟨behind, answer, more, delivers⟩, answer', ended⟩

/-- The tokens of a source are the answers to the first calls, up to the first answer that is the
end of the input or an error. -/
theorem exists_calls (source : String) : ∃ front : List Token,
    (∀ index (h : index < front.length), (after source index).next.1 = .ok front[index] ∧
      front[index].kind ≠ .endOfInput) ∧
    ((∃ last, (after source front.length).next.1 = .ok last ∧ last.kind = .endOfInput ∧
        tokens source = .ok (front ++ [last])) ∨
      ∃ error, (after source front.length).next.1 = .error error ∧
        tokens source = .error error) := by
  cases read : (start source).readAll with
  | mk found error? =>
    cases error? with
    | none =>
      obtain ⟨front, mid, last, rfl, delivers, answer, ended⟩ := delivers_of_readAll_none read
      obtain ⟨rfl, answers⟩ := after_of_delivers 0 delivers
      simp only [Nat.zero_add] at answer answers
      exact ⟨front, answers, .inl ⟨last, answer, ended, tokens_eq_ok_iff.2 read⟩⟩
    | some error =>
      obtain ⟨mid, behind, delivers, answer⟩ := delivers_of_readAll read
      obtain ⟨rfl, answers⟩ := after_of_delivers 0 delivers
      simp only [Nat.zero_add] at answer answers
      refine ⟨found, answers, .inr ⟨error, congrArg Prod.fst answer, ?_⟩⟩
      rw [Lexer.tokens, read]

end Lexer

/-- However often a lexer is called, it stays at places of its source and goes on to the end, which
it reaches after at most as many calls as the source has bytes and one more. From there on every
call delivers the end of the input. So all tokens are read with that many calls, or one more. -/
theorem lexer_progresses (source : String) :
    (∀ count, (Lexer.after source count).Progresses source) ∧
    (∀ count, source.utf8ByteSize < count →
      (Lexer.after source count).position = source.utf8ByteSize + 1) ∧
    (∀ count later, (Lexer.after source count).position = source.utf8ByteSize + 1 →
      count ≤ later → Lexer.after source later = Lexer.after source count) ∧
    ∃ front : List Token, front.length ≤ source.utf8ByteSize + 1 ∧
      (∀ index (h : index < front.length),
        (Lexer.after source index).next.1 = .ok front[index] ∧
          front[index].kind ≠ .endOfInput) ∧
      ((∃ last, (Lexer.after source front.length).next.1 = .ok last ∧
          last.kind = .endOfInput ∧ Lexer.tokens source = .ok (front ++ [last])) ∨
        ∃ error, (Lexer.after source front.length).next.1 = .error error ∧
          Lexer.tokens source = .error error) := by
  refine ⟨Lexer.progresses_after source, fun _ => Lexer.position_after_eq,
    fun _ _ => Lexer.after_eq_of_last, ?_⟩
  obtain ⟨front, answers, ended⟩ := Lexer.exists_calls source
  refine ⟨front, Decidable.byContradiction fun long => ?_, answers, ended⟩
  -- the answer at the end of the source is the end of the input, and none of these tokens is
  obtain ⟨answer, more⟩ := answers (source.utf8ByteSize + 1) (by omega)
  have last := @Lexer.position_after_eq source _ (Nat.lt_succ_self _)
  rw [(Lexer.progresses_after source _).ends last] at answer
  rw [← Except.ok.inj answer] at more
  exact more rfl

end Offside
