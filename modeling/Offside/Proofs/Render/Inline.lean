import Offside.Proofs.Grammar.Apart
import Offside.Proofs.Grammar.Unique
import Offside.Proofs.Lexing.Reading
import Offside.Proofs.Render.Layout

/-!
# The words of a line of Python

The words of a line can be read again from its text, one by one. Each is written
as a word that the lexer reads, possibly with a space on one side of it or on
both, and what stands behind it is not what that word would go on with. So two
equal texts begin with the same word, and go on with equal texts.

Only `AND`, `OR` and `NOT` are written as something else than themselves, which
is a name. The first two have a space before them and a name has none. `NOT` and
the name `not` are told apart by the space behind: where `NOT` may stand, the
name is not followed by one.
-/

namespace Offside

/-! ## How a kind of word begins -/

namespace Token.Kind

/-- The characters with which a word of a kind begins in a line of Python. -/
def starts : Token.Kind → Char → Bool
  | .number, c => c.isDigit
  | .identifier, c => c.isAlpha
  | .stringLiteral, c => c == '"'
  | .keyword .and, c | .keyword .or, c | .assign, c => c == ' '
  | .keyword .not, c => c == 'n'
  | .equal, c => c == '='
  | .unequal, c => c == '!'
  | .less, c | .lessOrEqual, c => c == '<'
  | .greater, c | .greaterOrEqual, c => c == '>'
  | .plus, c => c == '+'
  | .minus, c => c == '-'
  | .times, c => c == '*'
  | .divide, c => c == '/'
  | .openParen, c => c == '('
  | .closeParen, c => c == ')'
  | .comma, c => c == ','
  | _, _ => false

variable {opening : Bool} {kind next : Token.Kind} {c : Char}

/-- What may stand behind a number or a name does not go on with it. -/
theorem not_alphanum_of_starts (ends : next.endsFactor = true ∨ next = .openParen ∨ next = .assign)
    (starts : next.starts c = true) : c.isAlphanum = false ∧ c ≠ '.' := by
  cases next with
  | number | identifier | stringLiteral => rcases ends with ends | ends | ends <;> cases ends
  | keyword word =>
    cases word <;> first
      | (rw [eq_of_beq starts]; decide)
      | cases starts
      | (rcases ends with ends | ends | ends <;> cases ends)
  | _ =>
    first
      | (rw [eq_of_beq starts]; decide)
      | cases starts

theorem ne_equals_of_starts (begins : next.beginsExpression = true)
    (starts : next.starts c = true) : c ≠ '=' := by
  intro equals
  subst equals
  rcases beginsExpression_cases begins with rfl | rfl | rfl | rfl <;> cases starts

theorem eq_equal_of_starts (starts : kind.starts '=' = true) : kind = .equal := by
  cases kind with
  | equal => rfl
  | keyword word => cases word <;> cases starts
  | _ => cases starts

/-- The words that are written with a space before them are known from their first character. -/
theorem isSpaced_eq_of_starts (starts : kind.starts c = true) : kind.isSpaced = (c == ' ') := by
  cases kind with
  | number | identifier =>
    refine (beq_eq_false_iff_ne.2 fun space => ?_).symm
    subst space
    cases starts
  | keyword word =>
    cases word <;> first
      | (rw [eq_of_beq starts]; rfl)
      | cases starts
  | _ =>
    first
      | (rw [eq_of_beq starts]; rfl)
      | cases starts

end Token.Kind

/-! ## The parts of a written word -/

namespace Word

/-- The word that is read where this one is written. -/
def face (word : Word) : Word :=
  match word.kind with
  | .keyword .and => ⟨.identifier, "and"⟩
  | .keyword .or => ⟨.identifier, "or"⟩
  | .keyword .not => ⟨.identifier, "not"⟩
  | _ => word

/-- The space before the word. -/
def spaceBefore (word : Word) : List Char := if word.kind.isSpaced then [' '] else []

/-- The space behind the word. -/
def spaceBehind (word : Word) : List Char :=
  match word.kind with
  | .keyword .and | .keyword .or | .keyword .not | .assign | .comma => [' ']
  | _ => []

variable {word : Word} {opening : Bool} {next : Token.Kind} {rest : List Char}

theorem toList_quote (text : String) :
    (Target.python.quote text).toList = '"' :: text.toList ++ ['"'] := by
  simp [Target.python]

/-- A written word is the source of its face, between its spaces. -/
theorem toList_written (proper : word.Proper) : (word.written .python).toList =
    word.spaceBefore ++ (word.face.source ++ word.spaceBehind) := by
  obtain ⟨kind, text⟩ := word
  cases kind with
  | number | identifier => exact (List.append_nil _).symm
  | stringLiteral => exact (toList_quote text).trans (List.append_nil _).symm
  | keyword keyword =>
    obtain rfl : text = keyword.text := proper
    cases keyword <;> rfl
  | _ =>
    simp only [Proper, Token.Kind.spelling] at proper
    subst proper
    rfl

theorem written_append (proper : word.Proper) (rest : List Char) :
    (word.written .python).toList ++ rest =
      word.spaceBefore ++ (word.face.source ++ (word.spaceBehind ++ rest)) := by
  rw [toList_written proper]
  simp only [List.append_assoc]

theorem proper_name {text : String} (small : text ∈ ["and", "or", "not"]) :
    (Word.mk .identifier text).Proper := by
  simp only [List.mem_cons, List.not_mem_nil, or_false] at small
  rcases small with rfl | rfl | rfl <;>
    exact ⟨⟨_, _, rfl, rfl, List.all_eq_true.1 rfl⟩, by decide⟩

theorem proper_face (proper : word.Proper) : word.face.Proper := by
  obtain ⟨kind, text⟩ := word
  cases kind with
  | keyword keyword =>
    cases keyword <;> first
      | exact proper
      | exact proper_name (by decide)
  | _ => exact proper

theorem starts_written (proper : word.Proper) (isWritten : word.kind.isWritten = true) :
    ∃ c text, (word.written .python).toList = c :: text ∧ word.kind.starts c = true := by
  obtain ⟨kind, text⟩ := word
  cases kind with
  | number =>
    obtain ⟨whole, nonempty, digits, same⟩ := proper
    obtain ⟨c, more, rfl⟩ := List.exists_cons_of_ne_nil nonempty
    rcases same with same | ⟨fraction, -, same⟩
    · exact ⟨c, more, same, digits c List.mem_cons_self⟩
    · exact ⟨c, _, same, digits c List.mem_cons_self⟩
  | identifier =>
    obtain ⟨⟨c, more, same, letter, -⟩, -⟩ := proper
    exact ⟨c, more, same, letter⟩
  | stringLiteral => exact ⟨'"', _, toList_written proper, rfl⟩
  | keyword keyword =>
    obtain rfl : text = keyword.text := proper
    cases keyword <;> first
      | exact ⟨_, _, rfl, rfl⟩
      | cases isWritten
  | endOfInput | newline => cases isWritten
  | _ =>
    simp only [Proper, Token.Kind.spelling] at proper
    subst proper
    exact ⟨_, _, rfl, rfl⟩

theorem spaceBehind_cases (word : Word) :
    word.spaceBehind = [] ∨ word.spaceBehind = [' '] := by
  unfold spaceBehind
  split <;> simp

/-- A word that has no space behind it does not go on with what may stand there. -/
theorem not_goesOn {c : Char} (precedes : word.kind.precedes opening next = true)
    (spaceless : word.spaceBehind = []) (starts : next.starts c = true) :
    word.face.goesOn c = false := by
  obtain ⟨kind, text⟩ := word
  cases kind with
  | number =>
    obtain ⟨plain, point⟩ := Token.Kind.not_alphanum_of_starts (.inl precedes) starts
    have digit : c.isDigit = false := (Bool.or_eq_false_iff.1 plain).2
    simp [face, goesOn, digit, point]
  | identifier =>
    have ends : next.endsFactor = true ∨ next = .openParen ∨ next = .assign := by
      simp only [Token.Kind.precedes, Bool.and_eq_true, Bool.or_eq_true, beq_iff_eq,
        or_assoc] at precedes
      exact precedes.1
    exact (Token.Kind.not_alphanum_of_starts ends starts).1
  | keyword keyword =>
    cases keyword <;> first
      | (cases spaceless; done)
      | cases precedes
  | less | greater => exact beq_eq_false_iff_ne.2 (Token.Kind.ne_equals_of_starts precedes starts)
  | assign => cases spaceless
  | _ => rfl

/-- Behind the space before it, a written word is read as its face. -/
theorem reads_face (proper : word.Proper) (precedes : word.kind.precedes opening next = true)
    (stops : ∀ c, rest.head? = some c → next.starts c = true) :
    Reading.Reads (word.face.source ++ (word.spaceBehind ++ rest)) word.face
      (word.spaceBehind ++ rest) := by
  have more : word.face.kind ≠ .endOfInput := by
    obtain ⟨kind, text⟩ := word
    cases kind with
    | keyword keyword => cases keyword <;> nofun
    | endOfInput => cases precedes
    | _ => nofun
  refine Reading.reads_source (proper_face proper) more fun c first => ?_
  rcases spaceBehind_cases word with space | space
  · rw [space] at first
    exact not_goesOn precedes space (stops c first)
  · rw [space] at first
    obtain rfl : ' ' = c := Option.some.inj first
    exact not_goesOn_space _

end Word

/-! ## Equal texts have equal words -/

/-- The text of some words within a line of Python. -/
def Leaf.line (leaves : List Leaf) : List Char :=
  leaves.flatMap fun leaf => (leaf.written .python).toList

namespace Word

variable {word word' : Word} {opening : Bool} {next next' : Token.Kind} {rest rest' : List Char}

/-- A word may stand in a place, before a word of another kind of which the rest begins. -/
structure Stands (word : Word) (opening : Bool) (next : Token.Kind) (rest : List Char) : Prop where
  proper : word.Proper
  precedes : word.kind.precedes opening next = true
  starts : ∀ c, rest.head? = some c → next.starts c = true

theorem Stands.head (stands : word.Stands opening next rest) :
    ∃ c, ((word.written .python).toList ++ rest).head? = some c ∧
      word.kind.isSpaced = (c == ' ') := by
  obtain ⟨c, text, same, starts⟩ :=
    starts_written stands.proper (Token.Kind.isWritten_of_precedes stands.precedes)
  exact ⟨c, by rw [same]; rfl, Token.Kind.isSpaced_eq_of_starts starts⟩

theorem face_of_spaceless (spaceless : word.spaceBehind = []) : word.face = word := by
  obtain ⟨kind, text⟩ := word
  cases kind with
  | keyword keyword => cases keyword <;> first | rfl | cases spaceless
  | _ => rfl

theorem spaced_cases (proper : word.Proper) (spaced : word.spaceBehind = [' ']) :
    word = fixed (.keyword .and) ∨ word = fixed (.keyword .or) ∨ word = fixed (.keyword .not) ∨
      word = fixed .assign ∨ word = fixed .comma := by
  obtain ⟨kind, text⟩ := word
  cases kind with
  | keyword keyword =>
    obtain rfl : text = keyword.text := proper
    cases keyword <;> first
      | cases spaced; done
      | simp [fixed, Token.Kind.spelling]
  | assign | comma =>
    simp only [Proper, Token.Kind.spelling] at proper
    subst proper
    simp [fixed, Token.Kind.spelling]
  | _ => cases spaced

/-- A word with a space behind it is not mistaken for one without. -/
theorem Stands.not_spaceless (stands : word.Stands opening next (' ' :: rest'))
    (stands' : word'.Stands opening next' rest')
    (before : word.kind.isSpaced = word'.kind.isSpaced) (same : word.face = word'.face)
    (spaceless : word.spaceBehind = []) (spaced : word'.spaceBehind = [' ']) : False := by
  rw [face_of_spaceless spaceless] at same
  subst same
  rcases spaced_cases stands'.proper spaced with rfl | rfl | rfl | rfl | rfl
  · cases before
  · cases before
  · obtain rfl : opening = true := stands'.precedes
    have goesOn : next.isSpaced = true := Token.Kind.isSpaced_eq_of_starts (stands.starts ' ' rfl)
    have precedes : Token.Kind.identifier.precedes true next = true := stands.precedes
    simp [Token.Kind.precedes, goesOn] at precedes
  · cases spaceless
  · cases spaceless

/-- Where two words may stand, the texts that begin with them tell which word it is. -/
theorem Stands.unique (stands : word.Stands opening next rest)
    (stands' : word'.Stands opening next' rest')
    (same : (word.written .python).toList ++ rest = (word'.written .python).toList ++ rest') :
    word = word' ∧ rest = rest' := by
  -- the first character tells whether there is a space before the word
  obtain ⟨c, head, spaced⟩ := stands.head
  obtain ⟨c', head', spaced'⟩ := stands'.head
  rw [same, head'] at head
  obtain rfl : c' = c := Option.some.inj head
  have before : word.kind.isSpaced = word'.kind.isSpaced := spaced.trans spaced'.symm
  rw [written_append stands.proper, written_append stands'.proper, spaceBefore, spaceBefore,
    before] at same
  -- behind that space the same is read, so that only a space behind the words could differ
  obtain ⟨face, behind⟩ := (reads_face stands.proper stands.precedes stands.starts).unique
    (List.append_cancel_left same ▸
      reads_face stands'.proper stands'.precedes stands'.starts)
  rcases spaceBehind_cases word with space | space <;>
    rcases spaceBehind_cases word' with space' | space' <;> rw [space, space'] at behind
  · rw [face_of_spaceless space, face_of_spaceless space'] at face
    exact ⟨face, behind⟩
  · subst behind
    exact (stands.not_spaceless stands' before face space space').elim
  · subst behind
    exact (stands'.not_spaceless stands before.symm face.symm space' space).elim
  · refine ⟨?_, (List.cons.inj behind).2⟩
    rcases spaced_cases stands.proper space with rfl | rfl | rfl | rfl | rfl <;>
      rcases spaced_cases stands'.proper space' with rfl | rfl | rfl | rfl | rfl <;>
      first | rfl | exact absurd face (by decide)

end Word

section

variable {leaf last last' : Leaf} {leaves leaves' : List Leaf} {opening : Bool}

theorem starts_line (apart : Apart opening (leaves ++ [last]))
    (proper : ∀ leaf ∈ leaves, leaf.word.Proper) (c : Char)
    (head : (Leaf.line leaves).head? = some c) :
    (firstKind (leaves ++ [last])).starts c = true := by
  cases leaves with
  | nil => cases head
  | cons leaf leaves =>
    obtain ⟨d, text, same, starts⟩ := Word.starts_written (proper leaf List.mem_cons_self)
      (Token.Kind.isWritten_of_precedes (apart_head apart).1)
    rw [Leaf.line, List.flatMap_cons, Leaf.written, same] at head
    obtain rfl : d = c := Option.some.inj head
    exact starts

theorem stands_line (apart : Apart opening (leaf :: leaves ++ [last]))
    (proper : ∀ leaf' ∈ leaf :: leaves, leaf'.word.Proper) :
    leaf.word.Stands opening (firstKind (leaves ++ [last])) (Leaf.line leaves) where
  proper := proper leaf List.mem_cons_self
  precedes := (apart_head apart).1
  starts := starts_line (apart_head apart).2 fun next member =>
    proper next (List.mem_cons_of_mem _ member)

theorem line_ne_nil (apart : Apart opening (leaf :: leaves ++ [last]))
    (proper : ∀ leaf' ∈ leaf :: leaves, leaf'.word.Proper) :
    Leaf.line (leaf :: leaves) ≠ [] := by
  obtain ⟨c, head, -⟩ := (stands_line apart proper).head
  intro nil
  have head : (Leaf.line (leaf :: leaves)).head? = some c := head
  rw [nil] at head
  cases head

/-- Words that may stand side by side are known from their text within a line. -/
theorem line_unique (apart : Apart opening (leaves ++ [last]))
    (apart' : Apart opening (leaves' ++ [last'])) (proper : ∀ leaf ∈ leaves, leaf.word.Proper)
    (proper' : ∀ leaf ∈ leaves', leaf.word.Proper)
    (same : Leaf.line leaves = Leaf.line leaves') : SameWords leaves leaves' := by
  induction leaves generalizing leaves' opening with
  | nil =>
    cases leaves' with
    | nil => rfl
    | cons leaf' leaves' => exact absurd same.symm (line_ne_nil apart' proper')
  | cons leaf leaves ih =>
    cases leaves' with
    | nil => exact absurd same (line_ne_nil apart proper)
    | cons leaf' leaves' =>
      obtain ⟨word, rest⟩ := (stands_line apart proper).unique (stands_line apart' proper') same
      have opens : leaf.kind.opens = leaf'.kind.opens := by rw [Leaf.kind, Leaf.kind, word]
      have others := ih (apart_head apart).2 (opens ▸ (apart_head apart').2)
        (fun next member => proper next (List.mem_cons_of_mem _ member))
        (fun next member => proper' next (List.mem_cons_of_mem _ member)) rest
      rw [SameWords, List.map_cons, List.map_cons, word, others]

end

/-! ## Trees within a line -/

namespace Tree

variable {category : Category} {tree other : Tree category}

theorem toList_written (tree : Tree category) :
    (tree.written .python).toList = Leaf.line tree.leaves := by
  rw [written, String.toList_join, List.flatMap_map]
  rfl

/-- A tree that stands within a line is known from its text in Python. -/
theorem eq_of_line_eq (inline_ : category.isInline = true)
    (proper : ∀ leaf ∈ tree.leaves, leaf.word.Proper)
    (proper' : ∀ leaf ∈ other.leaves, leaf.word.Proper)
    (same : Leaf.line tree.leaves = Leaf.line other.leaves) : tree = other := by
  obtain ⟨kind, follows, fits⟩ := Category.exists_place inline_
  have apart : Apart true (tree.leaves ++ [.fixed kind]) :=
    tree.apart inline_ follows fits fun _ => trivial
  have apart' : Apart true (other.leaves ++ [.fixed kind]) :=
    other.apart inline_ follows fits fun _ => trivial
  have words : SameWords (tree.leaves ++ [.fixed kind]) (other.leaves ++ [.fixed kind]) := by
    rw [SameWords, List.map_append, List.map_append, line_unique apart apart' proper proper' same]
  exact (tree.unique_tree other _ _ words follows follows).1

end Tree

end Offside
