import Mathlib
import Offside.Proofs.CommandLine.Effects
import Offside.Proofs.Diagnostic.Places
import Offside.Proofs.Listing.Quoted

/-!
# A listing tells its tokens

A line of a listing is read back from the front. Blanks only fill up the fields,
and where a field is too long for its column it is still followed by the points
or by a blank. The description of a kind may hold blanks and single quotes, but
it holds no double quote and does not end in a blank. So it ends before the
blanks in front of the first double quote, behind which is the text.

What a line tells are the bytes, the kind and the text of its token, and that is
all there is to a token. Since every line is ended once and there is no line end
in it, a listing is its lines, and it is known from them which tokens it lists.
-/

namespace Offside

/-! ## Kinds are known from their descriptions -/

namespace Token.Kind

/-- Every kind. -/
def all : List Kind :=
  .endOfInput :: .newline :: .number :: .identifier :: .stringLiteral :: .assign :: .plus ::
    .minus :: .times :: .divide :: .equal :: .unequal :: .less :: .lessOrEqual :: .greater ::
    .greaterOrEqual :: .openParen :: .closeParen :: .comma :: Keyword.all.map .keyword

/-- The kind with this description. -/
def ofDescription? (text : String) : Option Kind := all.find? (·.description == text)

theorem ofDescription?_description (kind : Kind) : ofDescription? kind.description = some kind := by
  cases kind with
  | keyword word => cases word <;> decide
  | _ => decide

theorem description_injective : Function.Injective description := fun kind kind' same =>
  Option.some.inj (by rw [← ofDescription?_description, same, ofDescription?_description])

/-- A description begins and ends with a sign that is seen, and holds no double quote and no line
end. -/
theorem description_spec (kind : Kind) :
    kind.description.toList.head?.any (· != ' ') = true ∧
      kind.description.toList.reverse.head?.any (· != ' ') = true ∧
      kind.description.toList.all (fun c => c != '"' && !isLineEnd c) = true := by
  cases kind with
  | keyword word => cases word <;> decide
  | _ => decide

theorem of_mem_description {kind : Kind} {c : Char} (member : c ∈ kind.description.toList) :
    c ≠ '"' ∧ isLineEnd c = false := by
  simpa using List.all_eq_true.1 kind.description_spec.2.2 c member

end Token.Kind

/-! ## Reading a line -/

/-- What a line of a listing tells of a token. -/
structure Entry where
  span : Span
  /-- The name of the kind. -/
  description : String
  text : String
deriving Repr, DecidableEq

/-- What is told of a token. -/
def Token.entry (token : Token) : Entry := ⟨token.span, token.kind.description, token.text⟩

theorem Token.entry_injective : Function.Injective Token.entry := by
  rintro ⟨kind, text, span⟩ ⟨kind', text', span'⟩ same
  obtain ⟨places, described, texts⟩ := Entry.mk.inj same
  exact Token.mk.injEq .. ▸ ⟨Kind.description_injective described, texts, places⟩

namespace Entry

/-- A text without the blanks at its front. -/
def skipBlanks (text : List Char) : List Char := text.dropWhile (· == ' ')

/-- The number at the front of a text, and what is behind it. -/
def readNumber (text : List Char) : Nat × List Char :=
  (Nat.ofDigitChars 10 (text.takeWhile Char.isDigit) 0, text.dropWhile Char.isDigit)

/-- Reads a line of a listing. -/
def ofLine? (line : List Char) : Option Entry :=
  let (start, rest) := readNumber (skipBlanks line)
  let (stop, rest) := readNumber (rest.drop 2)
  let described := (skipBlanks rest).takeWhile (· != '"')
  let quoted := (skipBlanks rest).dropWhile (· != '"')
  match Text.unquote? .none (quoted.drop 1) with
  | some (text, ['\n']) =>
    some ⟨⟨start, stop⟩, String.ofList (skipBlanks described.reverse).reverse, String.ofList text⟩
  | _ => none

/-- An entry as it is written, with so many blanks before the bytes, behind them and behind the
description, and with `rest` behind it all. -/
def written (before between behind : Nat) (entry : Entry) (rest : List Char) : List Char :=
  List.replicate before ' ' ++ ((toString entry.span.start).toList ++ ('.' :: '.' ::
    ((toString entry.span.stop).toList ++ (List.replicate (between + 1) ' ' ++
      (entry.description.toList ++ (List.replicate (behind + 1) ' ' ++ ('"' ::
        (entry.text.toList.flatMap (Text.quotedWithin '"') ++ '"' :: rest))))))))

theorem stopsAt_append {p : Char → Bool} {text : List Char} (stops : text.head?.any (!p ·) = true)
    (rest : List Char) : StopsAt p (text ++ rest) := by
  cases text with
  | nil => cases stops
  | cons c text =>
    intro d first
    obtain rfl := Option.some.inj first
    simpa using stops

theorem skipBlanks_replicate (count : Nat) {rest : List Char} (stops : StopsAt (· == ' ') rest) :
    skipBlanks (List.replicate count ' ' ++ rest) = rest :=
  dropWhile_of_stopsAt (by simp) stops

theorem readNumber_toString (n : Nat) {rest : List Char} (stops : StopsAt Char.isDigit rest) :
    readNumber ((toString n).toList ++ rest) = (n, rest) := by
  have digits : ∀ c ∈ (toString n).toList, c.isDigit = true := fun _ =>
    CommandLine.isDigit_of_mem_toString
  have value : Nat.ofDigitChars 10 (toString n).toList 0 = n :=
    Nat.toList_repr ▸ Nat.ofDigitChars_toDigits (by decide) (by decide)
  rw [readNumber, takeWhile_of_stopsAt digits stops, dropWhile_of_stopsAt digits stops, value]

theorem stopsAt_toString (n : Nat) (rest : List Char) :
    StopsAt (· == ' ') ((toString n).toList ++ rest) := by
  obtain ⟨c, digits, same⟩ : ∃ c digits, (toString n).toList = c :: digits :=
    List.exists_cons_of_ne_nil (Nat.toList_repr ▸ Nat.toDigits_ne_nil)
  have digit : c.isDigit = true :=
    CommandLine.isDigit_of_mem_toString (same ▸ List.mem_cons_self : c ∈ (toString n).toList)
  refine stopsAt_append ?_ rest
  rw [same, List.head?_cons, Option.any_some, Bool.not_eq_true', beq_eq_false_iff_ne]
  rintro rfl
  exact absurd digit (by decide)

/-- However many blanks fill up the fields, the entry is read off its line. -/
theorem ofLine?_written (before between behind : Nat) (token : Token) :
    ofLine? (token.entry.written before between behind ['\n']) = some token.entry := by
  obtain ⟨begins, ends, -⟩ := token.kind.description_spec
  have blank (rest : List Char) : StopsAt Char.isDigit (List.replicate (between + 1) ' ' ++ rest) :=
    @stopsAt_append _ (List.replicate (between + 1) ' ') rfl rest
  have point (rest : List Char) : StopsAt Char.isDigit ('.' :: rest) :=
    @stopsAt_append _ ['.'] rfl rest
  have quote (rest : List Char) : StopsAt (· != '"') ('"' :: rest) :=
    @stopsAt_append _ ['"'] rfl rest
  have field : ∀ c ∈ token.kind.description.toList ++ List.replicate (behind + 1) ' ',
      (c != '"') = true := by
    intro c member
    rcases List.mem_append.1 member with member | member
    · simpa using (Token.Kind.of_mem_description member).1
    · rw [(List.mem_replicate.1 member).2]
      rfl
  have trimmed : (skipBlanks (token.kind.description.toList ++
      List.replicate (behind + 1) ' ').reverse).reverse = token.kind.description.toList := by
    have stops := stopsAt_append ends []
    rw [List.append_nil] at stops
    rw [List.reverse_append, List.reverse_replicate, skipBlanks_replicate _ stops,
      List.reverse_reverse]
  unfold ofLine? written Token.entry
  dsimp only
  rw [skipBlanks_replicate _ (stopsAt_toString _ _), readNumber_toString _ (point _)]
  simp only [List.drop_succ_cons, List.drop_zero]
  rw [readNumber_toString _ (blank _)]
  dsimp only
  rw [skipBlanks_replicate _ (stopsAt_append begins _), ← List.append_assoc,
    takeWhile_of_stopsAt field (quote _), dropWhile_of_stopsAt field (quote _), trimmed]
  simp only [List.drop_succ_cons, List.drop_zero]
  rw [Text.unquote?_flatMap]
  simp only [String.ofList_toList]

theorem written_append (before between behind : Nat) (entry : Entry) (rest : List Char) :
    entry.written before between behind rest = entry.written before between behind [] ++ rest := by
  simp [written]

/-- There is no line end in an entry. -/
theorem not_isLineEnd_written (before between behind : Nat) (token : Token) :
    ∀ c ∈ token.entry.written before between behind [], isLineEnd c = false := by
  have blanks (count : Nat) : ∀ c ∈ List.replicate count ' ', isLineEnd c = false := by
    intro c member
    rw [(List.mem_replicate.1 member).2]
    rfl
  have digits (n : Nat) : ∀ c ∈ (toString n).toList, isLineEnd c = false := by
    intro c member
    have digit : c.isDigit = true := CommandLine.isDigit_of_mem_toString member
    refine Bool.eq_false_iff.2 fun ends => ?_
    simp only [isLineEnd, Bool.or_eq_true, beq_iff_eq] at ends
    rcases ends with (((((rfl | rfl) | rfl) | rfl) | rfl) | rfl) | rfl
    all_goals exact absurd digit (by decide)
  have quoted : ∀ c ∈ token.text.toList.flatMap (Text.quotedWithin '"'), isLineEnd c = false := by
    intro c member
    obtain ⟨d, -, member⟩ := List.mem_flatMap.1 member
    exact Text.not_isLineEnd_quotedWithin d c member
  have described : ∀ c ∈ token.kind.description.toList, isLineEnd c = false := fun c member =>
    (Token.Kind.of_mem_description member).2
  simp only [written, Token.entry, List.forall_mem_append, List.forall_mem_cons]
  exact ⟨blanks _, digits _, rfl, rfl, digits _, blanks _, described, blanks _, rfl, quoted, rfl,
    List.forall_mem_nil _⟩

end Entry

/-! ## The lines of a listing -/

namespace Token

theorem exists_listed_eq (token : Token) :
    ∃ before between behind,
      token.listed.toList = token.entry.written before between behind ['\n'] := by
  refine ⟨5 - (toString token.span.start).length, 5 - (toString token.span.stop).length,
    16 - token.kind.description.length, ?_⟩
  have shown (text : String) : toString text = text := rfl
  unfold listed Text.flushRight Text.flushLeft Text.spaces Text.quoted Entry.written
  simp [List.replicate_succ', entry, shown]

theorem ofLine?_listed (token : Token) : Entry.ofLine? token.listed.toList = some token.entry := by
  obtain ⟨before, between, behind, same⟩ := token.exists_listed_eq
  rw [same, Entry.ofLine?_written]

/-- There is one line end in the line of a token, which is its last character. -/
theorem exists_listed_body (token : Token) : ∃ body,
    token.listed.toList = body ++ ['\n'] ∧ ∀ c ∈ body, isLineEnd c = false := by
  obtain ⟨before, between, behind, same⟩ := token.exists_listed_eq
  exact ⟨_, same.trans (Entry.written_append ..), Entry.not_isLineEnd_written _ _ _ _⟩

/-- A listing is cut into lines as it has been put together. -/
theorem linesOf_listing (tokens : List Token) :
    linesOf (listing tokens).toList = tokens.map fun token => token.listed.toList := by
  induction tokens with
  | nil => rfl
  | cons token tokens ih =>
    obtain ⟨body, same, inside⟩ := token.exists_listed_body
    rw [listing, List.map_cons, String.join_cons, String.toList_append, same, List.append_assoc,
      List.singleton_append, linesOf_line inside, ← listing, ih, List.map_cons, same]

theorem map_ofLine?_listing (tokens : List Token) :
    (linesOf (listing tokens).toList).map Entry.ofLine? =
      tokens.map fun token => some token.entry := by
  rw [linesOf_listing, List.map_map]
  refine List.map_congr_left fun token _ => ?_
  rw [Function.comp_apply, ofLine?_listed]

/-- Different tokens have different listings. -/
theorem listing_injective : Function.Injective listing := by
  intro tokens tokens' same
  have entries := map_ofLine?_listing tokens
  rw [same, map_ofLine?_listing] at entries
  have injective : Function.Injective fun token : Token => some token.entry :=
    (Option.some_injective Entry).comp entry_injective
  exact List.map_injective_iff.2 injective entries.symm

end Token

/-! ## The command -/

namespace CommandLine

variable {tree : FileTree} {arguments : List String} {source : String} {tokens : List Token}

/-- The arguments ask for the tokens of a file that holds this source. -/
def AsksForTokens (arguments : List String) (tree : FileTree) (source : String) : Prop :=
  ∃ file, (Request.ofArguments? arguments).map Request.command? = some (some (.tokens file)) ∧
    tree.readText file = .ok source

theorem effect_of_asksForTokens (asks : AsksForTokens arguments tree source)
    (read : Lexer.tokens source = .ok tokens) :
    (planFor arguments).effect tree = ⟨0, Token.listing tokens, tree⟩ := by
  obtain ⟨file, asked, held⟩ := asks
  rw [effect_planFor_of_eq asked, Command.effect, Command.sourceFile, held]
  dsimp only
  rw [Command.effectOn, read]

/-- Whoever asks for the tokens of a source is given a line for each of them, and no more. No line
has a line end in it but the one that it is ended with, and what is read off a line are the bytes,
the kind and the text of its token. So the sources of two listings that are the same have the same
tokens. -/
theorem listing_tells_tokens (asks : AsksForTokens arguments tree source)
    (read : Lexer.tokens source = .ok tokens) : ∃ listing,
      (planFor arguments).effect tree = ⟨0, listing, tree⟩ ∧
      (linesOf listing.toList).map Entry.ofLine? = tokens.map (fun token => some token.entry) ∧
      (∀ line ∈ linesOf listing.toList,
        ∃ body, line = body ++ ['\n'] ∧ ∀ c ∈ body, isLineEnd c = false) ∧
      ∀ arguments' tree' source' tokens', AsksForTokens arguments' tree' source' →
        Lexer.tokens source' = .ok tokens' →
        ((planFor arguments').effect tree').output = listing → tokens' = tokens := by
  refine ⟨Token.listing tokens, effect_of_asksForTokens asks read,
    Token.map_ofLine?_listing tokens, fun line member => ?_,
    fun arguments' tree' source' tokens' asks' read' same => ?_⟩
  · rw [Token.linesOf_listing] at member
    obtain ⟨token, -, rfl⟩ := List.mem_map.1 member
    exact token.exists_listed_body
  · rw [effect_of_asksForTokens asks' read'] at same
    exact Token.listing_injective same

/-- The text of the first token is a line separator. It is told by its code point, so the listing
has three lines, and any source with that listing has the same three tokens. -/
theorem listing_tells_tokens_separator :
    AsksForTokens ["tokens", "s"] ⟨[(["s"], "\"\u2028\"".toUTF8)]⟩ "\"\u2028\"" ∧
      ∃ listing, (planFor ["tokens", "s"]).effect ⟨[(["s"], "\"\u2028\"".toUTF8)]⟩ =
          ⟨0, listing, ⟨[(["s"], "\"\u2028\"".toUTF8)]⟩⟩ ∧
        (linesOf listing.toList).map Entry.ofLine? =
          [some ⟨⟨0, 5⟩, "string literal", "\u2028"⟩, some ⟨⟨5, 6⟩, "newline", "\n"⟩,
            some ⟨⟨6, 6⟩, "end of input", ""⟩] := by
  have asks : AsksForTokens ["tokens", "s"] ⟨[(["s"], "\"\u2028\"".toUTF8)]⟩ "\"\u2028\"" :=
    ⟨"s", by cbv, by cbv⟩
  have read : Lexer.tokens "\"\u2028\"" = .ok [⟨.stringLiteral, "\u2028", ⟨0, 5⟩⟩,
      ⟨.newline, "\n", ⟨5, 6⟩⟩, ⟨.endOfInput, "", ⟨6, 6⟩⟩] := by cbv
  obtain ⟨listing, effect, entries, -, -⟩ := listing_tells_tokens asks read
  exact ⟨asks, listing, effect, entries⟩

end CommandLine

end Offside
