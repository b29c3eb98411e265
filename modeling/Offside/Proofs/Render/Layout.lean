import Offside.Proofs.Grammar.Follow
import Offside.Proofs.Render.Draw

/-!
# The layout of a tree

`Tree.render` is the code for a tree without a word on how it comes about: each
line stands at the depth of its statement, the statements of a body stand one
level deeper than its first line, and an `ELSE` stands at the depth of its `IF`.
What stands within a line is written as its words, one after the other.

Drawing a tree appends its rendering. Within a line this takes a line that has
been begun, so that no margin is written; and what consists of lines takes a
draft in which none has been begun, and leaves one.
-/

namespace Offside

/-- A word as it is written. -/
def Word.written (target : Target) (word : Word) : String :=
  match word.kind with
  | .keyword .and => target.spelling .and
  | .keyword .or => target.spelling .or
  | .keyword .not => target.spelling .not
  | .assign => target.spelling .assign
  | .comma => ", "
  | .stringLiteral => target.quote word.text
  | _ => word.text

/-- The word at a leaf as it is written. -/
def Leaf.written (target : Target) (leaf : Leaf) : String := leaf.word.written target

/-- A line at a depth. -/
def Text.line (width depth : Nat) (text : String) : String :=
  Text.spaces (depth * width) ++ text ++ "\n"

namespace Tree

/-- The words of a tree as they are written within a line. -/
def written (target : Target) {category : Category} (tree : Tree category) : String :=
  String.join (tree.leaves.map (Leaf.written target))

/-- The lines of a tree at a depth. -/
def render (target : Target) (width : Nat) :
    (depth : Nat) → {category : Category} → Tree category → String
  | depth, _, .program _ statements => statements.render target width depth
  | depth, _, .nextStatement first others =>
    first.render target width depth ++ others.render target width depth
  | depth, _, .statement command _ => command.render target width depth
  | depth, _, .body .noStatement => Text.line width depth (target.spelling .emptyBody)
  | depth, _, .body (.nextStatement first others) =>
    first.render target width depth ++ others.render target width depth
  | depth, _, .print printed =>
    Text.line width depth
      (target.spelling .printOpen ++ printed.written target ++ target.spelling .printClose)
  | depth, _, .branch test _ consequent alternative =>
    Text.line width depth
        (target.spelling .ifOpen ++ test.written target ++ target.spelling .blockOpen)
      ++ consequent.render target width (depth + 1) ++ alternative.render target width depth
  | depth, _, .loop test _ inner =>
    Text.line width depth
        (target.spelling .whileOpen ++ test.written target ++ target.spelling .blockOpen)
      ++ inner.render target width (depth + 1)
  | depth, _, .function name names _ inner =>
    Text.line width depth
        (target.spelling .functionOpen ++ name ++ "(" ++ names.written target ++ ")"
          ++ target.spelling .blockOpen)
      ++ inner.render target width (depth + 1)
  | depth, _, .assign name value =>
    Text.line width depth (name ++ target.spelling .assign ++ value.written target)
  | depth, _, .input name =>
    Text.line width depth (name ++ target.spelling .assign ++ target.spelling .readNumber)
  | depth, _, .giveBack value =>
    Text.line width depth (target.spelling .returnOpen ++ value.written target)
  | depth, _, .otherwise _ inner =>
    Text.line width depth (target.spelling .elseLine) ++ inner.render target width (depth + 1)
  | _, _, _ => ""

end Tree

/-! ## Within a line -/

namespace Draft

/-- The draft with a text at its end. -/
def append (draft : Draft) (text : String) : Draft := { draft with body := draft.body ++ text }

theorem append_append (draft : Draft) (left right : String) :
    (draft.append left).append right = draft.append (left ++ right) := by
  simp only [append, String.append_assoc]

theorem append_empty (draft : Draft) : draft.append "" = draft := by
  simp only [append, String.append_empty]

/-- In a line that has been begun, what is done to the draft is to append the text. -/
def Appends (f : Draft → Draft) (text : String) : Prop :=
  ∀ draft : Draft, draft.lineOpen = true → f draft = draft.append text

theorem appends_write (piece : String) : Appends (·.write piece) piece := by
  intro draft h
  show draft.write piece = _
  rw [write, if_pos h, append]

/-- In a line that has been begun, pieces are appended one after the other. -/
theorem foldl_write (pieces : List String) {draft : Draft} (isOpen : draft.lineOpen = true) :
    pieces.foldl write draft = draft.append (String.join pieces) := by
  induction pieces generalizing draft with
  | nil => exact (append_empty draft).symm
  | cons piece pieces ih =>
    have first : draft.write piece = draft.append piece := appends_write piece draft isOpen
    have others := @ih (draft.append piece) isOpen
    rw [List.foldl_cons, first, others, append_append, String.join_cons]

theorem Appends.then {f g : Draft → Draft} {left right : String} (h : Appends f left)
    (h' : Appends g right) : Appends (fun draft => g (f draft)) (left ++ right) := by
  intro draft isOpen
  show g (f draft) = _
  rw [h draft isOpen, h' (draft.append left) isOpen, append_append]

end Draft

namespace Tree

open Draft Token.Kind

variable {category : Category} (target : Target)

theorem written_of_isOperator {kind : Token.Kind} (h : kind.isOperator = true) :
    (Leaf.fixed kind).written target = kind.spelling := by
  cases kind <;> first | rfl | cases h

/-- Within a line, a tree is drawn by writing its words one after the other. -/
theorem draw_eq_foldl (tree : Tree category) (inline_ : category.isInline = true) (draft : Draft) :
    tree.draw target draft = (tree.leaves.map (Leaf.written target)).foldl Draft.write draft := by
  induction tree generalizing draft with
  | program | blankLines | noStatement | nextStatement | statement | body | print | branch | loop
  | function | assign | input | giveBack | noElse | otherwise => cases inline_
  | noParameters | lastParameter | lastConjunction | lastConjunct | lastRightSide | lastTerm
  | lastFactor | noArguments | lastArgument | literal | number | read => rfl
  | printedValue part ih | compared part ih | nextRightSide part ih | plain part ih
  | called part ih => exact ih rfl draft
  | parameters first others ih | nextParameter first others ih | not negated ih =>
    exact ih rfl _
  | condition first others ih ih' | conjunction first others ih ih'
  | comparison first others ih ih' | expression first others ih ih' | term first others ih ih'
  | arguments first others ih ih' =>
    rw [draw, leaves, List.map_append, List.foldl_append, ← ih rfl, ← ih' rfl]
  | nextConjunction next others ih ih' | nextConjunct next others ih ih'
  | nextArgument next others ih ih' =>
    rw [draw, leaves, List.map_cons, List.map_append, List.foldl_cons, List.foldl_append, ← ih rfl,
      ← ih' rfl]
    rfl
  | group test ih | call name values ih =>
    simp [draw, ih rfl, leaves, Leaf.written, Leaf.word, Word.fixed, Word.written,
      Token.Kind.spelling]
  | rightSide operator compares right others ih ih' =>
    simp [draw, leaves, ih rfl, ih' rfl,
      written_of_isOperator target (isOperator_of_isComparison compares)]
  | nextTerm sign signs next others ih ih' =>
    simp [draw, leaves, ih rfl, ih' rfl, written_of_isOperator target (isOperator_of_isSign signs)]
  | nextFactor operator multiplies next others ih ih' =>
    simp [draw, leaves, ih rfl, ih' rfl,
      written_of_isOperator target (isOperator_of_isFactorOperator multiplies)]
  | signed sign signs operand ih =>
    simp [draw, leaves, ih rfl, written_of_isOperator target (isOperator_of_isSign signs)]

/-- In a line that has been begun, drawing a tree appends its words. -/
theorem appends_draw (tree : Tree category) (inline_ : category.isInline = true) :
    Appends (tree.draw target) (tree.written target) := by
  intro draft isOpen
  rw [tree.draw_eq_foldl target inline_, foldl_write _ isOpen, written]

end Tree

/-! ## Lines -/

namespace Draft

/-- Where no line has been begun, what is done to the draft is to append lines, at the depth of the
draft. -/
def AppendsLines (f : Draft → Draft) (lines : (depth width : Nat) → String) : Prop :=
  ∀ draft : Draft, draft.lineOpen = false →
    f draft = draft.append (lines draft.depth draft.width)

theorem appendsLines_nothing : AppendsLines (fun draft => draft) fun _ _ => "" :=
  fun draft _ => (append_empty draft).symm

theorem AppendsLines.then {f g : Draft → Draft} {left right : (depth width : Nat) → String}
    (h : AppendsLines f left) (h' : AppendsLines g right) :
    AppendsLines (fun draft => g (f draft))
      fun depth width => left depth width ++ right depth width := by
  intro draft closed
  show g (f draft) = _
  rw [h draft closed, h' (draft.append _) closed, append_append]
  rfl

/-- A line is begun with its first piece and ended with its last. -/
theorem appendsLines_line {f : Draft → Draft} {text : String} (h : Appends f text)
    (first last : String) :
    AppendsLines (fun draft => (f (draft.write first)).writeLine last)
      fun depth width => Text.line width depth (first ++ text ++ last) := by
  intro draft closed
  show (f (draft.write first)).writeLine last = _
  have begun : (draft.write first).lineOpen = true := by
    rw [write, if_neg (by rw [closed]; exact Bool.false_ne_true)]
  rw [h _ begun]
  obtain ⟨width, header, body, depth, lineOpen⟩ := draft
  subst closed
  simp [write, writeLine, append, margin, Text.line, String.append_assoc]

theorem appendsLines_writeLine (piece : String) :
    AppendsLines (·.writeLine piece) fun depth width => Text.line width depth piece := by
  intro draft closed
  show draft.writeLine piece = _
  obtain ⟨width, header, body, depth, lineOpen⟩ := draft
  subst closed
  simp [write, writeLine, append, margin, Text.line, String.append_assoc]

/-- Lines between an indentation and its end stand one level deeper. -/
theorem AppendsLines.indented {f : Draft → Draft} {lines : (depth width : Nat) → String}
    (h : AppendsLines f lines) :
    AppendsLines (fun draft => (f draft.indent).dedent) fun depth => lines (depth + 1) := by
  intro draft closed
  show (f draft.indent).dedent = _
  rw [h draft.indent closed]
  rfl

/-- A second branch goes on inside the margin of the first. -/
theorem AppendsLines.branches {f g : Draft → Draft} {left right : (depth width : Nat) → String}
    (h : AppendsLines f left) (h' : AppendsLines (fun draft => (g draft.indent).dedent) right) :
    AppendsLines (fun draft => (g (f draft.indent)).dedent)
      fun depth width => left (depth + 1) width ++ right depth width := by
  intro draft closed
  show (g (f draft.indent)).dedent = _
  rw [h draft.indent closed]
  exact (h' (draft.append _) closed).trans (append_append draft _ _)

end Draft

namespace Tree

open Draft

/-- Drawing the tree appends its lines. An `ELSE` branch is drawn inside the margin of its `IF`. -/
def AppendsRendering (target : Target) : {category : Category} → Tree category → Prop
  | .program, tree | .blankLines, tree | .statements, tree | .statement, tree | .command, tree
  | .body, tree =>
    AppendsLines (tree.draw target) fun depth width => tree.render target width depth
  | .otherwise, tree =>
    AppendsLines (fun draft => (tree.draw target draft.indent).dedent)
      fun depth width => tree.render target width depth
  | _, _ => True

variable {category : Category} {target : Target}

theorem AppendsRendering.statement {tree : Tree .statement} (h : tree.AppendsRendering target) :
    AppendsLines (tree.draw target) fun depth width => tree.render target width depth := h

theorem AppendsRendering.statements {tree : Tree .statements} (h : tree.AppendsRendering target) :
    AppendsLines (tree.draw target) fun depth width => tree.render target width depth := h

theorem AppendsRendering.body {tree : Tree .body} (h : tree.AppendsRendering target) :
    AppendsLines (tree.draw target) fun depth width => tree.render target width depth := h

theorem AppendsRendering.otherwise {tree : Tree .otherwise} (h : tree.AppendsRendering target) :
    AppendsLines (fun draft => (tree.draw target draft.indent).dedent)
      fun depth width => tree.render target width depth := h

theorem appendsRendering_command {tree : Tree .command} {lines : (depth width : Nat) → String}
    (h : AppendsLines (tree.draw target) lines)
    (same : ∀ depth width, tree.render target width depth = lines depth width) :
    tree.AppendsRendering target := by
  intro draft closed
  exact (h draft closed).trans (congrArg _ (same _ _).symm)

/-- Drawing a tree appends its lines. -/
theorem appendsRendering (tree : Tree category) : tree.AppendsRendering target := by
  induction tree with
  | program blank statements ih => exact ih
  | blankLines count => exact appendsLines_nothing
  | noStatement => exact appendsLines_nothing
  | nextStatement first others ih ih' => exact ih.statement.then ih'.statements
  | statement command blank ih => exact ih
  | body statements ih =>
    cases statements with
    | noStatement => exact appendsLines_writeLine _
    | nextStatement first others => exact ih
  | print printed => exact appendsLines_line (printed.appends_draw target rfl) _ _
  | branch test blank consequent alternative ih ih' ih'' =>
    exact appendsRendering_command ((appendsLines_line (test.appends_draw target rfl) _ _).then
      (ih'.body.branches ih''.otherwise)) fun depth width => String.append_assoc
  | loop test blank inner ih ih' =>
    exact (appendsLines_line (test.appends_draw target rfl) _ _).then ih'.body.indented
  | function name names blank inner ih ih' =>
    have words := (((appends_write name).then (appends_write "(")).then
      (names.appends_draw target rfl)).then (appends_write ")")
    refine appendsRendering_command ((appendsLines_line words _ _).then ih'.body.indented)
      fun depth width => ?_
    simp only [render, String.append_assoc]
  | assign name value ih =>
    have words := (appends_write (target.spelling .assign)).then (value.appends_draw target rfl)
    refine appendsRendering_command (appendsLines_line words name "") fun depth width => ?_
    simp only [render, String.append_assoc, String.append_empty]
  | input name => exact appendsLines_line (appends_write _) name _
  | giveBack value ih =>
    refine appendsRendering_command (appendsLines_line (value.appends_draw target rfl)
      (target.spelling .returnOpen) "") fun depth width => ?_
    simp only [render, String.append_empty]
  | noElse => exact appendsLines_nothing
  | otherwise blank inner ih => exact (appendsLines_writeLine _).then ih.body.indented
  | _ => trivial

end Tree

end Offside
