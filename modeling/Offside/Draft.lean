import Offside.Text.Column

/-!
# Code in the making

Code consists of a header and a body. The header takes whole lines and knows no margin. The body is
written in pieces, and the margin of a line is decided when its first piece is written, even if that
piece is empty: changing the depth within a line shows from the next line on.
-/

namespace Offside

/-- Code that is being written. -/
structure Draft where
  /-- The number of spaces that make up one level of the margin. -/
  width : Nat
  header : String := ""
  body : String := ""
  /-- The number of levels by which the next line is indented. -/
  depth : Nat := 0
  /-- Whether the last line of the body has been begun and not ended. -/
  lineOpen : Bool := false
deriving Repr, DecidableEq

namespace Draft

/-- The margin that a line gets which is begun now. -/
def margin (draft : Draft) : String := Text.spaces (draft.depth * draft.width)

/-- Writes a piece of a line, after the margin if it is the first one. -/
def write (draft : Draft) (piece : String) : Draft :=
  if draft.lineOpen then { draft with body := draft.body ++ piece }
  else { draft with body := draft.body ++ draft.margin ++ piece, lineOpen := true }

/-- Writes the last piece of a line. -/
def writeLine (draft : Draft) (piece : String) : Draft :=
  let written := draft.write piece
  { written with body := written.body ++ "\n", lineOpen := false }

/-- Writes a line of the header. -/
def writeHeader (draft : Draft) (line : String) : Draft :=
  { draft with header := draft.header ++ line ++ "\n" }

/-- Makes the margin of later lines one level wider. -/
def indent (draft : Draft) : Draft := { draft with depth := draft.depth + 1 }

/-- Makes the margin of later lines one level narrower, if there is one. -/
def dedent (draft : Draft) : Draft := { draft with depth := draft.depth - 1 }

/-- The code as far as it is written. -/
def code (draft : Draft) : String := draft.header ++ draft.body

@[simp] theorem depth_write (draft : Draft) (piece : String) :
    (draft.write piece).depth = draft.depth := by
  unfold write
  split <;> rfl

@[simp] theorem depth_writeLine (draft : Draft) (piece : String) :
    (draft.writeLine piece).depth = draft.depth :=
  draft.depth_write piece

@[simp] theorem lineOpen_write (draft : Draft) (piece : String) :
    (draft.write piece).lineOpen = true := by
  unfold write
  split
  · next is => exact is
  · rfl

end Draft

end Offside
