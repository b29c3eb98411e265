import Offside.FileTree

/-!
# Where finished code goes

A sink is handed all of the code at once, when the whole program has been compiled. A text and a
sequence of bytes are added to, and a file is replaced. A buffer that is too small takes as much as
it has room for.
-/

namespace Offside

/-- A destination of finished code, with what it holds. -/
inductive Sink where
  | text (held : String)
  | bytes (held : ByteArray)
  | file (tree : FileTree) (path : String)
  | buffer (held : ByteArray) (room : Nat)

/-- Hands finished code to a sink. -/
def Sink.commit (sink : Sink) (code : String) : Except Error Unit × Sink :=
  match sink with
  | .text held => (.ok (), .text (held ++ code))
  | .bytes held => (.ok (), .bytes (held ++ code.toUTF8))
  | .file tree path =>
    match tree.write path code.toUTF8 with
    | .ok tree => (.ok (), .file tree path)
    | .error fault => (.error (.io fault), .file tree path)
  | .buffer held room =>
    let bytes := code.toUTF8
    if bytes.size ≤ room then (.ok (), .buffer (held ++ bytes) (room - bytes.size))
    else (.error (.io .bufferFull), .buffer (held ++ bytes.extract 0 room) 0)

end Offside
