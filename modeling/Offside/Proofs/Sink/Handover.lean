import Mathlib
import Offside.Compile
import Offside.Proofs.Sink.Files

/-!
# Handing code over

A source may be compiled for its code or into a sink, and the two agree: it is
the same run, and only its end differs. A sink takes no part in the run, so an
error leaves it as it was, and otherwise it is handed all of the code in one
piece. What it holds then depends on the sink alone. A buffer that is too small
is the only one that holds a part of the code, and it tells so.
-/

namespace Offside

variable {source code : String} {width : Nat} {error : Error}

/-- Compiling into a sink is compiling, and handing the code over if there is any. -/
theorem compileInto_eq (source : String) (width : Nat) (sink : Sink) :
    compileInto source width sink = match compile source width with
      | .ok code => sink.commit code
      | .error error => (.error error, sink) := by
  unfold compileInto compile compileLogged
  cases Session.start source width .python with
  | error failure => rfl
  | ok s =>
    dsimp only
    cases s.program with
    | done s' => rfl
    | halted error s' => rfl

namespace Sink

/-- A path that can be written gets the code in place of what was there, and no other file is
touched. -/
theorem commit_writable {tree : FileTree} {path : String} (writable : tree.Writable path)
    (code : String) : ∃ tree', (file tree path).commit code = (.ok (), .file tree' path) ∧
      tree'.readText path = .ok code ∧
      ∀ names, (∀ place, tree.place path = .ok place → ¬place.IsOpen names) →
        tree'.contents? names = tree.contents? names := by
  obtain ⟨tree', written⟩ := FileTree.exists_write writable code.toUTF8
  refine ⟨tree', ?_, FileTree.readText_of_write written,
    fun names => FileTree.contents?_of_write written⟩
  unfold commit
  dsimp only
  rw [written]

/-- A path that cannot be written is left as it is. -/
theorem commit_closed {tree : FileTree} {path : String} (closed : ¬tree.Writable path)
    (code : String) : ∃ fault,
      (file tree path).commit code = (.error (.io fault), .file tree path) := by
  obtain ⟨fault, refused⟩ := FileTree.exists_refusal closed code.toUTF8
  refine ⟨fault, ?_⟩
  unfold commit
  dsimp only
  rw [refused]

/-- A buffer takes as much of the code as it has room for, and tells whether that was all. -/
theorem commit_buffer (held : ByteArray) (room : Nat) (code : String) : ∃ result,
    (buffer held room).commit code =
      (result, .buffer (held ++ code.toUTF8.extract 0 (min room code.utf8ByteSize))
        (room - code.utf8ByteSize)) ∧
      result = if code.utf8ByteSize ≤ room then .ok () else .error (.io .bufferFull) := by
  refine ⟨_, ?_, rfl⟩
  unfold commit
  dsimp only
  have size : code.toUTF8.size = code.utf8ByteSize := rfl
  rw [size]
  split
  · next fits =>
    rw [Nat.min_eq_right fits, ← size, ByteArray.extract_zero_size]
  · next short =>
    have short := Nat.le_of_not_le short
    rw [Nat.min_eq_left short, Nat.sub_eq_zero_of_le short]

end Sink

/-- Compiling a source into a sink ends with the error with which compiling it for its code ends,
and leaves the sink as it is; or it hands just that code over, once. A text and a sequence of bytes
get it added, a file that can be written holds it and nothing else, and a buffer holds as much of it
as there is room for, which is an error if it is not all. -/
theorem compileInto_commits (source : String) (width : Nat) :
    (∀ error, compile source width = .error error →
      ∀ sink, compileInto source width sink = (.error error, sink)) ∧
    ∀ code, compile source width = .ok code →
      (∀ sink, compileInto source width sink = sink.commit code) ∧
      (∀ held, compileInto source width (.text held) = (.ok (), .text (held ++ code))) ∧
      (∀ held, compileInto source width (.bytes held) =
        (.ok (), .bytes (held ++ code.toUTF8))) ∧
      (∀ tree path, tree.Writable path → ∃ tree',
        compileInto source width (.file tree path) = (.ok (), .file tree' path) ∧
          tree'.readText path = .ok code ∧
          ∀ names, (∀ place, tree.place path = .ok place → ¬place.IsOpen names) →
            tree'.contents? names = tree.contents? names) ∧
      (∀ tree path, ¬tree.Writable path → ∃ fault,
        compileInto source width (.file tree path) = (.error (.io fault), .file tree path)) ∧
      ∀ held room, ∃ result, compileInto source width (.buffer held room) =
          (result, .buffer (held ++ code.toUTF8.extract 0 (min room code.utf8ByteSize))
            (room - code.utf8ByteSize)) ∧
        result = if code.utf8ByteSize ≤ room then .ok () else .error (.io .bufferFull) := by
  refine ⟨fun error failed sink => by rw [compileInto_eq, failed], fun code compiled => ?_⟩
  have commits (sink : Sink) : compileInto source width sink = sink.commit code := by
    rw [compileInto_eq, compiled]
  refine ⟨commits, fun held => commits _, fun held => commits _, fun tree path writable => ?_,
    fun tree path closed => ?_, fun held room => ?_⟩
  · rw [commits]
    exact Sink.commit_writable writable code
  · rw [commits]
    exact Sink.commit_closed closed code
  · rw [commits]
    exact Sink.commit_buffer held room code

/-- A file is replaced by the code of one source and kept from that of another one, and a buffer of
six bytes takes the first word of the code. -/
theorem compileInto_commits_file :
    (∃ tree, compileInto "PRINT 1" 4 (.file ⟨[(["x"], .empty)]⟩ "x") =
        (.ok (), .file tree "x") ∧ tree.readText "x" = .ok "import sys\nprint(1)\n") ∧
    compileInto "PRINT y" 4 (.file ⟨[(["x"], .empty)]⟩ "x") =
      (.error (.grammatical (.undeclared "y") ⟨6, 7⟩), .file ⟨[(["x"], .empty)]⟩ "x") ∧
    compileInto "PRINT 1" 4 (.buffer .empty 6) =
      (.error (.io .bufferFull), .buffer "import".toUTF8 0) := by
  have compiled : compile "PRINT 1" 4 = .ok "import sys\nprint(1)\n" := by cbv
  have refused : compile "PRINT y" 4 = .error (.grammatical (.undeclared "y") ⟨6, 7⟩) := by cbv
  have names : FileTree.namesIn "x" = ["x"] := by
    rw [FileTree.namesIn, show FileTree.withoutSlashes "x" = "x" by cbv, String.splitOn,
      if_neg (by decide), String.splitOnAux, if_neg (by decide), if_neg (by decide),
      String.splitOnAux, if_pos (by decide)]
    decide
  have found : FileTree.place ⟨[(["x"], .empty)]⟩ "x" = .ok (.file ["x"]) := by
    rw [FileTree.place, FileTree.directoryOf, FileTree.lastName, names]
    cbv
  obtain ⟨-, -, -, files, -, buffers⟩ := (compileInto_commits "PRINT 1" 4).2 _ compiled
  obtain ⟨tree, into, holds, -⟩ := files ⟨[(["x"], .empty)]⟩ "x"
    ⟨by cbv, .file ["x"], ["x"], found, .inl rfl⟩
  obtain ⟨result, into', rfl⟩ := buffers .empty 6
  refine ⟨⟨tree, into, holds⟩, (compileInto_commits "PRINT y" 4).1 _ refused _, ?_⟩
  rw [into']
  rfl

end Offside
