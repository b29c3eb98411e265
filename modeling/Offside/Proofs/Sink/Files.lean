import Mathlib
import Offside.FileTree

/-!
# What has been written can be read

A path is read through the directories that are there, and putting a file into
one of them takes none of them away. So a path leads to the same directory after
the writing as before, and its last name, which was the name of a file or of
nothing, is now the name of the file that was put there. What the other files
hold is not touched.
-/

namespace Offside.FileTree

variable {tree tree' : FileTree} {path name : String} {bytes : ByteArray}
  {names other directory : List String} {fault : IoFault}

/-! ## Putting a file under its names -/

theorem contents?_put_self (tree : FileTree) (names : List String) (bytes : ByteArray) :
    (tree.put names bytes).contents? names = some bytes :=
  List.lookup_cons_self

theorem contents?_put_of_ne (different : other ≠ names) :
    (tree.put names bytes).contents? other = tree.contents? other := by
  obtain ⟨files⟩ := tree
  unfold put contents?
  rw [List.lookup_cons, beq_false_of_ne different]
  dsimp only
  induction files with
  | nil => rfl
  | cons file files ih =>
    obtain ⟨held, content⟩ := file
    by_cases same : held = names
    · subst same
      rw [List.filter_cons_of_neg (by simp), ih, List.lookup_cons, beq_false_of_ne different]
    · rw [List.filter_cons_of_pos (by simpa using same), List.lookup_cons, List.lookup_cons, ih]

/-- A directory that there is stays one. -/
theorem isDirectory_put (is : tree.isDirectory other = true) :
    (tree.put names bytes).isDirectory other = true := by
  simp only [isDirectory, Bool.or_eq_true] at is ⊢
  refine is.imp_right fun below => ?_
  obtain ⟨file, member, under⟩ := List.any_eq_true.1 below
  refine List.any_eq_true.2 ?_
  by_cases same : file.1 = names
  · exact ⟨(names, bytes), List.mem_cons_self, same ▸ under⟩
  · exact ⟨file, List.mem_cons_of_mem _ (List.mem_filter.2 ⟨member, by simpa using same⟩), under⟩

/-- The names of a file do not become those of a directory when it is put there. -/
theorem not_isDirectory_put (no : tree.isDirectory names = false) :
    (tree.put names bytes).isDirectory names = false := by
  simp only [isDirectory, Bool.or_eq_false_iff] at no ⊢
  refine ⟨no.1, List.any_eq_false.2 fun file member => ?_⟩
  rcases List.mem_cons.1 member with rfl | kept
  · simp
  · exact List.any_eq_false.1 no.2 file (List.mem_filter.1 kept).1

/-! ## Following a path -/

theorem enter_put (entered : tree.enter directory other = .ok names) {put : List String} :
    (tree.put put bytes).enter directory other = .ok names := by
  induction other generalizing directory with
  | nil => exact entered
  | cons name others ih =>
    unfold enter at entered ⊢
    split at entered
    · next nowhere =>
      rw [if_pos nowhere]
      exact ih entered
    · next somewhere =>
      rw [if_neg somewhere]
      split at entered
      · next up =>
        rw [if_pos up]
        exact ih entered
      · next down =>
        rw [if_neg down]
        split at entered
        · cases entered
        · next short =>
          rw [if_neg short]
          dsimp only at entered ⊢
          split at entered
          · next is =>
            rw [if_pos (isDirectory_put is)]
            exact ih entered
          · split at entered <;> cases entered

/-- The place is a file or a free name, and so can be written. -/
def Place.IsOpen (place : Place) (names : List String) : Prop :=
  place = .file names ∨ place = .vacant names

theorem look_put {place : Place} (looked : tree.look directory name = .ok place)
    (isOpen : place.IsOpen names) :
    (tree.put names bytes).look directory name = .ok (.file names) := by
  unfold look at looked ⊢
  split at looked
  · cases looked
    rcases isOpen with same | same <;> cases same
  · next proper =>
    rw [if_neg proper]
    split at looked
    · cases looked
    · next short =>
      rw [if_neg short]
      dsimp only at looked ⊢
      split at looked
      · cases looked
        rcases isOpen with same | same <;> cases same
      · next no =>
        -- Whether the name was taken or not, it is looked up under the same names.
        have reached : directory ++ [name] = names := by
          split at looked <;> cases looked <;> rcases isOpen with same | same <;> cases same <;> rfl
        rw [reached] at no ⊢
        rw [if_neg (by rw [not_isDirectory_put (Bool.eq_false_of_not_eq_true no)]; decide),
          contents?_put_self]

/-! ## Writing a path -/

/-- The path leads to a file, or to a free name in a directory that there is. -/
def Writable (tree : FileTree) (path : String) : Prop :=
  asksForDirectory path = false ∧ ∃ place names, tree.place path = .ok place ∧ place.IsOpen names

/-- A path that can be written is written by putting the file under its names. -/
theorem write_eq_ok_iff : tree.write path bytes = .ok tree' ↔
    asksForDirectory path = false ∧ ∃ place names, tree.place path = .ok place ∧
      place.IsOpen names ∧ tree' = tree.put names bytes := by
  unfold write place Place.IsOpen
  cases found : tree.directoryOf path with
  | error fault => simp
  | ok directory =>
    cases asks : asksForDirectory path with
    | true => simp
    | false =>
      dsimp only
      cases looked : tree.look directory (lastName path) with
      | error fault => simp
      | ok place => cases place <;> simp [eq_comm]

theorem exists_write (writable : tree.Writable path) (bytes : ByteArray) :
    ∃ tree', tree.write path bytes = .ok tree' := by
  obtain ⟨proper, place, names, found, isOpen⟩ := writable
  exact ⟨_, write_eq_ok_iff.2 ⟨proper, place, names, found, isOpen, rfl⟩⟩

theorem exists_refusal (closed : ¬tree.Writable path) (bytes : ByteArray) :
    ∃ fault, tree.write path bytes = .error fault := by
  cases written : tree.write path bytes with
  | error fault => exact ⟨fault, rfl⟩
  | ok tree' =>
    obtain ⟨proper, place, names, found, isOpen, -⟩ := write_eq_ok_iff.1 written
    exact absurd ⟨proper, place, names, found, isOpen⟩ closed

theorem place_put {place : Place} (found : tree.place path = .ok place)
    (isOpen : place.IsOpen names) : (tree.put names bytes).place path = .ok (.file names) := by
  unfold FileTree.place directoryOf at found ⊢
  split at found
  · cases found
  · next directory entered =>
    split at entered
    · cases entered
    · next short =>
      rw [if_neg short, enter_put entered]
      exact look_put found isOpen

/-- A file that has been written holds what was written. -/
theorem read_of_write (written : tree.write path bytes = .ok tree') :
    tree'.read path = .ok bytes := by
  obtain ⟨proper, place, names, found, isOpen, rfl⟩ := write_eq_ok_iff.1 written
  rw [read, place_put found isOpen]
  dsimp only
  rw [if_neg (by rw [proper]; decide), contents?_put_self]

/-- What the file holds is a text if a text was written. -/
theorem readText_of_write {text : String} (written : tree.write path text.toUTF8 = .ok tree') :
    tree'.readText path = .ok text := by
  have decoded : String.fromUTF8? text.toUTF8 = some text := dif_pos text.isValidUTF8
  rw [readText, read_of_write written]
  dsimp only
  rw [decoded]

/-- The other files hold what they held. -/
theorem contents?_of_write (written : tree.write path bytes = .ok tree')
    (elsewhere : ∀ place, tree.place path = .ok place → ¬place.IsOpen other) :
    tree'.contents? other = tree.contents? other := by
  obtain ⟨-, place, names, found, isOpen, rfl⟩ := write_eq_ok_iff.1 written
  refine contents?_put_of_ne ?_
  rintro rfl
  exact elsewhere place found isOpen

end Offside.FileTree
