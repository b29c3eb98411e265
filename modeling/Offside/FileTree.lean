import Offside.Error

/-!
# Files

The files below a directory, each under the names that lead to it. There are as many directories as
the files need. A path is read as names between slashes; names that are empty or `.` lead nowhere,
and `..` leads to the directory above.

A path may leave the directory, upwards or by starting at the root, and it does not come back: there
are directories above it, but nothing is known of what else they hold. Files that are put there are
kept too, behind as many names `..` as lead up to them, or behind `/` if they were reached from the
root.
-/

namespace Offside

/-- Files, each under the names that lead to it from a directory. -/
structure FileTree where
  /-- The names that lead to each file, and what it holds. -/
  files : List (List String × ByteArray)

namespace FileTree

/-- Where a path leads. -/
inductive Place where
  | directory
  | file (names : List String)
  /-- A name that is not taken, in a directory that there is. -/
  | vacant (names : List String)
deriving Repr, DecidableEq

/-- What the file under these names holds, if there is one. -/
def contents? (tree : FileTree) (names : List String) : Option ByteArray :=
  tree.files.lookup names

/-- Whether these names lead to the directory itself or only upwards from it. -/
def isAbove (names : List String) : Bool := names.all (· == "..")

/-- Whether these names lead to a directory. -/
def isDirectory (tree : FileTree) (names : List String) : Bool :=
  isAbove names || names == ["/"] || tree.files.any fun file =>
    names.isPrefixOf file.1 && decide (names.length < file.1.length)

/-- The directory above a directory. The root is above itself. -/
def parent (directory : List String) : List String :=
  if directory = ["/"] then directory
  else if isAbove directory then directory ++ [".."]
  else directory.dropLast

/-- The number of bytes that a name may have. -/
def nameLimit : Nat := 255

/-- The number of bytes that a path may have. -/
def pathLimit : Nat := 4095

/-- The directory that names lead to from a directory. -/
def enter (tree : FileTree) (directory : List String) :
    List String → Except IoFault (List String)
  | [] => .ok directory
  | name :: names =>
    if name = "" ∨ name = "." then tree.enter directory names
    else if name = ".." then tree.enter (parent directory) names
    else if nameLimit < name.utf8ByteSize then .error .nameTooLong
    else
      let reached := directory ++ [name]
      if tree.isDirectory reached then tree.enter reached names
      else match tree.contents? reached with
        | some _ => .error .notDirectory
        | none => .error .notFound

/-- Where a name leads in a directory. -/
def look (tree : FileTree) (directory : List String) (name : String) : Except IoFault Place :=
  if name = "" ∨ name = "." ∨ name = ".." then .ok .directory
  else if nameLimit < name.utf8ByteSize then .error .nameTooLong
  else
    let reached := directory ++ [name]
    if tree.isDirectory reached then .ok .directory
    else match tree.contents? reached with
      | some _ => .ok (.file reached)
      | none => .ok (.vacant reached)

/-- Whether a path ends with a slash, and so asks for a directory. -/
def asksForDirectory (path : String) : Bool := path.toList.getLast? == some '/'

/-- A path without the slashes at its end. -/
def withoutSlashes (path : String) : String :=
  String.ofList (path.toList.reverse.dropWhile (· == '/')).reverse

/-- The names in a path. -/
def namesIn (path : String) : List String := (withoutSlashes path).splitOn "/"

/-- The last name in a path. -/
def lastName (path : String) : String := (namesIn path).getLast?.getD ""

/-- The directory in which the last name of a path is looked up. -/
def directoryOf (tree : FileTree) (path : String) : Except IoFault (List String) :=
  if pathLimit < path.utf8ByteSize then .error .nameTooLong
  else
    let start := if path.toList.head? = some '/' then ["/"] else []
    tree.enter start (namesIn path).dropLast

/-- Where a path leads. -/
def place (tree : FileTree) (path : String) : Except IoFault Place :=
  match tree.directoryOf path with
  | .error fault => .error fault
  | .ok directory => tree.look directory (lastName path)

/-- What the file at a path holds. -/
def read (tree : FileTree) (path : String) : Except IoFault ByteArray :=
  match tree.place path with
  | .error fault => .error fault
  | .ok .directory => .error .isDirectory
  | .ok (.vacant _) => .error .notFound
  | .ok (.file names) =>
    if asksForDirectory path then .error .notDirectory
    else match tree.contents? names with
      | some bytes => .ok bytes
      | none => .error .notFound

/-- The text in the file at a path. -/
def readText (tree : FileTree) (path : String) : Except IoFault String :=
  match tree.read path with
  | .error fault => .error fault
  | .ok bytes => match String.fromUTF8? bytes with
    | some text => .ok text
    | none => .error .notUnicode

/-- The tree in which the file under these names holds these bytes and nothing else is changed. -/
def put (tree : FileTree) (names : List String) (bytes : ByteArray) : FileTree :=
  ⟨(names, bytes) :: tree.files.filter fun file => file.1 != names⟩

/-- Writes the file at a path, in place of the one that was there. A path that asks for a directory
is refused before its last name is looked up. -/
def write (tree : FileTree) (path : String) (bytes : ByteArray) : Except IoFault FileTree :=
  match tree.directoryOf path with
  | .error fault => .error fault
  | .ok directory =>
    if asksForDirectory path then .error .isDirectory
    else match tree.look directory (lastName path) with
      | .error fault => .error fault
      | .ok .directory => .error .isDirectory
      | .ok (.vacant names) | .ok (.file names) => .ok (tree.put names bytes)

/-- Whether these names lead to something below the directory. -/
def isBelow (names : List String) : Bool :=
  match names.head? with
  | some first => first != ".." && first != "/"
  | none => false

/-- The files below the directory that are new in the second tree or hold something else there, with
their paths. -/
def changes (before after : FileTree) : List (String × ByteArray) :=
  (after.files.filter fun file =>
    isBelow file.1 && before.contents? file.1 != some file.2).map fun file =>
      ("/".intercalate file.1, file.2)

end FileTree

end Offside
