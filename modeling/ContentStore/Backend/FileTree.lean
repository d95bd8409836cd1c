import ContentStore.Refusal
import ContentStore.Text.Pieces

/-!
# Bytes in a file tree

A tree of plain files and folders under a root, and the question whether a plain file lies at a
path. A path that could leave the root is refused before the tree is looked at; a path through a
plain file, with a NUL, or with a name that is too long is a failure of the file system, and one
that ends nowhere is just absent.
-/

namespace ContentStore

/-- The paths of the plain files and of the folders, as lists of names from the root. A folder
above any of them exists as well. -/
structure FileTree where
  files : List (List String)
  folders : List (List String)
  deriving Repr

namespace FileTree

/-- What lies at a path. -/
inductive Kind where
  | file
  | folder
  deriving DecidableEq, Repr

/-- A root without anything. -/
def empty : FileTree :=
  ⟨[], []⟩

/-- What lies at a path, if anything. -/
def kind? (t : FileTree) (path : List String) : Option Kind :=
  if t.files.contains path then some .file
  else if t.folders.any path.isPrefixOf || t.files.any path.isPrefixOf || path = [] then
    some .folder
  else none

/-- The bytes a name may have. -/
def maxNameBytes : Nat := 255

/-- The bytes a whole path may have. -/
def maxPathBytes : Nat := 4095

/-- A path that the file system refuses to follow, in its words. -/
inductive Fault where
  | notFolder
  | nameTooLong
  | nulByte
  deriving DecidableEq, Repr

@[inherit_doc Fault]
def Fault.message : Fault → String
  | .notFolder => "Not a directory (os error 20)"
  | .nameTooLong => "File name too long (os error 36)"
  | .nulByte => "file name contained an unexpected NUL byte"

/-- Follows names from the folder `here`. Empty names and single points stay where they are. -/
def follow (t : FileTree) (here : List String) : List String → Except Fault (Option Kind)
  | [] => .ok (some .folder)
  | name :: rest =>
    if name = "" ∨ name = "." then t.follow here rest
    else if name.utf8ByteSize > maxNameBytes then .error .nameTooLong
    else
      match t.kind? (here ++ [name]) with
      | none => .ok none
      | some .folder => t.follow (here ++ [name]) rest
      | some .file => if rest = [] then .ok (some .file) else .error .notFolder

/-- The names of a path. -/
def names (path : String) : List String :=
  (Text.pieces (· = '/') path.toList).map String.ofList

/-- The names of a path that lead somewhere. -/
def steps (path : String) : List String :=
  (names path).filter fun name => name ≠ "" && name ≠ "."

/-- What lies at a path below a root whose own path has `rootBytes` bytes. -/
def lookup (t : FileTree) (rootBytes : Nat) (path : String) : Except Fault (Option Kind) :=
  if path.toList.contains '\x00' then .error .nulByte
  else if rootBytes + 1 + path.utf8ByteSize > maxPathBytes then .error .nameTooLong
  else t.follow [] (names path)

/-- Whether two points follow each other. -/
def hasDoublePoint : List Char → Bool
  | '.' :: '.' :: _ => true
  | _ :: rest => hasDoublePoint rest
  | [] => false

/-- Whether a path could leave the root, or names nothing. -/
def leavesRoot (path : String) : Bool :=
  path = "" || path.toList.head? = some '/' || hasDoublePoint path.toList

/-- Whether a plain file lies at a path. -/
def holds (t : FileTree) (root path : String) : Except Refusal Bool :=
  if leavesRoot path then .error (.backend s!"refusing path `{path}`")
  else
    match t.lookup root.utf8ByteSize path with
    | .ok kind => .ok (kind = some .file)
    | .error fault => .error (.fileSystem fault.message)

/-- The tree with a plain file at a path. -/
def addFile (t : FileTree) (path : String) : FileTree :=
  { t with files := steps path :: t.files }

/-- The tree with a folder at a path. -/
def addFolder (t : FileTree) (path : String) : FileTree :=
  { t with folders := steps path :: t.folders }

/-- The tree without the plain file at a path; the folders above it stay. -/
def removeFile (t : FileTree) (path : String) : FileTree :=
  let gone := steps path
  { files := t.files.filter (· ≠ gone), folders := gone.dropLast :: t.folders }

end FileTree
end ContentStore
