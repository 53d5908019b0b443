import ContainerKernel.Text.Bytes

/-!
# File trees

What a program sees of a file system: a tree of files and directories, and the directory that
relative paths start from. A path is a list of names. Reading follows the names from the root, and
fails at the first one that is missing or that stands below something that is no directory.
-/

namespace ContainerKernel

/-- What stands at a path. -/
inductive Entry where
  | file (contents : Bytes)
  | directory
  /-- Something that may not be opened. -/
  | closed
deriving DecidableEq, Repr, Inhabited

/-- Why a path cannot be used. -/
inductive PathFault where
  | missing
  | notDirectory
  | isDirectory
  | refused
  /-- The name or the whole path is longer than file systems allow. -/
  | tooLong
  /-- A name holds a byte that names may not hold. -/
  | invalid
deriving DecidableEq, Repr, Inhabited

/-- The text of a path fault. -/
def PathFault.message : PathFault → Bytes
  | missing => utf8 "no such file or directory"
  | notDirectory => utf8 "not a directory"
  | isDirectory => utf8 "is a directory"
  | refused => utf8 "permission denied"
  | tooLong => utf8 "file name too long"
  | invalid => utf8 "invalid argument"

/-- What was done to a path when it failed. -/
inductive PathAction where
  | opening
  | reading
deriving DecidableEq, Repr, Inhabited

/-- A failure of the file system. -/
structure PathError where
  action : PathAction
  path : Bytes
  fault : PathFault
deriving DecidableEq, Repr, Inhabited

/-- The text of a path error. -/
def PathError.message (error : PathError) : Bytes :=
  (match error.action with
    | .opening => utf8 "open "
    | .reading => utf8 "read ") ++ error.path ++ utf8 ": " ++ error.fault.message

namespace Path

/-- The byte between names. -/
def divider : UInt8 := 47

/-- Whether a path starts at the root. -/
def isAbsolute (path : Bytes) : Bool :=
  path.head? = some divider

/-- The names in a path. -/
def names (path : Bytes) : List Bytes :=
  (path.splitOn divider).filter (· ≠ [])

/-- One name further on a way from the root: a dot stays, and two dots go back. -/
def follow (way : List Bytes) (name : Bytes) : List Bytes :=
  if name = utf8 "." then way
  else if name = utf8 ".." then way.dropLast
  else way ++ [name]

/-- The way from the root that a path describes, when relative paths start from a directory. -/
def absolute (start : List Bytes) (path : Bytes) : List Bytes :=
  (names path).foldl follow (if isAbsolute path then [] else start)

/-- The text of a way from the root. -/
def text (way : List Bytes) : Bytes :=
  if way = [] then [divider] else way.flatMap fun name => divider :: name

/-- The number of bytes that a name may have. -/
def longestName : Nat := 255

/-- The number of bytes that a path may have. -/
def longest : Nat := 4095

/-- Why a path cannot be followed anywhere, whatever files there are. -/
def fault? (path : Bytes) : Option PathFault :=
  if path.contains 0 then some .invalid
  else if path.length > longest then some .tooLong
  else if path = [] then some .missing
  else none

end Path

/-- The files and directories that a program sees. -/
structure FileTree where
  /-- The directory that relative paths start from. -/
  workingDirectory : List Bytes
  /-- The entries by their ways from the root; the directories on the ways need no entries. -/
  entries : List (List Bytes × Entry)
deriving DecidableEq, Repr, Inhabited

namespace FileTree

/-- What stands at the end of a way from the root. -/
def entry? (tree : FileTree) (way : List Bytes) : Option Entry :=
  if way = [] ∨ way = tree.workingDirectory then some .directory
  else
    match tree.entries.lookup way with
    | some entry => some entry
    | none =>
      if way.isPrefixOf tree.workingDirectory || tree.entries.any (way.isPrefixOf ·.1) then
        some .directory
      else none

/-- Follow names from a place, all but the last of which have to be directories. -/
def walk (tree : FileTree) : List Bytes → List Bytes → Except PathFault (List Bytes)
  | place, [] => .ok place
  | place, name :: rest =>
    match tree.entry? place with
    | some .directory =>
      if name.length > Path.longestName then .error .tooLong
      else tree.walk (Path.follow place name) rest
    | some _ => .error .notDirectory
    | none => .error .missing

/-- What stands at a path, which is followed name by name. -/
def find (tree : FileTree) (path : Bytes) : Except PathFault (List Bytes × Entry) := do
  match Path.fault? path with
  | some fault => throw fault
  | none =>
    let start := if Path.isAbsolute path then [] else tree.workingDirectory
    let way ← tree.walk start (Path.names path)
    match tree.entry? way with
    | some entry => return (way, entry)
    | none => throw .missing

/-- The contents of the file at a way from the root. -/
def read (tree : FileTree) (way : List Bytes) : Except PathError Bytes :=
  let path := Path.text way
  match tree.find path with
  | .error fault => .error ⟨.opening, path, fault⟩
  | .ok (_, .closed) => .error ⟨.opening, path, .refused⟩
  | .ok (_, .directory) => .error ⟨.reading, path, .isDirectory⟩
  | .ok (_, .file contents) => .ok contents

/-- The names of what stands in a directory and is none itself, in the order of bytes. -/
def filesIn (tree : FileTree) (way : List Bytes) : List Bytes :=
  (tree.entries.filterMap fun (path, entry) =>
    if entry ≠ .directory && path.dropLast = way then path.getLast? else none).mergeSort inOrder

/-- The names of the files in the directory of a path. -/
def list (tree : FileTree) (path : Bytes) : Except PathError (List Bytes) :=
  match tree.find path with
  | .error fault => .error ⟨.opening, path, fault⟩
  | .ok (way, .directory) => .ok (tree.filesIn way)
  | .ok (_, .closed) => .error ⟨.opening, path, .refused⟩
  | .ok (_, .file _) => .error ⟨.opening, path, .notDirectory⟩

end FileTree

end ContainerKernel
