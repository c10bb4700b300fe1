import ParseScope.Disk

/-!
A tree of files in memory, and its paths: names separated by slashes, where `.` stays and `..` goes
up. Nothing outside the tree has a name.
-/
namespace ParseScope

/-- Files and directories by the names that lead to them. -/
structure FileTree where
  files : List (List String × ByteArray) := []
  directories : List (List String) := []

namespace FileTree

/-- Adds a directory and those it lies in. -/
def addDirectory (tree : FileTree) (names : List String) : FileTree :=
  let outer := (List.range names.length).map fun n => names.take (n + 1)
  { tree with directories := outer ++ tree.directories }

/-- Adds a file and the directories it lies in. -/
def addFile (tree : FileTree) (names : List String) (bytes : ByteArray) : FileTree :=
  { tree.addDirectory names.dropLast with files := (names, bytes) :: tree.files }

def isDirectory (tree : FileTree) (names : List String) : Bool :=
  names.isEmpty || tree.directories.contains names

def file? (tree : FileTree) (names : List String) : Option ByteArray :=
  (tree.files.find? (·.1 = names)).map (·.2)

/-- The names right inside a directory. -/
def childrenOf (tree : FileTree) (names : List String) : List String :=
  ((tree.files.map (·.1) ++ tree.directories).filterMap fun path =>
    if path.dropLast = names then path.getLast? else none).eraseDups

/-- The greatest numbers of bytes in a name and in a path. -/
def maxName : Nat := 255

def maxPath : Nat := 4095

/-- Walks from a directory along the names of a path; `none` is any place outside the tree, where
nothing has a name. An empty name stays, as `.` does. -/
def walk (tree : FileTree) :
    Option (List String) → List String → Except FileError (Option (List String))
  | here, [] => .ok here
  | none, name :: rest =>
    if name.isEmpty || name = "." || name = ".." then tree.walk none rest else .error .notFound
  | some here, name :: rest =>
    if !tree.isDirectory here then .error .notDirectory
    else if name.isEmpty || name = "." then tree.walk (some here) rest
    else if name = ".." then
      tree.walk (if here.isEmpty then none else some here.dropLast) rest
    else if maxName < name.utf8ByteSize then .error .nameTooLong
    else
      let next := here ++ [name]
      if tree.isDirectory next || (tree.file? next).isSome then tree.walk (some next) rest
      else .error .notFound

/-- What stands where a walk ends. -/
def entryAt (tree : FileTree) : Option (List String) → Entry
  | none => .directory []
  | some names =>
    match tree.file? names with
    | some bytes => .file bytes
    | none => .directory (tree.childrenOf names)

/-- What stands at a path; nothing at an empty or an absolute one. -/
def find (tree : FileTree) (path : String) : Except FileError Entry :=
  if path.contains '\x00' then .error .nulInName
  else if path.isEmpty || path.startsWith "/" then .error .notFound
  else if maxPath < path.utf8ByteSize then .error .nameTooLong
  else (tree.walk (some []) (path.splitOn "/")).map tree.entryAt

def disk (tree : FileTree) : Disk := ⟨tree.find⟩

end FileTree

end ParseScope
