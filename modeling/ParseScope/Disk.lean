/-!
Files and directories as a command finds them.
-/
namespace ParseScope

/-- Why a file or directory cannot be read. -/
inductive FileError
  | notFound
  | isDirectory
  | notDirectory
  | nameTooLong
  | nulInName
  | notText
  | other (reason : String)
  deriving DecidableEq, Repr

def FileError.message : FileError → String
  | notFound => "No such file or directory (os error 2)"
  | isDirectory => "Is a directory (os error 21)"
  | notDirectory => "Not a directory (os error 20)"
  | nameTooLong => "File name too long (os error 36)"
  | nulInName => "file name contained an unexpected NUL byte"
  | notText => "stream did not contain valid UTF-8"
  | other reason => reason

/-- What stands at a path; a directory lists the names in it, in any order. -/
inductive Entry
  | file (bytes : ByteArray)
  | directory (names : List String)

/-- What is found at each path. -/
structure Disk where
  find : String → Except FileError Entry

namespace Disk

def isFile (disk : Disk) (path : String) : Bool :=
  match disk.find path with
  | .ok (.file _) => true
  | _ => false

def isDirectory (disk : Disk) (path : String) : Bool :=
  match disk.find path with
  | .ok (.directory _) => true
  | _ => false

def readBytes (disk : Disk) (path : String) : Except FileError ByteArray :=
  match disk.find path with
  | .ok (.file bytes) => .ok bytes
  | .ok (.directory _) => .error .isDirectory
  | .error error => .error error

/-- The text of a file, which must be UTF-8. -/
def readText (disk : Disk) (path : String) : Except FileError String := do
  let bytes ← disk.readBytes path
  match String.fromUTF8? bytes with
  | some text => return text
  | none => throw .notText

/-- The names in a directory. -/
def list (disk : Disk) (path : String) : Except FileError (List String) :=
  match disk.find path with
  | .ok (.directory names) => .ok names
  | .ok (.file _) => .error .notDirectory
  | .error error => .error error

/-- The path of a name in a directory. -/
def join (directory name : String) : String :=
  if directory.isEmpty || directory.toList.getLast? = some '/' then directory ++ name
  else directory ++ "/" ++ name

/-- A path with an extension added to its last name. Slashes and single dots after that name are
left out; a path that ends in `..`, or holds no name, has none to add to. -/
def extend? (path extension : String) : Option String :=
  match (path.splitOn "/").reverse.dropWhile fun name => name = "" || name = "." with
  | [] => none
  | name :: outer =>
    if name = ".." then none
    else some (String.intercalate "/" ((name ++ "." ++ extension) :: outer).reverse)

end Disk

end ParseScope
