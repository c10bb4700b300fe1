import ParseScope.Fixture.Basic

/-!
Fixtures read from files. A directory gives its text files in order of their names, whatever the
order in which it lists them.
-/
namespace ParseScope.Fixture

/-- Why a fixture cannot be loaded. -/
inductive LoadError
  | unreadable (path : String) (error : FileError)
  | format (error : FormatError)
  deriving DecidableEq, Repr

def LoadError.message : LoadError → String
  | unreadable path error => s!"could not read fixture {path}: {error.message}"
  | format error => error.message

/-- The fixture in a file. -/
def load (disk : Disk) (path : String) : Except LoadError Fixture := do
  let text ← (disk.readText path).mapError (.unreadable path)
  (parse text).mapError .format

/-- Whether the part of the name after its last dot is `txt`; a dot at the front begins no such
part. -/
def hasTextExtension (name : String) : Bool :=
  let backwards := name.toList.reverse
  ['t', 'x', 't', '.'].isPrefixOf backwards && 4 < backwards.length

/-- Every text file of a directory in ascending order of names; the first that fails decides. -/
def loadDirectory (disk : Disk) (path : String) : Except LoadError (List Fixture) := do
  let names ← (disk.list path).mapError (.unreadable path)
  let chosen := names.filter fun name =>
    hasTextExtension name && disk.isFile (Disk.join path name)
  (chosen.mergeSort (· ≤ ·)).mapM fun name => load disk (Disk.join path name)

end ParseScope.Fixture
