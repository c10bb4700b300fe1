import ParseScope.Attempt.Report
import ParseScope.Disk
import ParseScope.Document.Attempt

/-!
Attempts read from files.
-/
namespace ParseScope.Attempt

/-- Why an attempt cannot be shown. -/
inductive LoadError
  | unreadable (error : FileError)
  | malformed (error : Document.ReadError)
  | badTrace (error : Trace.WireError)
  deriving DecidableEq, Repr

def LoadError.message : LoadError → String
  | unreadable error => s!"could not read parse attempt: {error.message}"
  | malformed error => s!"malformed parse attempt JSON: {error.message}"
  | badTrace error => error.message

/-- The attempt that a text holds. -/
def parse (text : String) : Except LoadError Attempt :=
  (ofText text).mapError .malformed

/-- The attempt in a file. -/
def load (disk : Disk) (path : String) : Except LoadError Attempt := do
  parse (← (disk.readText path).mapError .unreadable)

end ParseScope.Attempt
