/-!
Steps that print as they go, until one of them fails. What was printed before stays printed.
-/
namespace ParseScope.Command

/-- Steps that print; a failure ends them. -/
abbrev Printing (ε α : Type) := ExceptT ε (StateM String) α

namespace Printing

/-- How steps end, and all that is printed then, after what was printed before them. -/
def after (steps : Printing ε α) (printed : String) : Except ε α × String := steps printed

/-- What steps print when none of them fails. -/
def output (steps : Printing ε Unit) : Except ε String :=
  match steps.after "" with
  | (.ok _, printed) => .ok printed
  | (.error error, _) => .error error

end Printing

def print (text : String) : Printing ε Unit := modify (· ++ text)

end ParseScope.Command
