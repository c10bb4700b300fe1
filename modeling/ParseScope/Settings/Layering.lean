import ParseScope.Disk
import ParseScope.Settings.Basic
import ParseScope.Settings.Value

/-!
What a library of layered settings is used for: it reads TOML sources, builds one value from them
and from single values set at places, and checks the types in it. How it does so is left open here.
-/
namespace ParseScope.Settings

/-- A TOML text: one that the program holds, or that of a file, which must exist. -/
inductive Source
  | text (toml : String)
  | file (path : String)
  deriving DecidableEq, Repr

/-- The operations of a library of layered settings; a failure is the text that tells its cause. -/
class Layering where
  /-- Where single values are set. -/
  Place : Type
  /-- The place of a written path. -/
  place : String → Except String Place
  /-- The entries of one source. -/
  collect : Disk → Source → Except String (List (String × Value))
  /-- The value of sources in the order in which they were added, and of single values in theirs. -/
  build : Disk → List Source → List (Place × Value) → Except String Value
  settings : Value → Except String Settings

end ParseScope.Settings
