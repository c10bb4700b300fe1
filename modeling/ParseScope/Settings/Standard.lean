import ParseScope.Settings.Layers
import ParseScope.Settings.Path
import ParseScope.Toml.Reader

/-!
A library of layered settings. Sources are put over one another entry by entry, and single values
over what the sources give.
-/
namespace ParseScope.Settings

namespace Standard

/-- A style is a name, or a table with a name as its only key. -/
def styleOf? : Value → Option Tree.Style
  | .string name => styleOfName? name
  | .table [(name, _)] => styleOfName? name
  | _ => none

/-- Numbers and booleans serve as texts too. -/
def textOf? : Value → Option String
  | .string text => some text
  | .integer n => some (toString n)
  | .float x => some (Decimal.positionalText x)
  | .bool b => some (if b then "true" else "false")
  | _ => none

/-- A setting of a group, which is a table with the setting under a key, or a list of the group's
settings with it at a place. -/
def member? (key : String) (place : Nat) : Value → Option Value
  | .table entries => lookup key entries
  | .list items => items[place]?
  | _ => none

/-- The value of a setting of the group `group`, read by `read?`. -/
def find (root : Value) (group key : String) (place : Nat) (read? : Value → Option α) :
    Except String α :=
  match ((lookup group root.entries).bind (member? key place)).bind read? with
  | some result => .ok result
  | none => .error s!"no valid value for key {group}.{key}"

/-- Checks the types of all settings. -/
def ofValue (root : Value) : Except String Settings := do
  return {
    treeStyle := ← find root "tree" "style" 0 styleOf?
    traceIndent := ← find root "trace" "indent" 0 textOf?
    errorSet := ← find root "highlight" "error_set" 0 textOf?
    traceFailureSet := ← find root "highlight" "trace_failure_set" 1 textOf?
    grammarSet := ← find root "highlight" "grammar_set" 2 textOf?
    ruleMatchSet := ← find root "highlight" "rule_match_set" 3 textOf?
    ruleDefinitionSet := ← find root "highlight" "rule_definition_set" 4 textOf? }

/-- The place of a path. -/
def place (path : String) : Except String Path :=
  match Path.parse? path with
  | some steps => .ok steps
  | none => .error s!"failed to parse key {path}"

/-- A text without a byte order mark at its front. -/
def withoutMark : List Char → List Char
  | '\ufeff' :: rest => rest
  | text => text

/-- The places to look for a file of settings: the extension may be left out. -/
def candidates (path : String) : List String := path :: (Disk.extend? path "toml").toList

/-- The text of a source; a file of settings may begin with a byte order mark. -/
def textOf (disk : Disk) : Source → Except String (List Char)
  | .text toml => .ok toml.toList
  | .file path =>
    match (candidates path).find? disk.isFile with
    | some file => ((disk.readText file).map fun text => withoutMark text.toList).mapError
        FileError.message
    | none => .error s!"configuration file {path} not found"

/-- The entries of a source. -/
def collect (disk : Disk) (source : Source) : Except String (List (String × Value)) := do
  match Toml.read? (← textOf disk source) with
  | some entries => return entries
  | none => throw "invalid TOML"

/-- Puts the entries of a source over what was there. A key among them is a path if it reads as
one. -/
def addEntries (root : Value) (entries : List (String × Value)) : Value :=
  entries.foldl (fun root (key, value) =>
    Path.assign value ((Path.parse? key).getD [.key key]) root) root

/-- The value of sources, each over those before it. -/
def layered (disk : Disk) (sources : List Source) : Except String Value :=
  sources.foldlM (fun root source => do return addEntries root (← collect disk source)) (.table [])

/-- Puts single values over what was there. -/
def addSingle (root : Value) (single : List (Path × Value)) : Value :=
  single.foldl (fun root (path, value) => path.assign value root) root

/-- The value of all layers. -/
def build (disk : Disk) (sources : List Source) (single : List (Path × Value)) :
    Except String Value := do
  return addSingle (← layered disk sources) single

end Standard

instance : Layering where
  Place := Path
  place := Standard.place
  collect := Standard.collect
  build := Standard.build
  settings := Standard.ofValue

end ParseScope.Settings
