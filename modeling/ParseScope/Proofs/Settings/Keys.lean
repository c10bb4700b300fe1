import ParseScope.Settings.Layers

/-!
The keys of settings, the values under them, and what is relied on about a library of layered
settings: each of its operations is told by what it does to the values under keys.
-/
namespace ParseScope.Settings

inductive Key
  | treeStyle
  | traceIndent
  | errorSet
  | traceFailureSet
  | grammarSet
  | ruleMatchSet
  | ruleDefinitionSet
  deriving DecidableEq

namespace Key

def group : Key → String
  | treeStyle => "tree"
  | traceIndent => "trace"
  | errorSet | traceFailureSet | grammarSet | ruleMatchSet | ruleDefinitionSet => "highlight"

def name : Key → String
  | treeStyle => "style"
  | traceIndent => "indent"
  | errorSet => "error_set"
  | traceFailureSet => "trace_failure_set"
  | grammarSet => "grammar_set"
  | ruleMatchSet => "rule_match_set"
  | ruleDefinitionSet => "rule_definition_set"

/-- The key as it is written. -/
def dotted (key : Key) : String := key.group ++ "." ++ key.name

/-- What a text for the key amounts to: a style is told by its name in any letter case. -/
def read? (text : String) : Key → Option String
  | treeStyle => (styleOfName? text).map styleName
  | _ => some text

end Key

/-- The text of a key in the settings. -/
def text (settings : Settings) : Key → String
  | .treeStyle => styleName settings.treeStyle
  | .traceIndent => settings.traceIndent
  | .errorSet => settings.errorSet
  | .traceFailureSet => settings.traceFailureSet
  | .grammarSet => settings.grammarSet
  | .ruleMatchSet => settings.ruleMatchSet
  | .ruleDefinitionSet => settings.ruleDefinitionSet

/-! ### Values under keys -/

/-- The value under a name, whatever the letter case of the names. -/
def under? (name : String) (entries : List (String × Value)) : Option Value :=
  (entries.find? (·.1.toLower = name)).map (·.2)

/-- The value that the entries of a source give the key, in the table of its group. -/
def Key.given? (key : Key) (entries : List (String × Value)) : Option Value :=
  (under? key.group entries).bind fun group => under? key.name group.entries

/-- The value that stands under the key in what is built from layers. -/
def Key.value? (key : Key) (root : Value) : Option Value :=
  (lookup key.group root.entries).bind fun group => lookup key.name group.entries

/-- No two names of the entries are the same up to letter case. -/
def Distinct (entries : List (String × Value)) : Prop := (entries.map (·.1.toLower)).Nodup

instance (entries : List (String × Value)) : Decidable (Distinct entries) :=
  inferInstanceAs (Decidable (List.Nodup _))

/-- The entries of a source name keys plainly and give them nothing but texts. What they hold under
other names may be anything. -/
structure Plain (entries : List (String × Value)) : Prop where
  distinct : Distinct entries
  /-- No name reads as a path. -/
  names : ∀ entry ∈ entries, '.' ∉ entry.1.toList ∧ '[' ∉ entry.1.toList
  groups : ∀ (key : Key) (group : Value), under? key.group entries = some group →
    ∃ settings, group = .table settings ∧ Distinct settings
  texts : ∀ (key : Key) (value : Value), key.given? entries = some value →
    ∃ text, value = .string text

/-- What is relied on about a library of layered settings. -/
structure Layering.Lawful [Layering] : Prop where
  /-- A key is a path. -/
  place : ∀ key : Key, ∃ place, Layering.place key.dotted = .ok place
  /-- The text of the defaults is read as it is meant. -/
  defaults : ∀ disk, ∃ entries, collect disk (.text defaultText) = .ok entries ∧ Plain entries ∧
    ∀ key : Key, key.given? entries = some (.string (({} : Settings).text key))
  /-- The last source comes over those before it, key by key. -/
  source : ∀ disk sources source root, build disk (sources ++ [source]) [] = .ok root →
    ∃ entries before, collect disk source = .ok entries ∧ build disk sources [] = .ok before ∧
      (Plain entries → ∀ key : Key, key.value? root = (key.given? entries).or (key.value? before))
  /-- The last single value comes over the sources and the single values before it. -/
  single : ∀ disk sources single (key : Key) place text root,
    Layering.place key.dotted = .ok place →
    build disk sources (single ++ [(place,.string text)]) = .ok root →
    ∃ before, build disk sources single = .ok before ∧ ∀ other : Key,
      other.value? root = if other = key then some (.string text) else other.value? before
  /-- The settings are read off the values under the keys. -/
  settings : ∀ root result (key : Key) text, Layering.settings root = .ok result →
    key.value? root = some (.string text) → key.read? text = some (result.text key)

end ParseScope.Settings
