import ParseScope.Settings.Layering

/-!
Settings from layers: the defaults, then files in the order they were named, then single settings in
the order they were made. A later layer wins key by key.
-/
namespace ParseScope.Settings

/-- Why there are no settings. -/
structure LoadError where
  cause : String
  deriving DecidableEq, Repr

def LoadError.message (error : LoadError) : String := s!"configuration error: {error.cause}"

/-- The name of a style in the settings. -/
def styleName : Tree.Style → String
  | .connectors => "connectors"
  | .bars => "bars"

/-- The style of a name, whatever its letter case. -/
def styleOfName? (name : String) : Option Tree.Style :=
  if name.toLower = "connectors" then some .connectors
  else if name.toLower = "bars" then some .bars
  else none

namespace Defaults

def tree : List String :=
  [ "# Default pegview configuration.\n",
    "#\n",
    "# User files passed with `--config` are layered on top of these values, so any\n",
    "# key may be omitted there.\n\n",
    "[tree]\n",
    "# \"connectors\" draws ├─ └─ │ branches; \"bars\" repeats \"│ \" once per depth.\n",
    "style = \"connectors\"\n\n" ]

def trace : List String :=
  [ "[trace]\n",
    "# Repeated once per nesting depth in front of each trace line.\n",
    "indent = \"  \"\n\n" ]

def highlight : List String :=
  [ "[highlight]\n",
    "# Highlight set for the located error span on the input text.\n",
    "error_set = \"error\"\n",
    "# Highlight set marking failed rule names in the rendered trace.\n",
    "trace_failure_set = \"trace-failures\"\n",
    "# Highlight set for grammar compile errors on the grammar source.\n",
    "grammar_set = \"grammar-error\"\n",
    "# Input spans of successful rule matches, each labelled with its rule name.\n",
    "rule_match_set = \"rule-matches\"\n",
    "# Rule names at their definitions in the grammar source.\n",
    "rule_definition_set = \"rules\"\n" ]

end Defaults

/-- The defaults as a source. -/
def defaultText : String :=
  String.join (Defaults.tree ++ Defaults.trace ++ Defaults.highlight)

/-- Sources and single settings, in the order in which they were added. -/
structure Layers [Layering] where
  sources : List Source := [.text defaultText]
  single : List (Layering.Place × Value) := []

namespace Layers

variable [Layering]

def addFile (layers : Layers) (path : String) : Layers :=
  { layers with sources := layers.sources ++ [.file path] }

/-- Sets one value by its path. -/
def set (layers : Layers) (path : String) (value : Value) : Except LoadError Layers := do
  let place ← (Layering.place path).mapError LoadError.mk
  return { layers with single := layers.single ++ [(place, value)] }

def setStyle (layers : Layers) (style : Tree.Style) : Except LoadError Layers :=
  layers.set "tree.style" (.string (styleName style))

def setIndent (layers : Layers) (indent : String) : Except LoadError Layers :=
  layers.set "trace.indent" (.string indent)

/-- Loads the settings. -/
def load (layers : Layers) (disk : Disk) : Except LoadError Settings := do
  let root ← (Layering.build disk layers.sources layers.single).mapError LoadError.mk
  (Layering.settings root).mapError LoadError.mk

end Layers

end ParseScope.Settings
