import ParseScope.NameMap
import ParseScope.Span

/-!
A displayed text with named sets of highlighted spans, plain and labelled. Sets of the two kinds
live side by side under their names; a write replaces the set of its own name and kind only.
-/
namespace ParseScope

/-- A text and the sets shown on it. -/
structure Surface where
  text : String
  plain : NameMap (List Span) := .empty
  labelled : NameMap (List Labelled) := .empty

namespace Surface

def ofText (text : String) : Surface := { text }

/-- The number of characters of the text. -/
def length (surface : Surface) : Nat := surface.text.toList.length

/-- Replaces the plain set `name` by `spans` as they are. -/
def put (surface : Surface) (name : String) (spans : List Span) : Surface :=
  { surface with plain := surface.plain.insert name spans }

/-- Replaces the labelled set `name` by `spans` as they are. -/
def putLabelled (surface : Surface) (name : String) (spans : List Labelled) : Surface :=
  { surface with labelled := surface.labelled.insert name spans }

/-- Replaces the plain set `name` by what `spans` cover of the text, dropping what collapses. -/
def mark (surface : Surface) (name : String) (spans : List Span) : Surface :=
  let length := surface.length
  surface.put name (spans.filterMap (·.cut? length))

/-- Replaces the labelled set `name` by what `spans` cover of the text, dropping what collapses. -/
def markLabelled (surface : Surface) (name : String) (spans : List Labelled) : Surface :=
  let length := surface.length
  surface.putLabelled name (spans.filterMap (·.cut? length))

/-- The plain set under a name. -/
def plain? (surface : Surface) (name : String) : Option (List Span) := surface.plain.get? name

/-- The labelled set under a name. -/
def labelled? (surface : Surface) (name : String) : Option (List Labelled) :=
  surface.labelled.get? name

/-- Removes the sets of both kinds under `name`. -/
def erase (surface : Surface) (name : String) : Surface :=
  { surface with plain := surface.plain.erase name, labelled := surface.labelled.erase name }

/-- Whether a set of either kind is registered under `name`. -/
def contains (surface : Surface) (name : String) : Bool :=
  (surface.plain? name).isSome || (surface.labelled? name).isSome

/-- The names of all sets of either kind, in strictly ascending order. -/
def names (surface : Surface) : List String :=
  (surface.labelled.names.foldl (fun map name => map.insert name ())
    (surface.plain.names.foldl (fun map name => map.insert name ()) NameMap.empty)).names

end Surface

end ParseScope
