/-!
Values of settings before their types are checked.
-/
namespace ParseScope.Settings

/-- A value as written. -/
inductive Value
  | null
  | bool (value : Bool)
  | integer (value : Int)
  | float (value : Float)
  | string (value : String)
  | list (items : List Value)
  | table (entries : List (String × Value))
  deriving Repr, Inhabited

namespace Value

/-- The entries of a table; any other value counts as an empty one. -/
def entries : Value → List (String × Value)
  | table entries => entries
  | _ => []

/-- The items of a list; any other value counts as an empty one. -/
def items : Value → List Value
  | list items => items
  | _ => []

end Value

/-- The value under a key. -/
def lookup (key : String) : List (String × Value) → Option Value
  | [] => none
  | (name, value) :: rest => if name = key then some value else lookup key rest

/-- Puts a value under a key, in the place of the one before. -/
def assign (key : String) (value : Value) : List (String × Value) → List (String × Value)
  | [] => [(key, value)]
  | (name, old) :: rest =>
    if name = key then (key, value) :: rest else (name, old) :: assign key value rest

/-- Puts a value under a key. Letter case does not count in keys. A table is merged entry by entry
into what was there; anything else replaces it. -/
def merge (key : String) (value : Value) (entries : List (String × Value)) :
    List (String × Value) :=
  let key := key.toLower
  match value with
  | .table [] =>
    match lookup key entries with
    | some _ => entries
    | none => assign key (.table []) entries
  | .table incoming =>
    assign key (.table (mergeAll incoming (((lookup key entries).map Value.entries).getD []))) entries
  | other => assign key other entries
where
  /-- Merges entries in their order. -/
  mergeAll : List (String × Value) → List (String × Value) → List (String × Value)
    | [], entries => entries
    | (name, value) :: rest, entries => mergeAll rest (merge name value entries)

/-- The place that an index means among `length` items: a negative one counts from the end. -/
def placeOf (index : Int) (length : Nat) : Nat :=
  if index < 0 then (length + index).toNat else index.toNat

/-- Changes the item at an index. A list that ends before it is filled up with nulls. -/
def changeAt (index : Int) (change : Value → Value) (items : List Value) : List Value :=
  let place := placeOf index items.length
  (items ++ List.replicate (place + 1 - items.length) Value.null).modify place change

end ParseScope.Settings
