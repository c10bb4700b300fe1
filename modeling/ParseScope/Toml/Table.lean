import ParseScope.Settings.Value

/-!
Tables built from the lines of a TOML text. A table is defined once: by a header, by dotted keys, or
in a single value.
-/
namespace ParseScope.Toml

open Settings (Value)

/-- How a table came to be: by its own header, on the way to another table's header, or on the way
of a dotted key. -/
inductive Origin
  | header
  | path
  | dotted
  deriving DecidableEq, Repr

inductive Node
  | value (value : Value)
  | table (origin : Origin) (entries : List (String × Node))
  /-- The tables of a list of tables, the latest first. -/
  | tables (latest : List (String × Node)) (earlier : List (List (String × Node)))

abbrev Entries := List (String × Node)

def find? (key : String) (entries : Entries) : Option Node :=
  (entries.find? (·.1 = key)).map (·.2)

def put (key : String) (node : Node) : Entries → Entries
  | [] => [(key, node)]
  | (name, old) :: rest =>
    if name = key then (key, node) :: rest else (name, old) :: put key node rest

/-- Changes the table at the end of a path of headers, making the tables on the way. -/
def within (change : Entries → Option Entries) : List String → Entries → Option Entries
  | [], entries => change entries
  | key :: rest, entries =>
    match (find? key entries).getD (.table .path []) with
    | .value _ => none
    | .table origin inner =>
      (within change rest inner).map fun inner => put key (.table origin inner) entries
    | .tables latest earlier =>
      (within change rest latest).map fun latest => put key (.tables latest earlier) entries

/-- Defines the table of a header. -/
def define (key : String) (entries : Entries) : Option Entries :=
  match find? key entries with
  | none => some (put key (.table .header []) entries)
  | some (.table .path inner) => some (put key (.table .header inner) entries)
  | some _ => none

/-- Adds a table to a list of tables. -/
def extend (key : String) (entries : Entries) : Option Entries :=
  match find? key entries with
  | none => some (put key (.tables [] []) entries)
  | some (.tables latest earlier) => some (put key (.tables [] (latest :: earlier)) entries)
  | some _ => none

/-- Sets a value at a dotted key. None of the tables on the way has a header of its own, and the
last of them was made by dotted keys; `takes` tells whether the table at hand may take the value. -/
def set (value : Value) (takes : Bool) : List String → Entries → Option Entries
  | [], _ => none
  | [key], entries =>
    match find? key entries with
    | none => if takes then some (put key (.value value) entries) else none
    | some _ => none
  | key :: rest, entries =>
    match (find? key entries).getD (.table .dotted []) with
    | .value _ | .table .header _ => none
    | .table .path inner =>
      (set value false rest inner).map fun inner => put key (.table .path inner) entries
    | .table .dotted inner =>
      (set value true rest inner).map fun inner => put key (.table .dotted inner) entries
    | .tables latest earlier =>
      (set value false rest latest).map fun latest => put key (.tables latest earlier) entries

mutual

/-- The finished value of a node. -/
def Node.finish : Node → Value
  | .value value => value
  | .table _ entries => .table (finishAll entries)
  | .tables latest earlier => .list (listAll earlier [.table (finishAll latest)])

/-- The finished tables of a list, the latest of them first, before `later`. -/
def listAll : List (List (String × Node)) → List Value → List Value
  | [], later => later
  | entries :: rest, later => listAll rest (.table (finishAll entries) :: later)

def finishAll : List (String × Node) → List (String × Value)
  | [] => []
  | (key, node) :: rest => (key, node.finish) :: finishAll rest

end

end ParseScope.Toml
