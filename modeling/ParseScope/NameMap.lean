/-!
Maps from names to values, kept in ascending order of names (by code point), so that two maps with
the same lookups are equal.
-/
namespace ParseScope

namespace NameMap

variable {α : Type}

/-- Puts `value` under `name` into entries in ascending order. -/
def put (name : String) (value : α) : List (String × α) → List (String × α)
  | [] => [(name, value)]
  | entry :: rest =>
    if name < entry.1 then (name, value) :: entry :: rest
    else if entry.1 < name then entry :: put name value rest
    else (name, value) :: rest

theorem fst_of_mem_put {name : String} {value : α} {entries : List (String × α)}
    {entry : String × α} (h : entry ∈ put name value entries) :
    entry.1 = name ∨ entry ∈ entries := by
  induction entries with
  | nil => simp_all [put]
  | cons first rest ih =>
    rw [put] at h
    split at h
    · rcases List.mem_cons.1 h with rfl | h
      · exact .inl rfl
      · exact .inr h
    · split at h
      · rcases List.mem_cons.1 h with rfl | h
        · simp
        · rcases ih h with h | h
          · exact .inl h
          · exact .inr (List.mem_cons_of_mem _ h)
      · rcases List.mem_cons.1 h with rfl | h
        · exact .inl rfl
        · exact .inr (List.mem_cons_of_mem _ h)

theorem pairwise_put {name : String} {value : α} {entries : List (String × α)}
    (h : entries.Pairwise (fun a b => a.1 < b.1)) :
    (put name value entries).Pairwise (fun a b => a.1 < b.1) := by
  induction entries with
  | nil => simp [put]
  | cons first rest ih =>
    obtain ⟨below, ordered⟩ := List.pairwise_cons.1 h
    rw [put]
    split
    · next smaller =>
      refine List.pairwise_cons.2 ⟨fun entry member => ?_, h⟩
      rcases List.mem_cons.1 member with rfl | member
      · exact smaller
      · exact String.lt_trans smaller (below _ member)
    · split
      · next greater =>
        refine List.pairwise_cons.2 ⟨fun entry member => ?_, ih ordered⟩
        rcases fst_of_mem_put member with same | member
        · exact same ▸ greater
        · exact below _ member
      · next notSmaller notGreater =>
        have same : first.1 = name := String.le_antisymm notSmaller notGreater
        exact List.pairwise_cons.2 ⟨fun entry member => same ▸ below _ member, ordered⟩

end NameMap

/-- A finite map from names; its entries ascend strictly by name. -/
structure NameMap (α : Type) where
  entries : List (String × α) := []
  ascending : entries.Pairwise (fun a b => a.1 < b.1) := by exact List.Pairwise.nil

namespace NameMap

variable {α : Type}

def empty : NameMap α := {}

def get? (map : NameMap α) (name : String) : Option α :=
  (map.entries.find? (·.1 = name)).map (·.2)

/-- The last value inserted under a name is the one kept. -/
def insert (map : NameMap α) (name : String) (value : α) : NameMap α :=
  ⟨put name value map.entries, pairwise_put map.ascending⟩

def erase (map : NameMap α) (name : String) : NameMap α :=
  ⟨map.entries.filter (·.1 ≠ name), map.ascending.filter _⟩

/-- All names, in strictly ascending order. -/
def names (map : NameMap α) : List String := map.entries.map (·.1)

end NameMap

end ParseScope
