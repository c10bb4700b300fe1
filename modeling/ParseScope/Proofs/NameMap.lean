import Mathlib.Data.List.Sort
import ParseScope.NameMap

/-!
Lookups in maps from names. An insertion and an erasure are seen under their own name only, and the
names of a map are those under which something is found.
-/
namespace ParseScope.NameMap

variable {α : Type}

/-- What was put under a name is found there. -/
theorem find?_put (name : String) (value : α) (entries : List (String × α)) :
    (put name value entries).find? (·.1 = name) = some (name,value) := by
  induction entries with
  | nil => simp [put]
  | cons entry rest ih =>
    rw [put]
    split
    · simp
    · next notSmaller =>
      split
      · next greater =>
        have other : entry.1 ≠ name := String.ne_of_lt greater
        simp [other,ih]
      · simp

theorem get?_insert (map : NameMap α) (name : String) (value : α) :
    (map.insert name value).get? name = some value := by
  simp [get?,insert,find?_put]

/-- What stands under other names stays. -/
theorem find?_put_of_ne (name other : String) (value : α) (entries : List (String × α))
    (apart : other ≠ name) :
    (put name value entries).find? (·.1 = other) = entries.find? (·.1 = other) := by
  induction entries with
  | nil => simp [put,apart.symm]
  | cons entry rest ih =>
    rw [put]
    split
    · simp [apart.symm]
    · next notSmaller =>
      split
      · rw [List.find?_cons,List.find?_cons,ih]
      · next notGreater =>
        have same : entry.1 = name := String.le_antisymm notSmaller notGreater
        simp [same,apart.symm]

theorem get?_insert_of_ne (map : NameMap α) (name other : String) (value : α)
    (apart : other ≠ name) : (map.insert name value).get? other = map.get? other := by
  rw [get?,get?,insert,find?_put_of_ne name other value _ apart]

theorem put_put (name : String) (first second : α) (entries : List (String × α)) :
    put name second (put name first entries) = put name second entries := by
  induction entries with
  | nil => simp [put]
  | cons entry rest ih =>
    by_cases smaller : name < entry.1
    · simp [put,smaller]
    · by_cases greater : entry.1 < name
      · simp [put,smaller,greater,ih]
      · simp [put,smaller,greater]

/-- Nothing is left of what an insertion replaces. -/
theorem insert_insert (map : NameMap α) (name : String) (first second : α) :
    (map.insert name first).insert name second = map.insert name second := by
  simp only [insert,put_put]

theorem get?_erase (map : NameMap α) (name : String) : (map.erase name).get? name = none := by
  simp [get?,erase]

theorem find?_filter_of_ne (name other : String) (entries : List (String × α))
    (apart : other ≠ name) :
    (entries.filter (·.1 ≠ name)).find? (·.1 = other) = entries.find? (·.1 = other) := by
  induction entries with
  | nil => rfl
  | cons entry rest ih =>
    by_cases removed : entry.1 = name
    · have noOther : entry.1 ≠ other := removed ▸ apart.symm
      rw [List.filter_cons_of_neg (by simp [removed]),ih,
        List.find?_cons_of_neg (by simpa using noOther)]
    · rw [List.filter_cons_of_pos (by simpa using removed),List.find?_cons,List.find?_cons,ih]

theorem get?_erase_of_ne (map : NameMap α) (name other : String) (apart : other ≠ name) :
    (map.erase name).get? other = map.get? other := by
  rw [get?,get?,erase,find?_filter_of_ne name other _ apart]

/-- The entries of a map are what is found in it. -/
theorem mem_entries_iff (map : NameMap α) (name : String) (value : α) :
    (name,value) ∈ map.entries ↔ map.get? name = some value := by
  rw [get?]
  have ascending := map.ascending
  generalize map.entries = entries at ascending
  induction entries with
  | nil => simp
  | cons entry rest ih =>
    obtain ⟨above,ascending⟩ := List.pairwise_cons.mp ascending
    by_cases same : entry.1 = name
    · subst same
      have absent : (entry.1,value) ∉ rest := fun member =>
        String.lt_irrefl entry.1 (above (entry.1,value) member)
      rw [List.find?_cons_of_pos (by simp),List.mem_cons,or_iff_left absent]
      simp [Prod.ext_iff,eq_comm]
    · have other : (name,value) ≠ entry := fun whole => same (congrArg Prod.fst whole).symm
      rw [List.find?_cons_of_neg (by simpa using same),List.mem_cons,or_iff_right other]
      exact ih ascending

/-- Maps in which the same is found are equal. -/
theorem ext_get? {map other : NameMap α} (same : ∀ name, map.get? name = other.get? name) :
    map = other := by
  have entries : map.entries = other.entries := by
    have irreflexive : Std.Irrefl fun a b : String × α => a.1 < b.1 :=
      ⟨fun entry => String.lt_irrefl entry.1⟩
    have antisymmetric : Std.Antisymm fun a b : String × α => a.1 < b.1 :=
      ⟨fun _ _ less greater => absurd greater (String.lt_asymm less)⟩
    refine map.ascending.eq_of_mem_iff other.ascending fun (name,value) => ?_
    rw [mem_entries_iff,mem_entries_iff,same]
  cases map
  cases other
  simpa using entries

/-! ### Names -/

theorem mem_names_iff (map : NameMap α) (name : String) :
    name ∈ map.names ↔ ∃ value, map.get? name = some value := by
  rw [names,get?,List.mem_map]
  constructor
  · rintro ⟨entry,member,rfl⟩
    have found : (map.entries.find? (·.1 = entry.1)).isSome = true :=
      List.find?_isSome.mpr ⟨entry,member,by simp⟩
    obtain ⟨other,found⟩ := Option.isSome_iff_exists.mp found
    exact ⟨other.2,by rw [found,Option.map_some]⟩
  · rintro ⟨value,found⟩
    obtain ⟨entry,found,_⟩ := Option.map_eq_some_iff.mp found
    exact ⟨entry,List.mem_of_find?_eq_some found,by simpa using List.find?_some found⟩

theorem names_ascending (map : NameMap α) : map.names.Pairwise (· < ·) :=
  List.pairwise_map.mpr map.ascending

theorem mem_names_insert_iff (map : NameMap α) (name other : String) (value : α) :
    other ∈ (map.insert name value).names ↔ other = name ∨ other ∈ map.names := by
  rw [mem_names_iff,mem_names_iff]
  by_cases same : other = name
  · subst same
    simp [get?_insert]
  · simp [get?_insert_of_ne map name other value same,same]

theorem mem_names_foldl_insert_iff (added : List String) (map : NameMap Unit) (name : String) :
    name ∈ (added.foldl (fun map name => map.insert name ()) map).names ↔
      name ∈ added ∨ name ∈ map.names := by
  induction added generalizing map with
  | nil => simp
  | cons first added ih =>
    rw [List.foldl_cons,ih,mem_names_insert_iff,List.mem_cons,or_left_comm,or_assoc]

end ParseScope.NameMap
