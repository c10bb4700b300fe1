import ParseScope.Proofs.Settings.Keys
import ParseScope.Settings.Path

/-!
Values at paths. A value put under a key is found there, and nothing changes under other keys; a
table that is merged into another one brings its entries in one by one.
-/
namespace ParseScope.Settings

theorem toLower_eq_self {name : String} (lower : name.toList.map Char.toLower = name.toList) :
    name.toLower = name := by
  apply String.toList_injective
  exact String.toList_map.trans lower

/-! ### Tables -/

section Tables

variable (key name : String) (value : Value) (entries : List (String × Value))

theorem lookup_assign : lookup key (assign key value entries) = some value := by
  induction entries with
  | nil => simp [assign,lookup]
  | cons entry rest ih =>
    by_cases here : entry.1 = key
    · simp [assign,lookup,here]
    · simpa [assign,lookup,here] using ih

theorem lookup_assign_of_ne (other : name ≠ key) :
    lookup name (assign key value entries) = lookup name entries := by
  induction entries with
  | nil => simp [assign,lookup,other.symm]
  | cons entry rest ih =>
    by_cases here : entry.1 = key
    · simp [assign,lookup,here,other.symm]
    · by_cases found : entry.1 = name
      · simp [assign,lookup,found,other]
      · simpa [assign,lookup,here,found] using ih

theorem lookup_merge_of_ne (other : name ≠ key.toLower) :
    lookup name (merge key value entries) = lookup name entries := by
  simp only [merge.eq_def]
  split
  · split
    · rfl
    · exact lookup_assign_of_ne _ _ _ _ other
  · exact lookup_assign_of_ne _ _ _ _ other
  · exact lookup_assign_of_ne _ _ _ _ other

theorem lookup_merge_string (text : String) :
    lookup key.toLower (merge key (.string text) entries) = some (.string text) :=
  lookup_assign _ _ _

/-- A table is merged into the one that stands there, or into an empty one. -/
theorem lookup_merge_table (incoming : List (String × Value)) :
    (lookup key.toLower (merge key (.table incoming) entries)).map Value.entries =
      some (merge.mergeAll incoming (((lookup key.toLower entries).map Value.entries).getD [])) := by
  cases incoming with
  | nil =>
    cases found : lookup key.toLower entries with
    | none => simp [merge,merge.mergeAll,found,lookup_assign,Value.entries]
    | some old => simp [merge,merge.mergeAll,found]
  | cons entry rest => simp [merge,lookup_assign,Value.entries]

end Tables

/-! ### Entries merged in one by one -/

section MergeAll

variable {name : String} {incoming : List (String × Value)}

theorem under?_cons (name key : String) (value : Value) (rest : List (String × Value)) :
    under? name ((key,value) :: rest) =
      if key.toLower = name then some value else under? name rest := by
  by_cases here : key.toLower = name
  · simp [under?,here]
  · simp [under?,here]

theorem exists_mem_of_under? {entries : List (String × Value)} {value : Value}
    (found : under? name entries = some value) : ∃ key,(key,value) ∈ entries := by
  obtain ⟨⟨key,_⟩,first,rfl⟩ := Option.map_eq_some_iff.mp found
  exact ⟨key,List.mem_of_find?_eq_some first⟩

/-- Tables of texts name keys plainly. -/
theorem Plain.of_tables {entries : List (String × Value)} (distinct : Distinct entries)
    (names : ∀ entry ∈ entries, '.' ∉ entry.1.toList ∧ '[' ∉ entry.1.toList)
    (tables : ∀ entry ∈ entries, ∃ settings, entry.2 = .table settings ∧ Distinct settings ∧
      ∀ setting ∈ settings, ∃ text, setting.2 = .string text) : Plain entries where
  distinct := distinct
  names := names
  groups key group given := by
    obtain ⟨name,member⟩ := exists_mem_of_under? given
    obtain ⟨settings,table,distinct,_⟩ := tables _ member
    exact ⟨settings,table,distinct⟩
  texts key value given := by
    obtain ⟨group,inEntries,inGroup⟩ := Option.bind_eq_some_iff.mp given
    obtain ⟨name,member⟩ := exists_mem_of_under? inEntries
    obtain ⟨settings,rfl,_,texts⟩ := tables _ member
    obtain ⟨name,member⟩ := exists_mem_of_under? inGroup
    exact texts _ member

theorem Distinct.tail {entry : String × Value} {rest : List (String × Value)}
    (distinct : Distinct (entry :: rest)) :
    under? entry.1.toLower rest = none ∧ Distinct rest := by
  obtain ⟨apart,rest⟩ := List.nodup_cons.mp distinct
  refine ⟨?_,rest⟩
  simpa [under?] using apart

theorem lookup_mergeAll_of_none (absent : under? name incoming = none)
    (entries : List (String × Value)) :
    lookup name (merge.mergeAll incoming entries) = lookup name entries := by
  induction incoming generalizing entries with
  | nil => rfl
  | cons entry rest ih =>
    obtain ⟨key,value⟩ := entry
    rw [under?_cons] at absent
    split at absent
    · exact absurd absent nofun
    next other =>
      rw [merge.mergeAll,ih absent,lookup_merge_of_ne _ _ _ _ (Ne.symm other)]

/-- Of entries with distinct names, the one under a name decides what stands there. -/
theorem lookup_mergeAll_of_some (distinct : Distinct incoming) {value : Value}
    (found : under? name incoming = some value) (entries : List (String × Value)) :
    ∃ key others, key.toLower = name ∧ lookup name others = lookup name entries ∧
      lookup name (merge.mergeAll incoming entries) = lookup name (merge key value others) := by
  induction incoming generalizing entries with
  | nil => exact absurd found nofun
  | cons entry rest ih =>
    obtain ⟨key,first⟩ := entry
    obtain ⟨apart,distinct⟩ := distinct.tail
    rw [under?_cons] at found
    split at found
    next here =>
      obtain rfl := Option.some.inj found
      refine ⟨key,entries,here,rfl,?_⟩
      rw [merge.mergeAll,lookup_mergeAll_of_none (here ▸ apart)]
    next other =>
      obtain ⟨key',others,named,same,merged⟩ := ih distinct found (merge key first entries)
      rw [lookup_merge_of_ne _ _ _ _ (Ne.symm other)] at same
      exact ⟨key',others,named,same,merged⟩

end MergeAll

namespace Path

/-! ### Written paths -/

/-- The characters of a key in a written path. -/
structure IsWord (name : List Char) : Prop where
  nonempty : name ≠ []
  word : ∀ c ∈ name, isKeyChar c = true

theorem continue?_dot {name rest : List Char} (named : IsWord name)
    (stops : ∀ c ∈ rest.head?, isKeyChar c = false) :
    continue? ('.' :: (name ++ rest)) = (continue? rest).map (.key (String.ofList name) :: ·) := by
  have taken : rest.takeWhile isKeyChar = [] ∧ rest.dropWhile isKeyChar = rest := by
    cases rest with
    | nil => simp
    | cons c rest => simp [stops c (by simp)]
  simp [continue?,List.takeWhile_append_of_pos named.word,List.dropWhile_append_of_pos named.word,
    taken,named.nonempty]

theorem parse?_dotted {group name : String} (grouped : IsWord group.toList)
    (named : IsWord name.toList) :
    parse? (group ++ "." ++ name) = some [.key group,.key name] := by
  have single : continue? ('.' :: name.toList) = some [.key name] := by
    have stops : ∀ c ∈ ([] : List Char).head?, isKeyChar c = false := by simp
    have step := continue?_dot named stops
    rw [List.append_nil,continue?] at step
    simpa using step
  have split : (group ++ "." ++ name).toList = group.toList ++ '.' :: name.toList := by simp
  rw [parse?,split,continue?_dot grouped (by simp; decide),single]
  simp

/-- A name without dots and brackets is no path but a key. -/
theorem parse?_of_flat {name : String} (noDot : '.' ∉ name.toList) (noBracket : '[' ∉ name.toList) :
    (parse? name).getD [.key name] = [.key name] := by
  have flat : ∀ c ∈ name.toList.dropWhile isKeyChar, c ≠ '.' ∧ c ≠ '[' := by
    intro c member
    have inName : c ∈ name.toList := (List.dropWhile_suffix isKeyChar).subset member
    exact ⟨fun dot => noDot (dot ▸ inName),fun bracket => noBracket (bracket ▸ inName)⟩
  have whole := List.takeWhile_append_dropWhile (p := isKeyChar) (l := name.toList)
  rw [parse?,continue?]
  by_cases empty : (name.toList.takeWhile isKeyChar).isEmpty
  · simp [empty]
  · simp only [empty,Bool.false_eq_true,if_false]
    cases rest : name.toList.dropWhile isKeyChar with
    | nil =>
      rw [rest,List.append_nil] at whole
      simp [whole,continue?]
    | cons c rest' =>
      obtain ⟨noDot,noBracket⟩ := flat c (by simp [rest])
      have stuck : continue? (c :: rest') = none := by
        rw [continue?.eq_def]
        split <;> simp_all
      simp [stuck]

end Path

end ParseScope.Settings
