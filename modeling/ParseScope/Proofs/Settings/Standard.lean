import Mathlib
import ParseScope.Proofs.Disk
import ParseScope.Proofs.Except
import ParseScope.Proofs.Settings.Path
import ParseScope.Settings.Standard

/-!
The library of layered settings that the program runs with does what is relied on: sources are put
over one another key by key, and a single value changes the text of one key only.
-/
namespace ParseScope.Settings

namespace Key

def path (key : Key) : Path := [.key key.group,.key key.name]

theorem isWord_group (key : Key) : Path.IsWord key.group.toList := by
  cases key
  all_goals exact ⟨by decide,List.all_eq_true.mp (by decide)⟩

theorem isWord_name (key : Key) : Path.IsWord key.name.toList := by
  cases key
  all_goals exact ⟨by decide,List.all_eq_true.mp (by decide)⟩

theorem parse?_dotted (key : Key) : Path.parse? key.dotted = some key.path :=
  Path.parse?_dotted key.isWord_group key.isWord_name

theorem toLower_group (key : Key) : key.group.toLower = key.group := by
  apply toLower_eq_self
  cases key
  all_goals decide

theorem toLower_name (key : Key) : key.name.toLower = key.name := by
  apply toLower_eq_self
  cases key
  all_goals decide

theorem name_injective : Function.Injective name := by
  intro a b
  cases a <;> cases b
  all_goals decide

theorem value?_eq (key : Key) (root : Value) : key.value? root =
    lookup key.name (((lookup key.group root.entries).map Value.entries).getD []) := by
  rw [value?]
  cases lookup key.group root.entries with
  | none => rfl
  | some group => rfl

end Key

namespace Standard

/-! ### Sources -/

theorem collect_eq_ok {disk : Disk} {source : Source} {text : List Char}
    {entries : List (String × Value)} (told : textOf disk source = .ok text)
    (read : Toml.read? text = some entries) : collect disk source = .ok entries := by
  rw [collect,told]
  exact (bind_eq_ok_iff _ _ _).mpr ⟨text,rfl,by rw [read]; rfl⟩

/-- A file is found by its own path first. -/
theorem collect_file {disk : Disk} {path text : String} {entries : List (String × Value)}
    (holds : disk.Holds path text) (read : Toml.read? (withoutMark text.toList) = some entries) :
    collect disk (.file path) = .ok entries := by
  refine collect_eq_ok ?_ read
  have told := (disk.readText_eq_ok_iff path text).mpr holds
  obtain ⟨bytes,found,_⟩ := holds
  have file := (disk.isFile_iff path).mpr ⟨bytes,found⟩
  rw [textOf,candidates,List.find?_cons_of_pos file]
  simp only [told]
  rfl

theorem entries_addEntries {entries : List (String × Value)}
    (names : ∀ entry ∈ entries, '.' ∉ entry.1.toList ∧ '[' ∉ entry.1.toList) (root : Value) :
    (addEntries root entries).entries = merge.mergeAll entries root.entries := by
  induction entries generalizing root with
  | nil => rfl
  | cons entry rest ih =>
    obtain ⟨key,value⟩ := entry
    obtain ⟨⟨noDot,noBracket⟩,names⟩ := List.forall_mem_cons.mp names
    have step : addEntries root ((key,value) :: rest) =
        addEntries (Path.assign value ((Path.parse? key).getD [.key key]) root) rest := rfl
    rw [step,Path.parse?_of_flat noDot noBracket,ih names,merge.mergeAll]
    rfl

/-- The last source comes over what was there, key by key. -/
theorem value?_addEntries {entries : List (String × Value)} (plain : Plain entries) (root : Value)
    (key : Key) :
    key.value? (addEntries root entries) = (key.given? entries).or (key.value? root) := by
  rw [key.value?_eq,entries_addEntries plain.names]
  cases given : under? key.group entries with
  | none => rw [lookup_mergeAll_of_none given,Key.given?,given,key.value?_eq]; rfl
  | some group =>
    obtain ⟨settings,rfl,distinct⟩ := plain.groups key group given
    obtain ⟨written,others,named,same,merged⟩ :=
      lookup_mergeAll_of_some plain.distinct given root.entries
    have inner : key.given? entries = under? key.name settings := by
      rw [Key.given?,given]
      rfl
    rw [merged,← named,lookup_merge_table,named,same,Option.getD_some,inner]
    cases setting : under? key.name settings with
    | none => rw [lookup_mergeAll_of_none setting,key.value?_eq]; rfl
    | some value =>
      obtain ⟨text,rfl⟩ := plain.texts key value (inner.trans setting)
      obtain ⟨written,others,named,_,merged⟩ := lookup_mergeAll_of_some distinct setting
        (((lookup key.group root.entries).map Value.entries).getD [])
      rw [merged,← named,lookup_merge_string]
      rfl

section Layered

variable (disk : Disk) (sources : List Source) (source : Source)

theorem layered_concat_eq_ok_iff (root : Value) :
    layered disk (sources ++ [source]) = .ok root ↔ ∃ before entries,
      layered disk sources = .ok before ∧ collect disk source = .ok entries ∧
      addEntries before entries = root := by
  rw [layered,List.foldlM_append]
  simp only [List.foldlM_cons,List.foldlM_nil,bind_pure,bind_eq_ok_iff,pure_eq_ok_iff,
    exists_and_left]
  rfl

theorem build_eq_ok_iff (single : List (Path × Value)) (root : Value) :
    build disk sources single = .ok root ↔ ∃ before, layered disk sources = .ok before ∧
      addSingle before single = root := by
  simp only [build,bind_eq_ok_iff,pure_eq_ok_iff]

end Layered

/-! ### Single values -/

theorem value?_assign (key other : Key) (text : String) (root : Value) :
    other.value? (key.path.assign (.string text) root) =
      if other = key then some (.string text) else other.value? root := by
  have assigned : key.path.assign (.string text) root =
      .table (assign key.group (.table (merge key.name (.string text)
        ((lookup key.group root.entries).getD .null).entries)) root.entries) := by
    rw [← key.toLower_group]
    simp only [Key.path,Path.assign,key.toLower_group]
  rw [assigned,other.value?_eq,other.value?_eq,Value.entries]
  by_cases grouped : other.group = key.group
  · rw [grouped,lookup_assign]
    by_cases same : other = key
    · rw [if_pos same,same,Option.map_some,Option.getD_some,Value.entries]
      exact (congrArg (lookup · _) key.toLower_name.symm).trans
        (lookup_merge_string key.name _ text)
    · have apart : other.name ≠ key.name.toLower :=
        fun named => same (Key.name_injective (named.trans key.toLower_name))
      rw [if_neg same,Option.map_some,Option.getD_some,Value.entries,
        lookup_merge_of_ne _ _ _ _ apart]
      cases lookup key.group root.entries with
      | none => rfl
      | some group => rfl
  · rw [if_neg (fun same => grouped (congrArg Key.group same)),lookup_assign_of_ne _ _ _ _ grouped]

/-! ### Reading -/

theorem read?_of_find {root : Value} {key : Key} {text : String}
    (standing : key.value? root = some (.string text)) {place : Nat} {read? : Value → Option α}
    {result : α} (found : find root key.group key.name place read? = .ok result) :
    read? (.string text) = some result := by
  obtain ⟨group,inRoot,inGroup⟩ := Option.bind_eq_some_iff.mp standing
  have member : member? key.name place group = some (.string text) := by
    cases group with
    | table entries => exact inGroup
    | _ => exact absurd inGroup nofun
  rw [find,inRoot,Option.bind_some,member,Option.bind_some] at found
  split at found
  next _ same => exact same.trans (congrArg some (Except.ok.inj found))
  next => exact absurd found nofun

/-- The settings have the texts that stand under their keys. -/
theorem read?_of_ofValue {root : Value} {settings : Settings} (read : ofValue root = .ok settings)
    {key : Key} {text : String} (standing : key.value? root = some (.string text)) :
    key.read? text = some (settings.text key) := by
  simp only [ofValue,bind_eq_ok_iff,pure_eq_ok_iff] at read
  obtain ⟨_,style,_,indent,_,error,_,failures,_,grammar,_,matched,_,defined,rfl⟩ := read
  have told {place : Nat} {result : String}
      (found : find root key.group key.name place textOf? = .ok result) : text = result :=
    Option.some.inj (read?_of_find standing found)
  cases key with
  | treeStyle =>
    have named : styleOf? (.string text) = _ := read?_of_find standing style
    exact congrArg (Option.map styleName) named
  | traceIndent => exact congrArg some (told indent)
  | errorSet => exact congrArg some (told error)
  | traceFailureSet => exact congrArg some (told failures)
  | grammarSet => exact congrArg some (told grammar)
  | ruleMatchSet => exact congrArg some (told matched)
  | ruleDefinitionSet => exact congrArg some (told defined)

/-! ### Defaults -/

def defaultEntries : List (String × Value) :=
  [ ("tree",.table [("style",.string "connectors")]),
    ("trace",.table [("indent",.string "  ")]),
    ("highlight",.table
      [ ("error_set",.string "error"),("trace_failure_set",.string "trace-failures"),
        ("grammar_set",.string "grammar-error"),("rule_match_set",.string "rule-matches"),
        ("rule_definition_set",.string "rules") ]) ]

section Reading

open Toml (Node readLines)

def treeNode : Node := .table .header [("style",.value (.string "connectors"))]

def traceNode : Node := .table .header [("indent",.value (.string "  "))]

def highlightNode : Node :=
  .table .header
    [ ("error_set",.value (.string "error")),
      ("trace_failure_set",.value (.string "trace-failures")),
      ("grammar_set",.value (.string "grammar-error")),
      ("rule_match_set",.value (.string "rule-matches")),
      ("rule_definition_set",.value (.string "rules")) ]

/-- The characters of lines, with the first line spelled out. -/
theorem flatMap_toList_cons (first : List Char) (rest : List String) :
    (String.ofList first :: rest).flatMap String.toList = first ++ rest.flatMap String.toList := by
  rw [List.flatMap_cons,String.toList_ofList]

variable (count : Nat)

theorem readLines_tree (rest : List Char) :
    readLines (count + 9) {} (Defaults.tree.flatMap String.toList ++ rest) =
      readLines count ⟨[("tree",treeNode)],["tree"]⟩ rest := by
  rw [Defaults.tree]
  iterate 7 rw [flatMap_toList_cons]
  cbv

theorem readLines_trace (rest : List Char) :
    readLines (count + 4) ⟨[("tree",treeNode)],["tree"]⟩
        (Defaults.trace.flatMap String.toList ++ rest) =
      readLines count ⟨[("tree",treeNode),("trace",traceNode)],["trace"]⟩ rest := by
  rw [Defaults.trace]
  iterate 3 rw [flatMap_toList_cons]
  cbv

set_option maxRecDepth 2000 in
theorem readLines_highlight :
    readLines (count + 11) ⟨[("tree",treeNode),("trace",traceNode)],["trace"]⟩
        (Defaults.highlight.flatMap String.toList) =
      some ⟨[("tree",treeNode),("trace",traceNode),("highlight",highlightNode)],["highlight"]⟩ := by
  rw [Defaults.highlight]
  iterate 11 rw [flatMap_toList_cons]
  cbv

theorem le_length_tree : 24 ≤ (Defaults.tree.flatMap String.toList).length := by
  rw [Defaults.tree,flatMap_toList_cons,List.length_append]
  exact Nat.le_add_right_of_le (by decide)

theorem read?_defaultText : Toml.read? defaultText.toList = some defaultEntries := by
  have parts : defaultText.toList = Defaults.tree.flatMap String.toList ++
      (Defaults.trace.flatMap String.toList ++ Defaults.highlight.flatMap String.toList) := by
    rw [defaultText,String.toList_join,List.flatMap_append,List.flatMap_append,List.append_assoc]
  -- A line takes up one of the counted steps; the text has more characters than lines.
  obtain ⟨count,size⟩ : ∃ count,defaultText.toList.length = count + 11 + 4 + 9 := by
    refine Nat.exists_eq_add_of_le' (Nat.le_trans le_length_tree ?_)
    rw [parts,List.length_append]
    exact Nat.le_add_right _ _
  rw [Toml.read?,size,parts,readLines_tree,readLines_trace,readLines_highlight]
  rfl

end Reading

theorem given?_defaultEntries (key : Key) :
    key.given? defaultEntries = some (.string (({} : Settings).text key)) := by
  cases key
  all_goals cbv

theorem plain_defaultEntries : Plain defaultEntries := by
  refine .of_tables (by decide +kernel) (by decide +kernel) ?_
  intro entry member
  simp only [defaultEntries,List.mem_cons,List.not_mem_nil,or_false] at member
  rcases member with rfl | rfl | rfl
  all_goals exact ⟨_,rfl,by decide +kernel,by simp⟩

/-! ### Laws -/

theorem place_dotted (key : Key) : place key.dotted = .ok key.path := by
  simp only [place,key.parse?_dotted]

theorem collect_defaultText (disk : Disk) :
    collect disk (.text defaultText) = .ok defaultEntries :=
  collect_eq_ok (textOf.eq_1 disk defaultText) read?_defaultText

theorem lawful : Layering.Lawful where
  place key := ⟨key.path,place_dotted key⟩
  defaults disk :=
    ⟨defaultEntries,collect_defaultText disk,plain_defaultEntries,given?_defaultEntries⟩
  source disk sources source root built := by
    obtain ⟨_,layers,rfl⟩ := (build_eq_ok_iff _ _ _ _).mp built
    obtain ⟨before,entries,earlier,read,rfl⟩ := (layered_concat_eq_ok_iff _ _ _ _).mp layers
    exact ⟨entries,before,read,(build_eq_ok_iff _ _ _ _).mpr ⟨before,earlier,rfl⟩,
      fun plain key => value?_addEntries plain before key⟩
  single disk sources single key given text root placed built := by
    obtain rfl : given = key.path := Except.ok.inj (placed.symm.trans (place_dotted key))
    obtain ⟨before,layers,rfl⟩ := (build_eq_ok_iff _ _ _ _).mp built
    refine ⟨_,(build_eq_ok_iff _ _ _ _).mpr ⟨before,layers,rfl⟩,fun other => ?_⟩
    rw [addSingle,List.foldl_concat]
    exact value?_assign key other text _
  settings root result key text read standing := read?_of_ofValue read standing

end Standard

end ParseScope.Settings
