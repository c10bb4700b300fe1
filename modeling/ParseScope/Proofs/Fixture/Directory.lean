import Mathlib.Data.List.Sort
import Mathlib.Data.String.Basic
import ParseScope.Fixture.Directory
import ParseScope.Proofs.Disk

/-!
Fixtures of one file and of a directory. A directory fails with the error of its first text file, by
name, that does not load, in whatever order it lists them.
-/
namespace ParseScope.Fixture

/-- Why the file at a path gives no fixture: it is not read, or its text is none. -/
inductive Fails (disk : Disk) (path : String) : LoadError → Prop
  | unreadable (error : FileError) (stage : disk.Unreadable path error) :
      Fails disk path (.unreadable path error)
  | format (text : String) (error : FormatError) (held : disk.Holds path text)
      (stage : parse text = .error error) : Fails disk path (.format error)

/-- The file at a path is read, and its text is a fixture. -/
def Loads (disk : Disk) (path : String) : Prop :=
  ∃ text, disk.Holds path text ∧ ∃ fixture, parse text = .ok fixture

theorem exists_load_iff (disk : Disk) (path : String) :
    (∃ fixture, load disk path = .ok fixture) ↔ Loads disk path := by
  simp only [load,bind_eq_ok_iff,mapError_eq_ok_iff,Disk.readText_eq_ok_iff]
  constructor
  · rintro ⟨fixture,text,held,read⟩
    exact ⟨text,held,fixture,read⟩
  · rintro ⟨text,held,fixture,read⟩
    exact ⟨fixture,text,held,read⟩

theorem load_eq_error_iff (disk : Disk) (path : String) (error : LoadError) :
    load disk path = .error error ↔ Fails disk path error := by
  simp only [load,bind_eq_error_iff,mapError_eq_ok_iff,mapError_eq_error_iff,
    Disk.readText_eq_ok_iff,Disk.readText_eq_error_iff]
  constructor
  · rintro (⟨cause,unread,rfl⟩ | ⟨text,held,cause,refused,rfl⟩)
    · exact .unreadable cause unread
    · exact .format text cause held refused
  · rintro (⟨cause,unread⟩ | ⟨text,cause,held,refused⟩)
    · exact .inl ⟨cause,unread,rfl⟩
    · exact .inr ⟨text,held,cause,refused,rfl⟩

theorem Fails.not_loads {disk : Disk} {path : String} {error : LoadError}
    (fails : Fails disk path error) : ¬ Loads disk path := by
  rw [← exists_load_iff,(load_eq_error_iff _ _ _).mpr fails]
  nofun

theorem Fails.unique {disk : Disk} {path : String} {error other : LoadError}
    (a : Fails disk path error) (b : Fails disk path other) : error = other := by
  rw [← load_eq_error_iff] at a b
  exact Except.error.inj (a.symm.trans b)

theorem hasTextExtension_iff (name : String) : hasTextExtension name = true ↔
    ∃ stem, stem ≠ [] ∧ name.toList = stem ++ ".txt".toList := by
  have ending : ['t','x','t','.'] <+: name.toList.reverse ↔ ".txt".toList <:+ name.toList := by
    rw [← List.reverse_prefix]
    rfl
  rw [hasTextExtension,Bool.and_eq_true,List.isPrefixOf_iff_prefix,decide_eq_true_iff,ending,
    List.length_reverse]
  constructor
  · rintro ⟨⟨stem,whole⟩,long⟩
    refine ⟨stem,?_,whole.symm⟩
    rintro rfl
    exact absurd long (by simp [← whole])
  · rintro ⟨stem,notEmpty,whole⟩
    refine ⟨⟨stem,whole.symm⟩,?_⟩
    simp [whole,List.length_pos_iff.mpr notEmpty]

/-- The name of a text file in a directory. -/
structure Chosen (disk : Disk) (directory name : String) : Prop where
  extension : ∃ stem, stem ≠ [] ∧ name.toList = stem ++ ".txt".toList
  regular : ∃ bytes, disk.find (Disk.join directory name) = .ok (.file bytes)

theorem chosen_iff (disk : Disk) (directory name : String) : Chosen disk directory name ↔
    (hasTextExtension name && disk.isFile (Disk.join directory name)) = true := by
  rw [Bool.and_eq_true,hasTextExtension_iff,Disk.isFile_iff]
  constructor
  · rintro ⟨extension,regular⟩
    exact ⟨extension,regular⟩
  · rintro ⟨extension,regular⟩
    exact ⟨extension,regular⟩

/-- The names of the text files among those in a directory, in ascending order. -/
def chosen (disk : Disk) (directory : String) (names : List String) : List String :=
  (names.filter fun name =>
    hasTextExtension name && disk.isFile (Disk.join directory name)).mergeSort (· ≤ ·)

/-- Why a directory gives no fixtures: the first of its text files, by name, gives none. -/
inductive FirstFails (disk : Disk) (directory : String) (names : List String) : LoadError → Prop
  | intro {error : LoadError} (name : String) (member : name ∈ names)
      (isChosen : Chosen disk directory name) (fails : Fails disk (Disk.join directory name) error)
      (first : ∀ other ∈ names, Chosen disk directory other → other < name →
        Loads disk (Disk.join directory other)) :
      FirstFails disk directory names error

section Directory

variable {disk : Disk} {directory : String} {names : List String}

theorem mem_chosen_iff (name : String) :
    name ∈ chosen disk directory names ↔ name ∈ names ∧ Chosen disk directory name := by
  rw [chosen,List.mem_mergeSort,List.mem_filter,chosen_iff]

theorem chosen_ascending : (chosen disk directory names).Pairwise (· ≤ ·) :=
  List.pairwise_mergeSort' (· ≤ ·) _

theorem FirstFails.unique {error other : LoadError} (a : FirstFails disk directory names error)
    (b : FirstFails disk directory names other) : error = other := by
  obtain ⟨name,member,isChosen,fails,first⟩ := a
  obtain ⟨name',member',isChosen',fails',first'⟩ := b
  rcases lt_trichotomy name name' with smaller | rfl | greater
  · exact absurd (first' name member isChosen smaller) fails.not_loads
  · exact fails.unique fails'
  · exact absurd (first name' member' isChosen' greater) fails'.not_loads

variable (lists : disk.find directory = .ok (.directory names))

include lists

theorem loadDirectory_eq : loadDirectory disk directory =
    (chosen disk directory names).mapM fun name => load disk (Disk.join directory name) := by
  rw [loadDirectory,Disk.list,lists]
  rfl

theorem exists_loadDirectory_iff : (∃ fixtures, loadDirectory disk directory = .ok fixtures) ↔
    ∀ name ∈ names, Chosen disk directory name → Loads disk (Disk.join directory name) := by
  rw [loadDirectory_eq lists,exists_mapM_eq_ok_iff]
  simp only [mem_chosen_iff,and_imp,exists_load_iff]

theorem firstFails_of_loadDirectory {error : LoadError}
    (fails : loadDirectory disk directory = .error error) :
    FirstFails disk directory names error := by
  rw [loadDirectory_eq lists] at fails
  obtain ⟨before,name,later,split,passed,fails⟩ := (mapM_eq_error_iff _ _ _).mp fails
  have place (other : String) : other ∈ before ++ name :: later ↔
      other ∈ names ∧ Chosen disk directory other := split ▸ mem_chosen_iff other
  have ascending : (before ++ name :: later).Pairwise (· ≤ ·) := split ▸ chosen_ascending
  obtain ⟨member,isChosen⟩ := (place name).mp (by simp)
  refine .intro name member isChosen ((load_eq_error_iff _ _ _).mp fails) ?_
  intro other member isChosen smaller
  rcases List.mem_append.mp ((place other).mpr ⟨member,isChosen⟩) with early | late
  · exact (exists_load_iff _ _).mp (passed other early)
  · -- A directory may list a name twice, so the names ascend but need not be distinct.
    have notSmaller : name ≤ other := by
      rcases List.mem_cons.mp late with rfl | late
      · exact le_rfl
      · exact List.rel_of_pairwise_cons (List.pairwise_append.mp ascending).2.1 late
    exact absurd smaller (not_lt.mpr notSmaller)

theorem loadDirectory_eq_error_iff (error : LoadError) :
    loadDirectory disk directory = .error error ↔ FirstFails disk directory names error := by
  constructor
  · exact firstFails_of_loadDirectory lists
  · intro first
    cases run : loadDirectory disk directory with
    | error other => rw [(firstFails_of_loadDirectory lists run).unique first]
    | ok fixtures =>
      obtain ⟨name,member,isChosen,fails,_⟩ := first
      have loads := (exists_loadDirectory_iff lists).mp ⟨fixtures,run⟩ name member isChosen
      exact absurd loads fails.not_loads

end Directory

end ParseScope.Fixture
