import ParseScope.Proofs.Fixture.Directory
import ParseScope.Proofs.Text.Order

/-!
Directories in any order. What a directory gives is settled by its text files, taken by the bytes of
their names: neither the order in which it lists them nor anything else in it has a part in this.
-/
namespace ParseScope.Fixture

instance (disk : Disk) (directory : String) : DecidablePred (Chosen disk directory) :=
  fun name => decidable_of_iff _ (chosen_iff disk directory name).symm

/-- The names of the text files among those in a directory, in ascending order of their bytes. -/
structure Ordered (disk : Disk) (directory : String) (names order : List String) : Prop where
  files : order.Perm (names.filter (Chosen disk directory ·))
  ascending : order.Pairwise fun a b => Text.bytesOf a ≤ Text.bytesOf b

/-- Two disks hold the same text files in a directory. They may list them in another order, and
other files and directories between them. -/
structure SameFiles (directory : String) (names others : List String) (disk other : Disk) :
    Prop where
  lists : other.find directory = .ok (.directory others)
  files : (others.filter (Chosen other directory ·)).Perm (names.filter (Chosen disk directory ·))
  contents : ∀ name ∈ names, Chosen disk directory name →
    other.find (Disk.join directory name) = disk.find (Disk.join directory name)

/-- What becomes of files taken in an order: the fixtures of all of them, or the error of the first
that gives none. -/
structure Settles (disk : Disk) (directory : String) (order : List String)
    (result : Except LoadError (List Fixture)) : Prop where
  passes_iff : ∀ fixtures, result = .ok fixtures ↔
    List.Forall₂ (fun name fixture => load disk (Disk.join directory name) = .ok fixture) order
      fixtures
  fails_iff : ∀ error, result = .error error ↔ ∃ before name later,
    order = before ++ name :: later ∧
    (∀ earlier ∈ before, ∃ fixture, load disk (Disk.join directory earlier) = .ok fixture) ∧
    load disk (Disk.join directory name) = .error error

section Ordered

variable {disk : Disk} {directory : String} {names : List String}

theorem ordered_chosen : Ordered disk directory names (chosen disk directory names) := by
  have same : (names.filter fun name =>
      hasTextExtension name && disk.isFile (Disk.join directory name)) =
      names.filter (Chosen disk directory ·) := by
    apply List.filter_congr
    intro name _
    rw [Bool.eq_iff_iff,← chosen_iff,decide_eq_true_iff]
  refine ⟨?_,chosen_ascending.imp (Text.bytesOf_le_iff _ _).mpr⟩
  rw [← same]
  exact List.mergeSort_perm _ _

/-- There is one such order only. -/
theorem Ordered.unique {order other : List String} (a : Ordered disk directory names order)
    (b : Ordered disk directory names other) : order = other := by
  refine List.Perm.eq_of_pairwise (fun first second _ _ before behind => ?_) a.ascending b.ascending
    (a.files.trans b.files.symm)
  rw [Text.bytesOf_le_iff] at before behind
  exact le_antisymm before behind

theorem SameFiles.ordered {others order : List String} {other : Disk}
    (same : SameFiles directory names others disk other)
    (ordered : Ordered disk directory names order) : Ordered other directory others order :=
  ⟨ordered.files.trans same.files.symm,ordered.ascending⟩

/-- Loading a file looks at its own path only. -/
theorem load_congr {other : Disk} {path : String} (same : other.find path = disk.find path) :
    load other path = load disk path := by
  simp only [load,Disk.readText,Disk.readBytes,same]

theorem loadDirectory_eq_mapM (lists : disk.find directory = .ok (.directory names))
    {order : List String} (ordered : Ordered disk directory names order) :
    loadDirectory disk directory = order.mapM fun name => load disk (Disk.join directory name) := by
  rw [loadDirectory_eq lists,ordered_chosen.unique ordered]

end Ordered

/-- A directory gives what its text files give when they are loaded in ascending order of the bytes
of their names. Every other disk with the same text files in it gives the same. -/
theorem loadDirectory_settled (disk : Disk) (directory : String) (names : List String)
    (lists : disk.find directory = .ok (.directory names)) :
    (∃ order, Ordered disk directory names order) ∧
    (∀ order, Ordered disk directory names order →
      Settles disk directory order (loadDirectory disk directory)) ∧
    ∀ others other, SameFiles directory names others disk other →
      loadDirectory other directory = loadDirectory disk directory := by
  refine ⟨⟨_,ordered_chosen⟩,fun order ordered => ?_,fun others other same => ?_⟩
  · rw [loadDirectory_eq_mapM lists ordered]
    exact ⟨mapM_eq_ok_iff _ order,mapM_eq_error_iff _ order⟩
  · have ordered : Ordered disk directory names (chosen disk directory names) := ordered_chosen
    rw [loadDirectory_eq_mapM lists ordered,
      loadDirectory_eq_mapM same.lists (same.ordered ordered)]
    apply mapM_congr
    intro name member
    obtain ⟨listed,isChosen⟩ := (mem_chosen_iff name).mp member
    exact load_congr (same.contents name listed isChosen)

/-- A directory `d` with the names in it, of which `a.txt` and `é.txt` are no fixtures, each for a
reason of its own, and `0.md` is no text file; any other name is a directory. -/
def shelf (names : List String) : Disk where
  find path :=
    if path = "d" then .ok (.directory names)
    else if path = "d/a.txt" ∨ path = "d/0.md" then .ok (.file ⟨#[]⟩)
    else if path = "d/é.txt" then .ok (.file ⟨#[0xff]⟩)
    else .ok (.directory [])

theorem find_shelf (names others : List String) (path : String) (inside : path ≠ "d") :
    (shelf others).find path = (shelf names).find path := by
  simp [shelf,inside]

theorem shelf_settled :
    Ordered (shelf ["é.txt","0.md","a.txt"]) "d" ["é.txt","0.md","a.txt"] ["a.txt","é.txt"] ∧
    SameFiles "d" ["é.txt","0.md","a.txt"] ["a.txt","0.txt","é.txt"]
      (shelf ["é.txt","0.md","a.txt"]) (shelf ["a.txt","0.txt","é.txt"]) ∧
    loadDirectory (shelf ["é.txt","0.md","a.txt"]) "d" =
      .error (.format (.missingSeparator .grammar)) ∧
    loadDirectory (shelf ["a.txt","0.txt","é.txt"]) "d" =
      .error (.format (.missingSeparator .grammar)) := by
  obtain ⟨_,settles,same⟩ :=
    loadDirectory_settled (shelf ["é.txt","0.md","a.txt"]) "d" ["é.txt","0.md","a.txt"] rfl
  have ordered : Ordered (shelf ["é.txt","0.md","a.txt"]) "d" ["é.txt","0.md","a.txt"]
      ["a.txt","é.txt"] := ⟨by decide,by decide⟩
  have inside : ∀ name ∈ ["é.txt","0.md","a.txt"], Disk.join "d" name ≠ "d" := by decide
  have sameFiles : SameFiles "d" ["é.txt","0.md","a.txt"] ["a.txt","0.txt","é.txt"]
      (shelf ["é.txt","0.md","a.txt"]) (shelf ["a.txt","0.txt","é.txt"]) :=
    ⟨rfl,by decide,fun name member _ => find_shelf _ _ _ (inside name member)⟩
  have fails : loadDirectory (shelf ["é.txt","0.md","a.txt"]) "d" =
      .error (.format (.missingSeparator .grammar)) :=
    ((settles _ ordered).fails_iff _).mpr ⟨[],"a.txt",["é.txt"],rfl,by simp,rfl⟩
  exact ⟨ordered,sameFiles,fails,(same _ _ sameFiles).trans fails⟩

end ParseScope.Fixture
