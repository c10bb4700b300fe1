import ParseScope.Disk
import ParseScope.Proofs.Except

/-!
What stands at the paths of a disk. A text is read where a file holds it as UTF-8, and in each other
case there is one reason why not.
-/
namespace ParseScope.Disk

variable (disk : Disk) (path : String)

/-- A file at the path holds the text. -/
def Holds (text : String) : Prop :=
  ∃ bytes, disk.find path = .ok (.file bytes) ∧ String.fromUTF8? bytes = some text

/-- Why no text is read at the path. -/
inductive Unreadable : FileError → Prop
  | missing (error : FileError) (nothing : disk.find path = .error error) : Unreadable error
  | directory (names : List String) (found : disk.find path = .ok (.directory names)) :
      Unreadable .isDirectory
  | notText (bytes : ByteArray) (found : disk.find path = .ok (.file bytes))
      (invalid : String.fromUTF8? bytes = none) : Unreadable .notText

theorem readBytes_eq_ok_iff (bytes : ByteArray) :
    disk.readBytes path = .ok bytes ↔ disk.find path = .ok (.file bytes) := by
  rw [readBytes]
  split
  · next found => simp [found]
  · next found => simp [found]
  · next nothing => simp [nothing]

theorem readText_eq_ok_iff (text : String) :
    disk.readText path = .ok text ↔ disk.Holds path text := by
  rw [readText,bind_eq_ok_iff]
  constructor
  · rintro ⟨bytes,read,decoded⟩
    refine ⟨bytes,(disk.readBytes_eq_ok_iff path bytes).mp read,?_⟩
    cases valid : String.fromUTF8? bytes with
    | none => simp [valid] at decoded
    | some other => simpa [valid] using decoded
  · rintro ⟨bytes,found,valid⟩
    exact ⟨bytes,(disk.readBytes_eq_ok_iff path bytes).mpr found,by simp [valid]⟩

theorem holds_toUTF8 (text : String) (found : disk.find path = .ok (.file text.toUTF8)) :
    disk.Holds path text :=
  ⟨text.toUTF8,found,dif_pos text.isValidUTF8⟩

theorem readText_eq_error_iff (error : FileError) :
    disk.readText path = .error error ↔ disk.Unreadable path error := by
  rw [readText,bind_eq_error_iff]
  constructor
  · rintro (fails | ⟨bytes,read,decoded⟩)
    · rw [readBytes] at fails
      split at fails
      · exact absurd fails nofun
      · next names found =>
        obtain rfl := Except.error.inj fails
        exact .directory names found
      · next cause nothing =>
        obtain rfl := Except.error.inj fails
        exact .missing cause nothing
    · have found := (disk.readBytes_eq_ok_iff path bytes).mp read
      split at decoded
      · exact absurd decoded (pure_ne_error _ _)
      · next invalid =>
        obtain rfl := Except.error.inj decoded
        exact .notText bytes found invalid
  · rintro (⟨_,nothing⟩ | ⟨names,found⟩ | ⟨bytes,found,invalid⟩)
    · exact .inl (by rw [readBytes,nothing])
    · exact .inl (by rw [readBytes,found])
    · refine .inr ⟨bytes,(disk.readBytes_eq_ok_iff path bytes).mpr found,?_⟩
      rw [invalid]
      rfl

theorem isFile_iff : disk.isFile path = true ↔ ∃ bytes, disk.find path = .ok (.file bytes) := by
  rw [isFile]
  split
  · next bytes found => simp [found]
  · next others => simpa using others

theorem isDirectory_iff :
    disk.isDirectory path = true ↔ ∃ names, disk.find path = .ok (.directory names) := by
  rw [isDirectory]
  split
  · next names found => simp [found]
  · next others => simpa using others

end ParseScope.Disk
