import ParseScope.Attempt.Load
import ParseScope.Proofs.Disk

/-!
Attempts read from files, and which of them have a report. A file gives an attempt or one reason why
not, and only an attempt whose grammar compiled needs its trace to decode.
-/
namespace ParseScope.Attempt

open Grammar (Patterns)

/-- The file at a path is read, and its text holds the attempt. -/
def Loads (disk : Disk) (path : String) (attempt : Attempt) : Prop :=
  ∃ text, disk.Holds path text ∧ ofText text = .ok attempt

/-- Why the file at a path gives no attempt: it is not read, or its text holds none. -/
inductive Fails (disk : Disk) (path : String) : LoadError → Prop
  | unreadable (error : FileError) (stage : disk.Unreadable path error) :
      Fails disk path (.unreadable error)
  | malformed (text : String) (error : Document.ReadError) (held : disk.Holds path text)
      (stage : ofText text = .error error) : Fails disk path (.malformed error)

theorem load_eq_ok_iff (disk : Disk) (path : String) (attempt : Attempt) :
    load disk path = .ok attempt ↔ Loads disk path attempt := by
  simp only [load,parse,bind_eq_ok_iff,mapError_eq_ok_iff,Disk.readText_eq_ok_iff]
  exact Iff.rfl

theorem load_eq_error_iff (disk : Disk) (path : String) (error : LoadError) :
    load disk path = .error error ↔ Fails disk path error := by
  simp only [load,parse,bind_eq_error_iff,mapError_eq_ok_iff,mapError_eq_error_iff,
    Disk.readText_eq_ok_iff,Disk.readText_eq_error_iff]
  constructor
  · rintro (⟨cause,unread,rfl⟩ | ⟨text,held,cause,refused,rfl⟩)
    · exact .unreadable cause unread
    · exact .malformed text cause held refused
  · rintro (⟨cause,unread⟩ | ⟨text,cause,held,refused⟩)
    · exact .inl ⟨cause,unread,rfl⟩
    · exact .inr ⟨text,held,cause,refused,rfl⟩

/-- The trace counts in the rules of the attempt. -/
def Decodes (attempt : Attempt) : Prop :=
  ∃ trace, Trace.ofWire attempt.trace attempt.rules = .ok trace

theorem exists_report_iff [Patterns] (attempt : Attempt) (settings : Settings) :
    (∃ report, attempt.report settings = .ok report) ↔
      attempt.compileError ≠ none ∨ attempt.Decodes := by
  rw [report]
  cases attempt.compileError with
  | some error => simp
  | none =>
    simp only [ne_eq,not_true_eq_false,false_or,bind_eq_ok_iff]
    constructor
    · rintro ⟨_,trace,decoded,_⟩
      exact ⟨trace,decoded⟩
    · rintro ⟨trace,decoded⟩
      cases attempt.tree with
      | none => exact ⟨_,trace,decoded,rfl⟩
      | some tree => exact ⟨_,trace,decoded,rfl⟩

theorem report_eq_error_iff [Patterns] (attempt : Attempt) (settings : Settings)
    (error : Trace.WireError) :
    attempt.report settings = .error error ↔
      attempt.compileError = none ∧ Trace.ofWire attempt.trace attempt.rules = .error error := by
  rw [report]
  cases attempt.compileError with
  | some diagnosed => simp
  | none =>
    simp only [true_and,bind_eq_error_iff]
    constructor
    · rintro (stage | ⟨trace,_,printed⟩)
      · exact stage
      · split at printed
        · exact absurd printed (pure_ne_error _ _)
        · exact absurd printed (pure_ne_error _ _)
    · exact .inl

end ParseScope.Attempt
