import ParseScope.Document.Reader
import ParseScope.Proofs.Except
import ParseScope.Proofs.Json.Outline

/-!
What a reader accepts, read off its result.
-/
namespace ParseScope.Document

open Json (Items Outline)

theorem orFault_eq_ok_iff (fault : Option Json.Fault) (result : Unit) :
    orFault fault = .ok result ↔ fault = none := by
  cases fault <;> simp [orFault]

theorem mismatch_ne_ok {α : Type} (wanted : Wanted) (value : Outline) (result : α) :
    mismatch wanted value ≠ .ok result := by
  intro accepted
  unfold mismatch at accepted
  split at accepted <;> exact nomatch accepted

theorem readString_eq_ok_iff (levels : Nat) (value : Outline) (text : String) :
    readString levels value = .ok text ↔ ∃ broken, value = .scalar ⟨.ok (.string text),broken⟩ := by
  constructor
  · intro accepted
    unfold readString at accepted
    split at accepted
    next read broken =>
      obtain rfl := Except.ok.inj accepted
      exact ⟨broken,rfl⟩
    next => exact absurd accepted (mismatch_ne_ok _ _ _)
  · rintro ⟨broken,rfl⟩
    rfl

theorem endFault?_eq_none_iff (items : Items) :
    Shape.endFault? items = none ↔ items = .done .closed := by
  unfold Shape.endFault?
  split
  next first rest => simp
  next close => cases close <;> simp [Json.Close.endFault?]

theorem readDocument_eq_ok_iff {α : Type} (read : Reader α) (text : String) (result : α) :
    readDocument read text = .ok result ↔
      ∃ value, Json.Holds text value ∧ read maxLevels value = .ok result := by
  unfold readDocument Json.Holds
  obtain ⟨value,more⟩ := Json.outline text.toList
  cases more with
  | true => simp [bind_eq_ok_iff,-bind_pure_comp]
  | false => simp

end ParseScope.Document
