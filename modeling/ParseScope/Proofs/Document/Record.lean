import ParseScope.Proofs.Document.Reader

/-!
Written records are read back. Each member that is written fills its slot of the record, and one
that is left out leaves its slot empty.
-/
namespace ParseScope.Document

open Json (Members Value)

/-! ### Parts -/

theorem readDocument_of_holds {α : Type} (read : Reader α) (text : String) (value : Json.Outline)
    (holds : Json.Holds text value) : readDocument read text = read maxLevels value := by
  rw [Json.Holds] at holds
  simp [readDocument,holds]

theorem isWord_toInt (n : Int64) : Json.IsWord n.toInt := by
  have low := n.le_toInt
  have high := n.toInt_lt
  exact ⟨low,by omega⟩

theorem readInt64_write (levels : Nat) (n : Int64) :
    readInt64 levels (Value.integer n.toInt).outline = .ok n := by
  rw [Value.outline,readInt64,if_pos ⟨n.minValue_le_toInt,n.toInt_le⟩,Int64.ofInt_toInt]

theorem isWord_toNat (n : UInt64) : Json.IsWord n.toNat := by
  have high := n.toNat_lt
  constructor
  · omega
  · omega

theorem readSize_write (levels : Nat) (n : UInt64) :
    readSize levels (Value.integer n.toNat).outline = .ok n := by
  have fits : 0 ≤ (n.toNat : Int) ∧ (n.toNat : Int) < UInt64.size :=
    ⟨Int.natCast_nonneg _,Int.ofNat_lt.mpr n.toNat_lt_size⟩
  rw [Value.outline,readSize,if_pos fits,Int.toNat_natCast,UInt64.ofNat_toNat]

theorem readList_write {α : Type} (read : Reader α) (write : α → Value) (levels : Nat)
    (opens : levels ≠ 0) (items : List α)
    (each : ∀ item ∈ items, read (levels - 1) (write item).outline = .ok item) :
    readList read levels (Value.list (items.map write)).outline = .ok items := by
  rw [Value.outline,readList,if_neg opens]
  induction items with
  | nil => rfl
  | cons item items ih =>
    obtain ⟨ofItem,ofItems⟩ := List.forall_mem_cons.mp each
    rw [List.map_cons,Value.outlineItems,readItems,ofItem,ih ofItems]
    rfl

/-- A value that may be null is read as it is when it is not. -/
theorem readOption_write {α : Type} (read : Reader α) (levels : Nat) (value : Value)
    (present : value ≠ .null) :
    readOption read levels value.outline = (read levels value.outline).map some := by
  cases value with
  | null => exact absurd rfl present
  | bool | integer | string | list | object => rfl

/-! ### Members -/

/-- The slot of an optional member that was read or left out holds what was written. -/
theorem getD_map_some {α : Type} (written : Option α) : (written.map some).getD none = written := by
  cases written with
  | none => rfl
  | some result => rfl

namespace Shape

variable {σ α : Type} {shape : Shape σ} {name : String} {required : Bool}

/-- A member is read into its empty slot before the others are. -/
theorem readMembers_slot {slot : σ → Option α} {read : Reader α} {set : Option α → σ → σ}
    (found : shape.find? name = some (.of name required slot read set)) (levels : Nat) (record : σ)
    (empty : slot record = none) (value : Value) (others : List (String × Value)) :
    shape.readMembers levels record (Value.outlineMembers ((name,value) :: others)) =
      read levels value.outline >>= fun result =>
        shape.readMembers levels (set (some result) record) (Value.outlineMembers others) := by
  rw [Value.outlineMembers,readMembers]
  simp only [found,Member.of,empty]
  cases read levels value.outline with
  | error error => rfl
  | ok result => rfl

theorem readMembers_written {slot : σ → Option α} {read : Reader α} {set : Option α → σ → σ}
    (found : shape.find? name = some (.of name required slot read set)) (levels : Nat) (record : σ)
    (empty : slot record = none) (value : Value) (result : α)
    (reads : read levels value.outline = .ok result) (others : List (String × Value)) :
    shape.readMembers levels record (Value.outlineMembers ((name,value) :: others)) =
      shape.readMembers levels (set (some result) record) (Value.outlineMembers others) := by
  rw [readMembers_slot found levels record empty,reads]
  rfl

/-- A member that is left out when it is absent fills its slot if it is there. -/
theorem readMembers_optional {slot : σ → Option (Option α)} {read : Reader α}
    {set : Option (Option α) → σ → σ}
    (found : shape.find? name = some (.of name required slot (readOption read) set)) (levels : Nat)
    (record : σ) (empty : slot record = none) (unset : set none record = record)
    (write : α → Value) (present : ∀ result, write result ≠ .null) (written : Option α)
    (reads : ∀ result ∈ written, read levels (write result).outline = .ok result)
    (others : List (String × Value)) :
    shape.readMembers levels record (Value.outlineMembers
        ((written.map fun result => (name,write result)).toList ++ others)) =
      shape.readMembers levels (set (written.map some) record) (Value.outlineMembers others) := by
  cases written with
  | none =>
    rw [Option.map_none,Option.map_none,unset]
    rfl
  | some result =>
    rw [Option.map_some,Option.toList_some,List.singleton_append]
    apply readMembers_written found levels record empty
    rw [readOption_write read levels _ (present result),reads result rfl]
    rfl

end Shape

end ParseScope.Document
