import Mathlib.Data.List.Forall2

/-!
Chains of steps that may fail.
-/
namespace ParseScope

/-- A chain gives a result when its first step does, and the rest of it on what that gave. -/
theorem bind_eq_ok_iff {ε α β : Type} (first : Except ε α) (next : α → Except ε β) (result : β) :
    (first >>= next) = .ok result ↔ ∃ value, first = .ok value ∧ next value = .ok result := by
  cases first with
  | error error => simp [bind,Except.bind]
  | ok value => simp [bind,Except.bind]

/-- A chain fails with the error of its first step, or with that of the rest after it. -/
theorem bind_eq_error_iff {ε α β : Type} (first : Except ε α) (next : α → Except ε β) (error : ε) :
    (first >>= next) = .error error ↔
      first = .error error ∨ ∃ value, first = .ok value ∧ next value = .error error := by
  cases first with
  | error error => simp [bind,Except.bind]
  | ok value => simp [bind,Except.bind]

theorem map_eq_ok_iff {ε α β : Type} (f : α → β) (first : Except ε α) (result : β) :
    first.map f = .ok result ↔ ∃ value, first = .ok value ∧ f value = result := by
  cases first with
  | error error => simp [Except.map]
  | ok value => simp [Except.map]

theorem map_eq_error_iff {ε α β : Type} (f : α → β) (first : Except ε α) (error : ε) :
    first.map f = .error error ↔ first = .error error := by
  cases first with
  | error error => simp [Except.map]
  | ok value => simp [Except.map]

theorem mapError_eq_ok_iff {ε δ α : Type} (f : ε → δ) (first : Except ε α) (result : α) :
    first.mapError f = .ok result ↔ first = .ok result := by
  cases first with
  | error error => exact iff_of_false nofun nofun
  | ok value =>
    change (Except.ok value : Except δ α) = .ok result ↔ _
    simp

theorem mapError_eq_error_iff {ε δ α : Type} (f : ε → δ) (first : Except ε α) (error : δ) :
    first.mapError f = .error error ↔ ∃ cause, first = .error cause ∧ f cause = error := by
  cases first with
  | error cause =>
    change Except.error (f cause) = .error error ↔ _
    simp
  | ok value => exact iff_of_false nofun nofun

@[simp] theorem throw_ne_ok {ε α : Type} (error : ε) (result : α) :
    (throw error : Except ε α) ≠ .ok result := nofun

@[simp] theorem throw_eq_error_iff {ε α : Type} (error other : ε) :
    (throw error : Except ε α) = .error other ↔ error = other :=
  Except.error.injEq error other ▸ Iff.rfl

@[simp] theorem pure_eq_ok_iff {ε α : Type} (value result : α) :
    (pure value : Except ε α) = .ok result ↔ value = result :=
  Except.ok.injEq value result ▸ Iff.rfl

@[simp] theorem pure_ne_error {ε α : Type} (value : α) (error : ε) :
    (pure value : Except ε α) ≠ .error error := nofun

/-- A run over a list fails with the error of the first item that fails. -/
theorem mapM_eq_error_iff {ε α β : Type} (f : α → Except ε β) (items : List α) (error : ε) :
    items.mapM f = .error error ↔ ∃ before item later, items = before ++ item :: later ∧
      (∀ passed ∈ before, ∃ value, f passed = .ok value) ∧ f item = .error error := by
  induction items with
  | nil => simp
  | cons first items ih =>
    rw [List.mapM_cons,bind_eq_error_iff]
    constructor
    · rintro (fails | ⟨value,passes,rest⟩)
      · exact ⟨[],first,items,rfl,by simp,fails⟩
      · rcases (bind_eq_error_iff _ _ _).mp rest with rest | ⟨_,_,rest⟩
        · obtain ⟨before,item,later,rfl,passed,fails⟩ := ih.mp rest
          refine ⟨first :: before,item,later,rfl,?_,fails⟩
          rintro one (_ | ⟨_,member⟩)
          · exact ⟨value,passes⟩
          · exact passed one member
        · exact absurd rest (pure_ne_error _ _)
    · rintro ⟨before,item,later,split,passed,fails⟩
      cases before with
      | nil =>
        obtain ⟨rfl,_⟩ := List.cons.inj split
        exact .inl fails
      | cons head before =>
        obtain ⟨rfl,rfl⟩ := List.cons.inj split
        obtain ⟨value,passes⟩ := passed first (by simp)
        have rest : (before ++ item :: later).mapM f = .error error :=
          ih.mpr ⟨before,item,later,rfl,fun one member => passed one (by simp [member]),fails⟩
        exact .inr ⟨value,passes,(bind_eq_error_iff _ _ _).mpr (.inl rest)⟩

/-- A run over a list passes when every item does. -/
theorem exists_mapM_eq_ok_iff {ε α β : Type} (f : α → Except ε β) (items : List α) :
    (∃ results, items.mapM f = .ok results) ↔ ∀ item ∈ items, ∃ value, f item = .ok value := by
  induction items with
  | nil => simp
  | cons first items ih =>
    rw [List.forall_mem_cons,← ih]
    simp only [List.mapM_cons,bind_eq_ok_iff,pure_eq_ok_iff]
    constructor
    · rintro ⟨_,value,passes,values,rest,rfl⟩
      exact ⟨⟨value,passes⟩,values,rest⟩
    · rintro ⟨⟨value,passes⟩,values,rest⟩
      exact ⟨value :: values,value,passes,values,rest,rfl⟩

/-- A run over a list that passes gives a result for each item, in the order of the items. -/
theorem mapM_eq_ok_iff {ε α β : Type} (f : α → Except ε β) (items : List α) (results : List β) :
    items.mapM f = .ok results ↔
      List.Forall₂ (fun item value => f item = .ok value) items results := by
  induction items generalizing results with
  | nil =>
    rw [List.mapM_nil,pure_eq_ok_iff,List.forall₂_nil_left_iff,eq_comm]
  | cons first items ih =>
    simp only [List.mapM_cons,bind_eq_ok_iff,pure_eq_ok_iff,List.forall₂_cons_left_iff,ih]
    constructor
    · rintro ⟨value,passes,values,rest,rfl⟩
      exact ⟨value,values,passes,rest,rfl⟩
    · rintro ⟨value,values,passes,rest,rfl⟩
      exact ⟨value,passes,values,rest,rfl⟩

theorem toOption_map {ε α β : Type} (f : α → β) (first : Except ε α) :
    (first.map f).toOption = first.toOption.map f := by
  cases first with
  | error error => rfl
  | ok value => rfl

theorem toOption_mapError {ε δ α : Type} (f : ε → δ) (first : Except ε α) :
    (first.mapError f).toOption = first.toOption := by
  cases first with
  | error error => rfl
  | ok value => rfl

theorem mapM_congr {ε α β : Type} {f g : α → Except ε β} {items : List α}
    (same : ∀ item ∈ items, f item = g item) : items.mapM f = items.mapM g := by
  induction items with
  | nil => rfl
  | cons first items ih =>
    obtain ⟨here,others⟩ := List.forall_mem_cons.mp same
    rw [List.mapM_cons,List.mapM_cons,here,ih others]

end ParseScope
