import Mathlib.Tactic.Tauto

/-!
The last item of a list that gives something. Where later items win, it alone decides: items that
give nothing may come and go, and neighbours may change places unless both give.
-/
namespace ParseScope

variable {α β : Type}

/-- An item gives the value, and no item after it gives any. -/
def Last (gives : α → β → Prop) (items : List α) (value : β) : Prop :=
  ∃ before item after, items = before ++ item :: after ∧ gives item value ∧
    ∀ later ∈ after, ∀ other, ¬ gives later other

/-- What is given last, or what stood there before when nothing is given. -/
def LastOr (gives : α → β → Prop) (items : List α) (start : β → Prop) (value : β) : Prop :=
  Last gives items value ∨ (∀ item ∈ items, ∀ other, ¬ gives item other) ∧ start value

variable {gives : α → β → Prop}

theorem not_last_nil (value : β) : ¬ Last gives [] value := by
  rintro ⟨before,item,after,split,_⟩
  simp at split

theorem last_cons_iff (item : α) (rest : List α) (value : β) :
    Last gives (item :: rest) value ↔ Last gives rest value ∨
      (∀ later ∈ rest, ∀ other, ¬ gives later other) ∧ gives item value := by
  constructor
  · rintro ⟨before,last,after,split,given,silent⟩
    cases before with
    | nil =>
      obtain ⟨rfl,rfl⟩ := List.cons.inj split
      exact .inr ⟨silent,given⟩
    | cons _ before =>
      obtain ⟨_,rfl⟩ := List.cons.inj split
      exact .inl ⟨before,last,after,rfl,given,silent⟩
  · rintro (⟨before,last,after,rfl,given,silent⟩ | ⟨silent,given⟩)
    · exact ⟨item :: before,last,after,rfl,given,silent⟩
    · exact ⟨[],item,rest,rfl,given,silent⟩

/-- Of two lists the second decides, if it gives anything. -/
theorem last_append_iff (front back : List α) (value : β) :
    Last gives (front ++ back) value ↔ Last gives back value ∨
      (∀ item ∈ back, ∀ other, ¬ gives item other) ∧ Last gives front value := by
  induction front with
  | nil => simp [not_last_nil]
  | cons item front ih =>
    rw [List.cons_append,last_cons_iff,last_cons_iff,ih,List.forall_mem_append]
    tauto

theorem last_singleton_iff (item : α) (value : β) : Last gives [item] value ↔ gives item value := by
  simp [last_cons_iff,not_last_nil]

/-- Something is given last when anything is given. -/
theorem exists_last_iff (items : List α) :
    (∃ value, Last gives items value) ↔ ∃ item ∈ items, ∃ value, gives item value := by
  induction items with
  | nil => simp [not_last_nil]
  | cons item rest ih =>
    simp only [last_cons_iff,exists_or,ih,List.mem_cons,or_and_right,exists_eq_left,exists_and_left]
    by_cases later : ∃ item ∈ rest, ∃ value, gives item value
    · simp only [later,true_or,or_true]
    · have silent : ∀ later ∈ rest, ∀ other, ¬ gives later other := by simpa using later
      simp only [later,false_or,or_false,and_iff_right silent]

/-- An item that gives nothing has no part in what is given last. -/
theorem last_insert_iff (before : List α) (item : α) (after : List α)
    (silent : ∀ other, ¬ gives item other) (value : β) :
    Last gives (before ++ item :: after) value ↔ Last gives (before ++ after) value := by
  rw [last_append_iff,last_append_iff,last_cons_iff,List.forall_mem_cons]
  simp [silent]

/-- Neighbours change places without effect, unless both of them give something. -/
theorem last_swap_iff (before : List α) (first second : α) (after : List α)
    (apart : ∀ given other, gives first given → ¬ gives second other) (value : β) :
    Last gives (before ++ first :: second :: after) value ↔
      Last gives (before ++ second :: first :: after) value := by
  by_cases silent : ∀ other, ¬ gives first other
  · rw [last_insert_iff before first _ silent,List.append_cons before second (first :: after),
      last_insert_iff _ first after silent,← List.append_cons]
  · obtain ⟨given,gave⟩ := not_forall_not.mp silent
    have silent (other : β) := apart given other gave
    rw [last_insert_iff before second _ silent,List.append_cons before first (second :: after),
      last_insert_iff _ second after silent,← List.append_cons]

/-! ### What is given last, or stood there before -/

variable {start : β → Prop}

theorem exists_lastOr (items : List α) (standing : ∃ value, start value) :
    ∃ value, LastOr gives items start value := by
  by_cases given : ∃ item ∈ items, ∃ value, gives item value
  · obtain ⟨value,last⟩ := (exists_last_iff items).mpr given
    exact ⟨value,.inl last⟩
  · obtain ⟨value,stood⟩ := standing
    exact ⟨value,.inr ⟨by simpa using given,stood⟩⟩

/-- The item at the end decides, if it gives anything. -/
theorem lastOr_concat_iff (items : List α) (item : α) (value : β) :
    LastOr gives (items ++ [item]) start value ↔
      gives item value ∨ (∀ other, ¬ gives item other) ∧ LastOr gives items start value := by
  rw [LastOr,LastOr,last_append_iff,last_singleton_iff,List.forall_mem_singleton,
    List.forall_mem_append,List.forall_mem_singleton]
  tauto

theorem lastOr_insert_iff (before : List α) (item : α) (after : List α)
    (silent : ∀ other, ¬ gives item other) (value : β) :
    LastOr gives (before ++ item :: after) start value ↔
      LastOr gives (before ++ after) start value := by
  rw [LastOr,LastOr,last_insert_iff before item after silent,List.forall_mem_append,
    List.forall_mem_cons,List.forall_mem_append,and_iff_right silent]

end ParseScope
