import Mathlib.Data.List.Forall2

/-!
Lists that show what stands at certain places, in the order of the places.
-/
namespace ParseScope

/-- The list shows what stands at each of the chosen places from `start` on, once and in order. -/
def Picks {α : Type} (chosen : Nat → Prop) (stands : Nat → α → Prop) (start : Nat)
    (picked : List α) : Prop :=
  ∃ places : List Nat, places.Pairwise (· < ·) ∧
    (∀ place, place ∈ places ↔ start ≤ place ∧ chosen place) ∧
    List.Forall₂ stands places picked

namespace Picks

variable {α : Type} {chosen : Nat → Prop} {stands : Nat → α → Prop} {start next : Nat}
  {picked : List α}

theorem exists_place (picks : Picks chosen stands start picked) (value : α)
    (member : value ∈ picked) : ∃ place, stands place value := by
  obtain ⟨places,-,-,shown⟩ := picks
  induction shown with
  | nil => exact nomatch member
  | cons here _ ih =>
    rcases List.mem_cons.mp member with rfl | later
    · exact ⟨_,here⟩
    · exact ih later

theorem empty (unchosen : ∀ place, start ≤ place → ¬ chosen place) :
    Picks chosen stands start [] := by
  refine ⟨[],.nil,fun place => ?_,.nil⟩
  simpa using unchosen place

/-- Places that are not chosen are passed by. -/
theorem skip (picks : Picks chosen stands next picked) (before : start ≤ next)
    (between : ∀ place, start ≤ place → place < next → ¬ chosen place) :
    Picks chosen stands start picked := by
  obtain ⟨places,ascend,members,shown⟩ := picks
  refine ⟨places,ascend,fun place => (members place).trans ?_,shown⟩
  refine and_congr_left fun isChosen => ⟨Nat.le_trans before,fun inside => ?_⟩
  exact Nat.le_of_not_lt fun less => between place inside less isChosen

theorem take (picks : Picks chosen stands (start + 1) picked) (isChosen : chosen start) (value : α)
    (shown : stands start value) : Picks chosen stands start (value :: picked) := by
  obtain ⟨places,ascend,members,others⟩ := picks
  refine ⟨start :: places,List.pairwise_cons.mpr ⟨fun place member => ?_,ascend⟩,fun place => ?_,
    .cons shown others⟩
  · exact ((members place).mp member).1
  · rw [List.mem_cons,members]
    by_cases same : place = start
    · simp [same,isChosen]
    · simp only [same,false_or]
      refine and_congr_left fun _ => ⟨Nat.le_of_succ_le,fun inside => ?_⟩
      exact Nat.lt_of_le_of_ne inside (Ne.symm same)

end Picks

end ParseScope
