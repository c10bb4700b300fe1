import Mathlib.Data.List.Basic
import Mathlib.Data.List.TakeWhile
import ParseScope.Text.Basic

/-!
Trimmed texts. What is left of a text is known by what it may not begin or end with, and by what is
missing at its ends.
-/
namespace ParseScope.Text

/-- `inner` is the text without the dropped characters at its end. -/
structure TrimsEnd (drop : Char → Bool) (text inner : List Char) : Prop where
  whole : ∃ rest, text = inner ++ rest ∧ ∀ c ∈ rest, drop c = true
  last : ∀ c ∈ inner.getLast?, drop c = false

/-- `inner` is the text without the dropped characters at both ends. -/
structure Trims (drop : Char → Bool) (text inner : List Char) : Prop where
  whole : ∃ before after, text = before ++ inner ++ after ∧ (∀ c ∈ before, drop c = true) ∧
    ∀ c ∈ after, drop c = true
  first : ∀ c ∈ inner.head?, drop c = false
  last : ∀ c ∈ inner.getLast?, drop c = false

variable {drop : Char → Bool} {text inner : List Char}

theorem dropWhile_eq_iff : text.dropWhile drop = inner ↔
    (∃ before, text = before ++ inner ∧ ∀ c ∈ before, drop c = true) ∧
      ∀ c ∈ inner.head?, drop c = false := by
  constructor
  · rintro rfl
    refine ⟨⟨text.takeWhile drop,List.takeWhile_append_dropWhile.symm,?_⟩,fun c first => ?_⟩
    · exact fun c member => List.mem_takeWhile_imp member
    · have stopped := List.head?_dropWhile_not drop text
      rw [Option.mem_def.mp first] at stopped
      simpa using stopped
  · rintro ⟨⟨before,rfl,dropped⟩,first⟩
    rw [List.dropWhile_append_of_pos dropped]
    cases inner with
    | nil => rfl
    | cons c inner => exact List.dropWhile_cons_of_neg (by simpa using first c rfl)

theorem trimEnd_eq_iff : trimEnd drop text = inner ↔ TrimsEnd drop text inner := by
  rw [trimEnd,List.reverse_eq_iff,dropWhile_eq_iff,List.head?_reverse]
  constructor
  · rintro ⟨⟨before,whole,dropped⟩,last⟩
    refine ⟨⟨before.reverse,?_,by simpa using dropped⟩,last⟩
    rw [← List.reverse_reverse text,whole,List.reverse_append,List.reverse_reverse]
  · rintro ⟨⟨rest,rfl,dropped⟩,last⟩
    exact ⟨⟨rest.reverse,List.reverse_append,by simpa using dropped⟩,last⟩

/-- Trimming the front and then the end leaves what is trimmed at both ends. -/
theorem trim_eq_iff : trimEnd drop (text.dropWhile drop) = inner ↔ Trims drop text inner := by
  rw [trimEnd_eq_iff]
  constructor
  · rintro ⟨⟨after,split,dropped⟩,last⟩
    obtain ⟨⟨before,whole,passed⟩,first⟩ := dropWhile_eq_iff.mp split
    refine ⟨⟨before,after,by rw [whole,List.append_assoc],passed,dropped⟩,fun c head => ?_,last⟩
    exact first c (List.mem_head?_append_of_mem_head? head)
  · rintro ⟨⟨before,after,rfl,passed,dropped⟩,first,last⟩
    cases inner with
    | nil =>
      have all : ∀ c ∈ before ++ [] ++ after, drop c = true := by
        simpa [or_imp,forall_and] using And.intro passed dropped
      refine ⟨⟨[],?_,by simp⟩,last⟩
      rw [List.dropWhile_eq_nil_iff.mpr all,List.append_nil]
    | cons c inner =>
      refine ⟨⟨after,?_,dropped⟩,last⟩
      exact dropWhile_eq_iff.mpr ⟨⟨before,List.append_assoc ..,passed⟩,first⟩

end ParseScope.Text
