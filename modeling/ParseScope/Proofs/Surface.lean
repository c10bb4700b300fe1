import ParseScope.Proofs.NameMap
import ParseScope.Surface

/-!
What a write leaves on a surface. A set of the other kind stays, and spans that lie inside the text
and cover two positions are stored as they are.
-/
namespace ParseScope

namespace Span

/-- Cutting keeps or drops a span that ends inside the text, and never moves it. -/
theorem cut?_of_inside (span : Span) (length : Nat) (inside : span.last < length) :
    span.cut? length = if span.first < span.last then some span else none := by
  have positive : length ≠ 0 := Nat.ne_of_gt (Nat.zero_lt_of_lt inside)
  have last : min span.last (length - 1) = span.last := by omega
  by_cases covers : span.first < span.last
  · have first : min span.first (length - 1) = span.first := by omega
    simp [cut?,positive,first,last,covers]
  · have above : ¬ min span.first (length - 1) < span.last := by omega
    simp [cut?,positive,last,covers,above]

theorem filterMap_cut? (spans : List Span) (length : Nat)
    (inside : ∀ span ∈ spans, span.last < length) :
    spans.filterMap (·.cut? length) = spans.filter fun span => span.first < span.last := by
  rw [← List.filterMap_eq_filter]
  apply List.filterMap_congr
  intro span member
  simp [cut?_of_inside span length (inside span member),Option.guard]

end Span

theorem Labelled.filterMap_cut? (spans : List Labelled) (length : Nat)
    (inside : ∀ labelled ∈ spans, labelled.span.last < length) :
    spans.filterMap (·.cut? length) =
      spans.filter fun labelled => labelled.span.first < labelled.span.last := by
  rw [← List.filterMap_eq_filter]
  apply List.filterMap_congr
  intro labelled member
  by_cases covers : labelled.span.first < labelled.span.last
  · simp [cut?,Span.cut?_of_inside _ length (inside labelled member),Option.guard,covers]
  · simp [cut?,Span.cut?_of_inside _ length (inside labelled member),Option.guard,covers]

namespace Surface

theorem plain?_mark (surface : Surface) (name : String) (spans : List Span) :
    (surface.mark name spans).plain? name = some (spans.filterMap (·.cut? surface.length)) := by
  simp [mark,put,plain?,NameMap.get?_insert]

theorem labelled?_markLabelled (surface : Surface) (name : String) (spans : List Labelled) :
    (surface.markLabelled name spans).labelled? name =
      some (spans.filterMap (·.cut? surface.length)) := by
  simp [markLabelled,putLabelled,labelled?,NameMap.get?_insert]

theorem plain?_mark_of_ne (surface : Surface) (name other : String) (spans : List Span)
    (apart : other ≠ name) : (surface.mark name spans).plain? other = surface.plain? other :=
  NameMap.get?_insert_of_ne surface.plain name other _ apart

theorem labelled?_markLabelled_of_ne (surface : Surface) (name other : String)
    (spans : List Labelled) (apart : other ≠ name) :
    (surface.markLabelled name spans).labelled? other = surface.labelled? other :=
  NameMap.get?_insert_of_ne surface.labelled name other _ apart

@[simp] theorem labelled?_mark (surface : Surface) (name other : String) (spans : List Span) :
    (surface.mark name spans).labelled? other = surface.labelled? other := rfl

@[simp] theorem plain?_markLabelled (surface : Surface) (name other : String)
    (spans : List Labelled) :
    (surface.markLabelled name spans).plain? other = surface.plain? other :=
  rfl

@[simp] theorem length_mark (surface : Surface) (name : String) (spans : List Span) :
    (surface.mark name spans).length = surface.length := rfl

@[simp] theorem length_markLabelled (surface : Surface) (name : String) (spans : List Labelled) :
    (surface.markLabelled name spans).length = surface.length := rfl

/-- The last set written under a name is the one shown. -/
@[simp] theorem mark_mark (surface : Surface) (name : String) (first second : List Span) :
    (surface.mark name first).mark name second = surface.mark name second := by
  simp only [mark,put,length,NameMap.insert_insert]

@[simp] theorem markLabelled_markLabelled (surface : Surface) (name : String)
    (first second : List Labelled) :
    (surface.markLabelled name first).markLabelled name second =
      surface.markLabelled name second := by
  simp only [markLabelled,putLabelled,length,NameMap.insert_insert]

/-- Sets of the two kinds are written in either order, even under one name. -/
@[simp] theorem mark_markLabelled (surface : Surface) (name other : String) (spans : List Span)
    (labelled : List Labelled) : (surface.markLabelled other labelled).mark name spans =
      (surface.mark name spans).markLabelled other labelled := rfl

@[simp] theorem length_ofText (text : String) : (ofText text).length = text.toList.length := rfl

end Surface

end ParseScope
