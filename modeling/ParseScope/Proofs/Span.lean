import Mathlib.Data.Finset.Card
import Mathlib.Order.Bounds.Basic
import ParseScope.Span

/-!
Spans as sets of positions. A span survives its cut to a text exactly when it covers two positions
of the text at least, and what is kept of it covers the same positions. So two cuts are one cut to
the shorter text.
-/
namespace ParseScope.Span

/-- The positions that a span covers of a text of `length` characters. -/
def positions (span : Span) (length : Nat) : Finset Nat :=
  (Finset.range length).filter fun position => span.first ≤ position ∧ position ≤ span.last

/-- The span covers fewer than two positions of the text. -/
def IsShort (length : Nat) (span : Span) : Prop := (span.positions length).card < 2

instance (length : Nat) (span : Span) : Decidable (span.IsShort length) :=
  inferInstanceAs (Decidable ((span.positions length).card < 2))

theorem mem_positions_iff (span : Span) (length position : Nat) :
    position ∈ span.positions length ↔
      position < length ∧ span.first ≤ position ∧ position ≤ span.last := by
  rw [positions,Finset.mem_filter,Finset.mem_range]

/-- Of two positions the first may be taken to be where the span begins. -/
theorem one_lt_card_positions_iff (span : Span) (length : Nat) :
    1 < (span.positions length).card ↔ span.first < span.last ∧ span.first + 1 < length := by
  simp only [Finset.one_lt_card,mem_positions_iff]
  constructor
  · rintro ⟨a,aCovered,b,bCovered,apart⟩
    omega
  · rintro ⟨ordered,inside⟩
    exact ⟨span.first,by omega,span.first + 1,by omega,by omega⟩

theorem cut?_eq_none_iff (span : Span) (length : Nat) :
    span.cut? length = none ↔ span.IsShort length := by
  have covers := span.one_lt_card_positions_iff length
  rw [IsShort,← Nat.not_le,Nat.succ_le_iff,covers,cut?]
  split
  · next empty => simp [empty]
  · dsimp only
    split
    · next kept =>
      have long : span.first < span.last ∧ span.first + 1 < length := by omega
      simp [long]
    · next dropped =>
      have short : ¬ (span.first < span.last ∧ span.first + 1 < length) := by omega
      simp [short]

/-- As many spans are missing after the cut as are short. -/
theorem length_sub_filterMap_cut? (spans : List Span) (length : Nat) :
    spans.length - (spans.filterMap (·.cut? length)).length =
      spans.countP fun span => span.IsShort length := by
  have kept : (spans.filterMap (·.cut? length)).length =
      spans.countP fun span => ¬ span.IsShort length := by
    rw [List.length_filterMap_eq_countP]
    apply List.countP_congr
    intro span _
    rw [decide_eq_true_iff,← cut?_eq_none_iff,Option.isSome_iff_ne_none]
  have all : spans.length = spans.countP (fun span => span.IsShort length) +
      spans.countP fun span => ¬ span.IsShort length := by
    simpa using List.length_eq_countP_add_countP fun span : Span => decide (span.IsShort length)
  rw [kept,all,Nat.add_sub_cancel]

/-! ### What is kept -/

/-- The first position stays, and the last one is moved into the text. -/
theorem cut?_eq_some_iff_ends (span : Span) (length : Nat) (kept : Span) :
    span.cut? length = some kept ↔ span.first < span.last ∧ span.first + 1 < length ∧
      kept = ⟨span.first,min span.last (length - 1)⟩ := by
  by_cases long : span.first < span.last ∧ span.first + 1 < length
  · obtain ⟨ordered,inside⟩ := long
    have first : min span.first (length - 1) = span.first := by omega
    have covers : span.first < min span.last (length - 1) := by omega
    have positive : length ≠ 0 := Nat.ne_zero_of_lt inside
    simp [cut?,positive,first,covers,ordered,inside,eq_comm]
  · have short : span.cut? length = none := by
      rw [cut?_eq_none_iff,IsShort,Nat.lt_succ_iff,← Nat.not_lt,one_lt_card_positions_iff]
      exact long
    rw [short]
    refine iff_of_false (Option.some_ne_none kept).symm ?_
    rintro ⟨ordered,inside,_⟩
    exact long ⟨ordered,inside⟩

theorem isLeast_positions (span : Span) (length : Nat) (ordered : span.first < span.last)
    (inside : span.first + 1 < length) :
    IsLeast (span.positions length : Set Nat) span.first := by
  constructor
  · rw [Finset.mem_coe,mem_positions_iff]
    omega
  · intro position covered
    exact ((span.mem_positions_iff length position).mp covered).2.1

theorem isGreatest_positions (span : Span) (length : Nat) (ordered : span.first < span.last)
    (inside : span.first + 1 < length) :
    IsGreatest (span.positions length : Set Nat) (min span.last (length - 1)) := by
  constructor
  · rw [Finset.mem_coe,mem_positions_iff]
    omega
  · intro position covered
    have covered := (span.mem_positions_iff length position).mp covered
    omega

/-- What is kept reaches from the least of the covered positions to the greatest. -/
theorem cut?_eq_some_iff_covered (span : Span) (length : Nat) (kept : Span) :
    span.cut? length = some kept ↔ 2 ≤ (span.positions length).card ∧
      IsLeast (span.positions length : Set Nat) kept.first ∧
      IsGreatest (span.positions length : Set Nat) kept.last := by
  have covers := span.one_lt_card_positions_iff length
  rw [cut?_eq_some_iff_ends,Nat.succ_le_iff,covers,and_assoc]
  refine and_congr_right fun ordered => and_congr_right fun inside => ?_
  have least := span.isLeast_positions length ordered inside
  have greatest := span.isGreatest_positions length ordered inside
  rw [least.isLeast_iff_eq,greatest.isGreatest_iff_eq]
  constructor
  · rintro rfl
    exact ⟨rfl,rfl⟩
  · rintro ⟨first,last⟩
    rw [first,last]

/-- Nothing else than the covered positions matters. -/
theorem cut?_congr {span other : Span} {length more : Nat}
    (same : span.positions length = other.positions more) :
    span.cut? length = other.cut? more := by
  apply Option.ext
  intro kept
  rw [cut?_eq_some_iff_covered,cut?_eq_some_iff_covered,same]

/-- What is kept covers of any text what the span covers up to where it was cut. -/
theorem positions_of_cut? {span kept : Span} {length : Nat} (cut : span.cut? length = some kept)
    (more : Nat) : kept.positions more = span.positions (min length more) := by
  obtain ⟨ordered,inside,rfl⟩ := (span.cut?_eq_some_iff_ends length kept).mp cut
  ext position
  simp only [mem_positions_iff]
  omega

theorem positions_mono (span : Span) {length more : Nat} (shorter : length ≤ more) :
    span.positions length ⊆ span.positions more := by
  intro position covered
  have covered := (span.mem_positions_iff length position).mp covered
  exact (span.mem_positions_iff more position).mpr ⟨Nat.lt_of_lt_of_le covered.1 shorter,covered.2⟩

/-- Cut to one text and then to another, a span is cut to the shorter of them. -/
theorem bind_cut? (span : Span) (length more : Nat) :
    (span.cut? length).bind (·.cut? more) = span.cut? (min length more) := by
  cases cut : span.cut? length with
  | none =>
    have short := (span.cut?_eq_none_iff length).mp cut
    have fewer := Finset.card_le_card (span.positions_mono (Nat.min_le_left length more))
    exact ((span.cut?_eq_none_iff _).mpr (Nat.lt_of_le_of_lt fewer short)).symm
  | some kept => exact cut?_congr (positions_of_cut? cut more)

/-- A span is kept exactly when it covers two positions of the text at least, and then from the
least of them to the greatest. So a second cut changes nothing, and two cuts are one to the shorter
text. -/
theorem cut?_keeps_covered (span : Span) :
    (∀ length, (span.cut? length).isSome = true ↔ 2 ≤ (span.positions length).card) ∧
    (∀ length kept, span.cut? length = some kept ↔ 2 ≤ (span.positions length).card ∧
      IsLeast (span.positions length : Set Nat) kept.first ∧
      IsGreatest (span.positions length : Set Nat) kept.last) ∧
    (∀ length, (span.cut? length).bind (·.cut? length) = span.cut? length) ∧
    ∀ length more, (span.cut? length).bind (·.cut? more) = span.cut? (min length more) := by
  refine ⟨fun length => ?_,span.cut?_eq_some_iff_covered,fun length => ?_,span.bind_cut?⟩
  · rw [Option.isSome_iff_ne_none,ne_eq,cut?_eq_none_iff,IsShort,Nat.not_lt]
  · rw [bind_cut?,Nat.min_self]

/-- The last four positions of the text. -/
example : (⟨6,40⟩ : Span).cut? 10 = some ⟨6,9⟩ ∧
    (⟨6,40⟩ : Span).positions 10 = {6,7,8,9} := by decide

end ParseScope.Span
