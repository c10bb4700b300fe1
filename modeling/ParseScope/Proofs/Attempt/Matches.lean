import Mathlib.Data.List.Forall2
import Mathlib.Data.List.Nodup
import ParseScope.Attempt.Report
import ParseScope.Grammar.Patterns
import ParseScope.Proofs.Trace.Survivors
import ParseScope.Proofs.Trace.Wire

/-!
The matches of a report. Sorting by start and depth restores any order that is strict in them, so
the matches of an orderly forest stand in pre-order.
-/
namespace ParseScope

open Grammar (Patterns)

namespace Trace

theorem startsFirst_iff (a b : Record) : startsFirst a b = true ↔
    a.start < b.start ∨ (a.start = b.start ∧ a.depth ≤ b.depth) := by
  simp [startsFirst]

theorem startsFirst_total (a b : Record) : (startsFirst a b || startsFirst b a) = true := by
  simp only [Bool.or_eq_true,startsFirst_iff]
  omega

theorem startsFirst_trans (a b c : Record) (ab : startsFirst a b = true)
    (bc : startsFirst b c = true) : startsFirst a c = true := by
  simp only [startsFirst_iff] at *
  omega

/-- Sorting by start and depth restores any order that is strict in them. -/
theorem mergeSort_startsFirst (records sorted : List Record) (same : records.Perm sorted)
    (strict : sorted.Pairwise Forest.Before) : records.mergeSort startsFirst = sorted := by
  have distinct : (sorted.map fun record => (record.start,record.depth)).Nodup := by
    apply List.pairwise_map.mpr
    apply strict.imp
    intro a b before keys
    simp only [Prod.mk.injEq] at keys
    rcases before with before | before <;> omega
  have ascending : sorted.Pairwise fun a b => startsFirst a b = true := by
    apply strict.imp
    intro a b before
    rw [startsFirst_iff]
    rcases before with before | before <;> omega
  have sameMembers := (List.mergeSort_perm records startsFirst).trans same
  apply List.Perm.eq_of_pairwise _
    (List.pairwise_mergeSort startsFirst_trans startsFirst_total records) ascending sameMembers
  intro a b aMember bMember ab ba
  apply List.inj_on_of_nodup_map distinct (sameMembers.mem_iff.mp aMember) bMember
  simp only [startsFirst_iff] at ab ba
  simp only [Prod.mk.injEq]
  omega

/-- The survivors in trace order are those of the forest, in another order. -/
theorem survivors_perm_kept (forest : Forest) : (survivors forest.trace).Perm (forest.kept []) := by
  have walked := (walk_postorder forest [] Walk.start trivial).1
  rw [Walk.start,List.append_nil] at walked
  rw [survivors,Forest.trace,Walk.start,walked]
  exact (((forest.preorder_perm_postorder []).filter Site.survives).map Site.record).symm

/-- The matches of an orderly forest are its survivors that consumed input, outer ones first. -/
theorem matched_of_orderly (rules : Rules) (forest : Forest) (orderly : forest.Orderly)
    (ordered : ∀ record ∈ forest.trace, record.start ≤ record.stop) :
    forest.trace.matched rules =
      ((forest.kept []).filter fun record => record.start < record.stop).map (labelled rules) := by
  have consumes : ∀ record ∈ survivors forest.trace,
      (!record.isEmpty) = decide (record.start < record.stop) := by
    intro record member
    obtain ⟨site,siteMember,rfl⟩ := List.mem_map.mp ((survivors_perm_kept forest).mem_iff.mp member)
    have spans := ordered _
      (forest.mem_trace_of_mem_preorder site (List.mem_filter.mp siteMember).1)
    simp only [Record.isEmpty,Nat.lt_iff_le_and_ne,spans,true_and,decide_not]
  have strict : ((forest.kept []).filter fun record => record.start < record.stop).Pairwise
      Forest.Before := by
    rw [List.pairwise_filter]
    apply (forest.kept_pairwise [] rfl orderly.nested orderly.inTurn fun site member =>
      ordered _ (forest.mem_trace_of_mem_preorder site member)).imp
    intro a b before consumed _
    exact before (of_decide_eq_true consumed)
  rw [matched,List.filter_congr consumes]
  rw [mergeSort_startsFirst _ _ ((survivors_perm_kept forest).filter _) strict]

end Trace

/-- What a labelled span says of a record: what it covers, and the name that the table has for its
rule. -/
structure Labels (rules : Rules) (labelled : Labelled) (record : Record) : Prop where
  span : labelled.span = ⟨record.start, record.stop - 1⟩
  label : rules.get? record.verdict.rule = some labelled.label

theorem Labels.leftUnique (rules : Rules) : Relator.LeftUnique (Labels rules) := by
  rintro ⟨spanA,nameA⟩ ⟨spanB,nameB⟩ record ⟨rfl,labelA⟩ ⟨rfl,labelB⟩
  have names : nameA = nameB := Option.some.inj (labelA.symm.trans labelB)
  rw [names]

namespace Attempt

/-- The matches of an accepted parse are the survivors of its forest that consumed input, outer
ones first, each with its last position and the name of its rule. -/
theorem report_matched_preorder [Patterns] (attempt : Attempt) (settings : Settings) (tree : Tree)
    (forest : Forest) (compiled : attempt.compileError = none) (accepted : attempt.tree = some tree)
    (encoded : Trace.Encodes attempt.trace forest.trace)
    (valid : ∀ record ∈ forest.trace, record.Valid attempt.rules) (orderly : forest.Orderly) :
    ∃ report, attempt.report settings = .ok report ∧
      List.Forall₂ (Labels attempt.rules) report.matched
        ((forest.kept []).filter fun record => record.start < record.stop) := by
  have decoded := Trace.ofWire_of_encodes attempt.rules attempt.trace forest.trace encoded valid
  refine ⟨⟨attempt.success settings forest.trace tree,Grammar.definitions attempt.grammar,
    forest.trace.matched attempt.rules⟩,?_,?_⟩
  · simp [report,compiled,accepted,decoded,bind,Except.bind,pure,Except.pure]
  · rw [Trace.matched_of_orderly attempt.rules forest orderly fun record member =>
      (valid record member).2]
    rw [List.forall₂_map_left_iff,List.forall₂_same]
    intro record member
    obtain ⟨site,siteMember,rfl⟩ := List.mem_map.mp (List.mem_filter.mp member).1
    have known := (valid _ (forest.mem_trace_of_mem_preorder site
      (List.mem_filter.mp siteMember).1)).1
    simp only [Rules.size] at known
    exact ⟨rfl,by simp [Trace.labelled,Rules.nameOf,Rules.get?,known]⟩

end Attempt

/-- A sum, first tried in vain as a whole, then read with a digit inside a number and an operator of
no width. -/
def sumForest : Forest :=
  .attempt (.success 0) 0 3
    (.attempt (.failure 0) 0 3 (.attempt (.success 1) 0 2 .empty .empty)
      (.attempt (.success 1) 0 1 (.attempt (.success 3) 0 1 .empty .empty)
        (.attempt (.success 2) 1 1 .empty
          (.attempt (.success 2) 1 2 .empty
            (.attempt (.success 1) 2 3 .empty .empty)))))
    .empty

def sumAttempt : Attempt where
  input := "1+2"
  rules := ⟨["sum","number","operator","digit"]⟩
  trace := [1,2,0,2, -1,1,0,3, 3,2,0,1, 1,1,0,1, 2,1,1,1, 2,1,1,2, 1,1,2,3, 0,0,0,3]
  tree := some (.leaf "sum" "1+2")

theorem sumAttempt_matched : ∃ report, sumAttempt.report {} = .ok report ∧ report.matched =
    [⟨⟨0,2⟩,"sum"⟩,⟨⟨0,0⟩,"number"⟩,⟨⟨0,0⟩,"digit"⟩,⟨⟨1,1⟩,"operator"⟩,⟨⟨2,2⟩,"number"⟩] := by
  have orderly : sumForest.Orderly := by
    constructor <;>
      simp [sumForest,Forest.Nested,Forest.InTurn,Forest.successes,Verdict.isSuccess]
  obtain ⟨report,reported,labels⟩ := Attempt.report_matched_preorder sumAttempt {}
    (.leaf "sum" "1+2") sumForest rfl rfl rfl (by unfold Record.Valid; decide) orderly
  have kept : ((sumForest.kept []).filter fun record => record.start < record.stop) =
      [⟨.success 0,0,0,3⟩,⟨.success 1,1,0,1⟩,⟨.success 3,2,0,1⟩,⟨.success 2,1,1,2⟩,
        ⟨.success 1,1,2,3⟩] := by decide
  refine ⟨report,reported,?_⟩
  apply List.left_unique_forall₂' (Labels.leftUnique sumAttempt.rules) (kept ▸ labels)
  repeat' constructor

end ParseScope
