import ParseScope.Proofs.Attempt.Matches
import ParseScope.Proofs.Trace.Enclosers

/-!
The order of the matches of any trace, whether or not its attempts lie inside one another. Sorting
puts records by start and then by depth, and leaves those that agree in both as they stood in the
trace.
-/
namespace ParseScope

open Grammar (Patterns)

/-- Whether a record has these two numbers, which decide its place among the matches. -/
def Record.hasKey (start depth : Nat) (record : Record) : Bool :=
  record.start = start && record.depth = depth

namespace Trace

/-- The given records in another order: by start, then by depth, then as they were given. -/
structure Sorted (given sorted : List Record) : Prop where
  perm : sorted.Perm given
  ascending : sorted.Pairwise fun a b =>
    a.start < b.start ∨ (a.start = b.start ∧ a.depth ≤ b.depth)
  stable : ∀ start depth,
    sorted.filter (Record.hasKey start depth) = given.filter (Record.hasKey start depth)

/-- Records of one start and depth are sorted already, so sorting keeps them in order. -/
theorem filter_mergeSort (records : List Record) (start depth : Nat) :
    (records.mergeSort startsFirst).filter (Record.hasKey start depth) =
      records.filter (Record.hasKey start depth) := by
  have alike : (records.filter (Record.hasKey start depth)).Pairwise
      fun a b => startsFirst a b = true := by
    rw [List.pairwise_filter]
    apply List.pairwise_of_forall
    intro a b aHere bHere
    simp only [Record.hasKey,Bool.and_eq_true,decide_eq_true_eq] at aHere bHere
    rw [startsFirst_iff]
    omega
  have kept := List.sublist_mergeSort startsFirst_trans startsFirst_total alike
    List.filter_sublist
  have keptHere := kept.filter (Record.hasKey start depth)
  rw [List.filter_filter] at keptHere
  simp only [Bool.and_self] at keptHere
  have same := (List.mergeSort_perm records startsFirst).filter (Record.hasKey start depth)
  exact (keptHere.eq_of_length same.length_eq.symm).symm

theorem sorted_mergeSort (records : List Record) :
    Sorted records (records.mergeSort startsFirst) := by
  refine ⟨List.mergeSort_perm records startsFirst,?_,filter_mergeSort records⟩
  apply (List.pairwise_mergeSort startsFirst_trans startsFirst_total records).imp
  intro a b before
  exact (startsFirst_iff a b).mp before

theorem mem_of_mem_survivors (trace : Trace) (record : Record)
    (member : record ∈ trace.survivors) : record ∈ trace := by
  obtain ⟨place,found⟩ := (picks_survivors [] trace).exists_place record member
  exact List.mem_of_getElem? found

/-- What ends no earlier than it starts consumed input or stands at a single offset. -/
theorem filter_consumed (records : List Record)
    (ordered : ∀ record ∈ records, record.start ≤ record.stop) :
    (records.filter fun record => !record.isEmpty) =
      records.filter fun record => record.start < record.stop := by
  apply List.filter_congr
  intro record member
  have spans := ordered record member
  simp only [Record.isEmpty,Nat.lt_iff_le_and_ne,spans,true_and,decide_not]

/-- A record in order is labelled with the name that the table gives its rule. -/
theorem labels_labelled (rules : Rules) (record : Record) (valid : record.Valid rules) :
    Labels rules (labelled rules record) record := by
  have known := valid.1
  rw [Rules.size] at known
  exact ⟨rfl,by simp [labelled,Rules.nameOf,Rules.get?,known]⟩

end Trace

/-- How the matches of a report come from the records of a trace: from those that consumed input,
of the records that succeeded inside records that all succeeded. -/
structure Report.Lists (report : Report) (rules : Rules) (records listed : Trace) : Prop where
  surviving : Picks (Trace.SurvivesAt records) (fun place record => records[place]? = some record) 0
    records.survivors
  sorted : Trace.Sorted (records.survivors.filter fun record => record.start < record.stop) listed
  labels : List.Forall₂ (Labels rules) report.matched listed
  forward : ∀ labelled ∈ report.matched, labelled.span.first ≤ labelled.span.last

namespace Attempt

/-- A report on a parse with a tree lists what survives of the trace and consumed input, in order of
start and depth, each record with its last position and the name of its rule. -/
theorem report_matched_sorted [Patterns] (attempt : Attempt) (settings : Settings) (tree : Tree)
    (report : Report) (compiled : attempt.compileError = none) (accepted : attempt.tree = some tree)
    (reported : attempt.report settings = .ok report) :
    ∃ records listed, Trace.ofWire attempt.trace attempt.rules = .ok records ∧
      report.Lists attempt.rules records listed := by
  simp only [Attempt.report,compiled,accepted,bind_eq_ok_iff,pure_eq_ok_iff] at reported
  obtain ⟨records,decoded,rfl⟩ := reported
  have valid := ((Trace.ofWire_eq_ok_iff_encodes attempt.rules attempt.trace records).mp decoded).2
  have survivorValid (record : Record) (member : record ∈ records.survivors) :=
    valid record (Trace.mem_of_mem_survivors records record member)
  let consumed := records.survivors.filter fun record => record.start < record.stop
  have sorted := Trace.sorted_mergeSort consumed
  have matched : records.matched attempt.rules =
      (consumed.mergeSort Trace.startsFirst).map (Trace.labelled attempt.rules) := by
    rw [Trace.matched,Trace.filter_consumed records.survivors fun record member =>
      (survivorValid record member).2]
  have consumes (record : Record) (member : record ∈ consumed.mergeSort Trace.startsFirst) :
      record.Valid attempt.rules ∧ record.start < record.stop := by
    obtain ⟨survives,consumes⟩ := List.mem_filter.mp (sorted.perm.mem_iff.mp member)
    exact ⟨survivorValid record survives,of_decide_eq_true consumes⟩
  refine ⟨records,_,decoded,Trace.picks_survivors [] records,sorted,?_,?_⟩
  · change List.Forall₂ _ (records.matched attempt.rules) _
    rw [matched,List.forall₂_map_left_iff,List.forall₂_same]
    intro record member
    exact Trace.labels_labelled attempt.rules record (consumes record member).1
  · intro labelled member
    change labelled ∈ records.matched attempt.rules at member
    rw [matched] at member
    obtain ⟨record,recordMember,rfl⟩ := List.mem_map.mp member
    have ends := (consumes record recordMember).2
    change record.start ≤ record.stop - 1
    omega

end Attempt

/-- A pair whose items were matched more than once, one of them inside an attempt that failed and
one without any input. -/
def repeatedAttempt : Attempt where
  input := "abc"
  rules := ⟨["pair","item"]⟩
  trace := [1,1,0,2, 1,1,0,1, 1,1,0,1, 1,1,1,1, 1,2,0,3, -1,1,0,3, 0,0,0,2]
  tree := some (.leaf "pair" "ab")

theorem repeatedAttempt_sorted : ∃ report records listed, repeatedAttempt.report {} = .ok report ∧
    Trace.ofWire repeatedAttempt.trace repeatedAttempt.rules = .ok records ∧
    report.Lists repeatedAttempt.rules records listed ∧
    report.matched = [⟨⟨0,1⟩,"pair"⟩,⟨⟨0,1⟩,"item"⟩,⟨⟨0,0⟩,"item"⟩,⟨⟨0,0⟩,"item"⟩] := by
  obtain ⟨records,listed,decoded,lists⟩ := repeatedAttempt.report_matched_sorted {}
    (.leaf "pair" "ab") _ rfl rfl rfl
  have sorted : List.mergeSort [⟨.success 1,1,0,2⟩,⟨.success 1,1,0,1⟩,⟨.success 1,1,0,1⟩,
      ⟨.success 0,0,0,2⟩] Trace.startsFirst = [⟨.success 0,0,0,2⟩,⟨.success 1,1,0,2⟩,
      ⟨.success 1,1,0,1⟩,⟨.success 1,1,0,1⟩] := by
    simp [List.mergeSort,List.MergeSort.Internal.splitInTwo,Trace.startsFirst]
  exact ⟨_,records,listed,rfl,decoded,lists,congrArg (List.map (Trace.labelled _)) sorted⟩

end ParseScope
