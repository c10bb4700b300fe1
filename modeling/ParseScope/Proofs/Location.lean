import Mathlib.Data.Prod.Lex
import Mathlib.Order.Bounds.Basic
import ParseScope.Location

/-!
Where the error is. Input after the top-level match decides alone; otherwise the failure that is
greatest by end and depth decides, the earliest of several such.
-/
namespace ParseScope.Location

/-- The ends of the successes at the top level. -/
def matchedEnds (trace : Trace) : Set Nat :=
  {stop | ∃ record ∈ trace, record.depth = 0 ∧ record.isSuccess = true ∧ record.stop = stop}

/-- How far an attempt reached: its end, and at the same end its depth. -/
def reach (record : Record) : Nat ×ₗ Nat := toLex (record.stop,record.depth)

/-- A record of greatest reach, before all others that reach as far. -/
def FirstFurthest (records : List Record) (record : Record) : Prop :=
  ∃ before after, records = before ++ record :: after ∧
    (∀ other ∈ before, reach other < reach record) ∧ ∀ other ∈ after, reach other ≤ reach record

/-- The failure that decides on a trace: no failure reaches further, and none before it as far. -/
structure Deciding (trace : Trace) (record : Record) : Prop where
  failure : record.isFailure = true
  furthest : ∀ other ∈ trace, other.isFailure = true → reach other ≤ reach record
  earliest : ∃ before after, trace = before ++ record :: after ∧
    ∀ other ∈ before, other.isFailure = true → reach other ≠ reach record

/-- The answer on a trace and an input, by the first of three rules that applies. -/
inductive Located (trace : Trace) (input : List Char) : Option Location → Prop where
  | trailing (matched : Nat) (greatest : IsGreatest (matchedEnds trace) matched)
      (short : matched < input.length) :
      Located trace input (some ⟨⟨matched, input.length - 1⟩, .trailingInput matched⟩)
  | failed (record : Record)
      (complete : ∀ matched, IsGreatest (matchedEnds trace) matched → input.length ≤ matched)
      (deciding : Deciding trace record) :
      Located trace input (some ⟨spanAt input record.stop,
        .failedRule record.verdict record.depth record.stop⟩)
  | clean
      (complete : ∀ matched, IsGreatest (matchedEnds trace) matched → input.length ≤ matched)
      (successes : ∀ record ∈ trace, record.isSuccess = true) :
      Located trace input none

theorem reachesFurther_iff (record best : Record) :
    reachesFurther record best = true ↔ reach best < reach record := by
  simp only [reach,Prod.Lex.toLex_lt_toLex,reachesFurther,Bool.or_eq_true,Bool.and_eq_true,
    decide_eq_true_eq]
  omega

theorem matchedEnd?_eq_some_iff (trace : Trace) (matched : Nat) :
    matchedEnd? trace = some matched ↔ IsGreatest (matchedEnds trace) matched := by
  rw [matchedEnd?,List.max?_eq_some_iff]
  simp [IsGreatest,matchedEnds,upperBounds,and_assoc]

namespace FirstFurthest

theorem reach_le {records : List Record} {winner : Record} (first : FirstFurthest records winner)
    (record : Record) (member : record ∈ records) : reach record ≤ reach winner := by
  obtain ⟨before,after,rfl,less,atMost⟩ := first
  rcases List.mem_append.mp member with member | member
  · exact le_of_lt (less record member)
  · rcases List.mem_cons.mp member with rfl | member
    · exact le_refl _
    · exact atMost record member

/-- A record that is outdone later may stand in front. -/
theorem cons {records : List Record} {winner : Record} (first : FirstFurthest records winner)
    (record : Record) (less : reach record < reach winner) :
    FirstFurthest (record :: records) winner := by
  obtain ⟨before,after,rfl,lessBefore,atMost⟩ := first
  refine ⟨record :: before,after,rfl,?_,atMost⟩
  intro other member
  rcases List.mem_cons.mp member with rfl | member
  · exact less
  · exact lessBefore other member

/-- A record that does not reach further than the one before it may be left out. -/
theorem skip {records : List Record} {winner best : Record}
    (first : FirstFurthest (best :: records) winner) (record : Record)
    (atMost : reach record ≤ reach best) : FirstFurthest (best :: record :: records) winner := by
  have bestAtMost := first.reach_le best List.mem_cons_self
  obtain ⟨before,after,split,less,atMostAfter⟩ := first
  cases before with
  | nil =>
    obtain ⟨rfl,rfl⟩ := List.cons.inj split
    refine ⟨[],record :: records,rfl,by simp,?_⟩
    intro other member
    rcases List.mem_cons.mp member with rfl | member
    · exact atMost
    · exact atMostAfter other member
  | cons head before =>
    obtain ⟨rfl,rfl⟩ := List.cons.inj split
    have bestLess := less best List.mem_cons_self
    refine ⟨best :: record :: before,after,rfl,?_,atMostAfter⟩
    intro other member
    rcases List.mem_cons.mp member with rfl | member
    · exact bestLess
    · rcases List.mem_cons.mp member with rfl | member
      · exact lt_of_le_of_lt atMost bestLess
      · exact less other (List.mem_cons_of_mem _ member)

end FirstFurthest

/-- The running best of a scan is the first record of greatest reach. -/
theorem firstFurthest_foldl (rest : List Record) (best : Record) :
    FirstFurthest (best :: rest)
      (rest.foldl (fun best next => if reachesFurther next best then next else best) best) := by
  induction rest generalizing best with
  | nil => exact ⟨[],[],rfl,by simp,by simp⟩
  | cons next rest ih =>
    rw [List.foldl_cons]
    split
    · next further =>
      have first := ih next
      have less := (reachesFurther_iff next best).mp further
      exact first.cons best (lt_of_lt_of_le less (first.reach_le next List.mem_cons_self))
    · next further =>
      exact (ih best).skip next (not_lt.mp (mt (reachesFurther_iff next best).mpr further))

theorem firstFurthest_of_furthest? (records : List Record) (winner : Record)
    (found : furthest? records = some winner) : FirstFurthest records winner := by
  cases records with
  | nil => simp [furthest?] at found
  | cons best rest =>
    obtain rfl := Option.some.inj found
    exact firstFurthest_foldl rest best

theorem deciding_of_firstFurthest (trace : Trace) (record : Record)
    (first : FirstFurthest trace.failed record) : Deciding trace record := by
  have furthest := first.reach_le
  obtain ⟨before,after,split,less,_⟩ := first
  obtain ⟨front,back,rfl,frontFailed,backFailed⟩ := List.filter_eq_append_iff.mp split
  obtain ⟨successes,rest,rfl,noFailure,failure,_⟩ := List.filter_eq_cons_iff.mp backFailed
  refine ⟨failure,?_,front ++ successes,rest,by simp,?_⟩
  · intro other member otherFailure
    exact furthest other (List.mem_filter.mpr ⟨member,otherFailure⟩)
  · intro other member otherFailure
    rcases List.mem_append.mp member with member | member
    · exact ne_of_lt (less other (frontFailed ▸ List.mem_filter.mpr ⟨member,otherFailure⟩))
    · exact absurd otherFailure (noFailure other member)

/-- Only one record can decide: of two that reach as far the later has the earlier before it. -/
theorem Deciding.unique {trace : Trace} {a b : Record} (decidingA : Deciding trace a)
    (decidingB : Deciding trace b) : a = b := by
  obtain ⟨beforeA,afterA,splitA,firstA⟩ := decidingA.earliest
  obtain ⟨beforeB,afterB,splitB,firstB⟩ := decidingB.earliest
  have memberA : a ∈ trace := by simp [splitA]
  have memberB : b ∈ trace := by simp [splitB]
  have same : reach a = reach b := le_antisymm
    (decidingB.furthest a memberA decidingA.failure)
    (decidingA.furthest b memberB decidingB.failure)
  rcases List.append_eq_append_iff.mp (splitA.symm.trans splitB) with
    ⟨between,rfl,tail⟩ | ⟨between,rfl,tail⟩
  · cases between with
    | nil => exact (List.cons.inj tail).1
    | cons head between =>
      obtain ⟨rfl,_⟩ := List.cons.inj tail
      exact absurd same (firstB a (by simp) decidingA.failure)
  · cases between with
    | nil => exact (List.cons.inj tail).1.symm
    | cons head between =>
      obtain ⟨rfl,_⟩ := List.cons.inj tail
      exact absurd same.symm (firstA b (by simp) decidingB.failure)

theorem ofTrailing?_eq_some_iff (trace : Trace) (input : List Char) (location : Location) :
    ofTrailing? trace input = some location ↔
      ∃ matched, IsGreatest (matchedEnds trace) matched ∧ matched < input.length ∧
        location = ⟨⟨matched, input.length - 1⟩, .trailingInput matched⟩ := by
  simp only [← matchedEnd?_eq_some_iff,ofTrailing?]
  cases matchedEnd? trace with
  | none => simp
  | some matched =>
    by_cases short : matched < input.length
    · simp [short,eq_comm]
    · simp [short]

theorem ofTrailing?_eq_none (trace : Trace) (input : List Char)
    (none : ofTrailing? trace input = none) (matched : Nat)
    (greatest : IsGreatest (matchedEnds trace) matched) : input.length ≤ matched := by
  apply not_lt.mp
  intro short
  have found := (ofTrailing?_eq_some_iff trace input _).mpr ⟨matched,greatest,short,rfl⟩
  simp [none] at found

theorem furthest?_eq_none (trace : Trace) (none : furthest? trace.failed = none) :
    ∀ record ∈ trace, record.isSuccess = true := by
  have empty : trace.failed = [] := by
    cases failed : trace.failed with
    | nil => rfl
    | cons record rest => simp [failed,furthest?] at none
  intro record member
  have success := List.filter_eq_nil_iff.mp empty record member
  simpa [Record.isFailure,Verdict.isFailure,Record.isSuccess] using success

theorem located_ofTrace? (trace : Trace) (input : List Char) :
    Located trace input (ofTrace? trace input) := by
  rw [ofTrace?]
  cases trailing : ofTrailing? trace input with
  | some location =>
    obtain ⟨matched,greatest,short,rfl⟩ :=
      (ofTrailing?_eq_some_iff trace input location).mp trailing
    exact .trailing matched greatest short
  | none =>
    have complete := ofTrailing?_eq_none trace input trailing
    rw [Option.none_or,ofFailures?]
    cases furthest : furthest? trace.failed with
    | none => exact .clean complete (furthest?_eq_none trace furthest)
    | some record =>
      have first := firstFurthest_of_furthest? trace.failed record furthest
      exact .failed record complete (deciding_of_firstFurthest trace record first)

theorem Deciding.exists_failure {trace : Trace} {record : Record}
    (deciding : Deciding trace record) : ¬ ∀ other ∈ trace, other.isSuccess = true := by
  obtain ⟨before,after,split,_⟩ := deciding.earliest
  intro successes
  have success := successes record (by simp [split])
  have failure := deciding.failure
  simp only [Record.isFailure,Verdict.isFailure,Record.isSuccess] at failure success
  simp [success] at failure

theorem Located.unique {trace : Trace} {input : List Char} {a b : Option Location}
    (locatedA : Located trace input a) (locatedB : Located trace input b) : a = b := by
  cases locatedA with
  | trailing matched greatest short =>
    cases locatedB with
    | trailing other otherGreatest _ => rw [greatest.unique otherGreatest]
    | failed _ complete => exact absurd short (not_lt.mpr (complete matched greatest))
    | clean complete => exact absurd short (not_lt.mpr (complete matched greatest))
  | failed record complete deciding =>
    cases locatedB with
    | trailing matched greatest short =>
      exact absurd short (not_lt.mpr (complete matched greatest))
    | failed other _ otherDeciding => rw [deciding.unique otherDeciding]
    | clean _ successes => exact absurd successes deciding.exists_failure
  | clean complete successes =>
    cases locatedB with
    | trailing matched greatest short =>
      exact absurd short (not_lt.mpr (complete matched greatest))
    | failed _ _ deciding => exact absurd successes deciding.exists_failure
    | clean => rfl

/-- The location of a trace is the answer of the three rules and no other, and the check for a
parse that gave a tree is the first of them alone. -/
theorem ofTrace?_eq_iff_located (trace : Trace) (input : List Char) :
    (∀ answer, ofTrace? trace input = answer ↔ Located trace input answer) ∧
    ∀ location, ofTrailing? trace input = some location ↔
      ∃ matched, IsGreatest (matchedEnds trace) matched ∧ matched < input.length ∧
        location = ⟨⟨matched, input.length - 1⟩, .trailingInput matched⟩ := by
  refine ⟨fun answer => ⟨?_,?_⟩,ofTrailing?_eq_some_iff trace input⟩
  · rintro rfl
    exact located_ofTrace? trace input
  · intro located
    exact (located_ofTrace? trace input).unique located

end ParseScope.Location
