import Mathlib.Logic.Relation
import ParseScope.Proofs.Picks
import ParseScope.Trace.Survivors

/-!
Survivors of any trace, whether or not its depths are those of attempts inside attempts. What
encloses an attempt is the first later record one level above it; an attempt survives when it and
everything around it succeeded. The walk knows of each depth the first record to be found there.
-/
namespace ParseScope.Trace

def depthAt? (records : Trace) (place : Nat) : Option Nat := records[place]?.map Record.depth

/-- The record at `place` is the first one at its depth. -/
structure FirstAt (records : Trace) (depth place : Nat) : Prop where
  here : depthAt? records place = some depth
  before : ∀ earlier < place, depthAt? records earlier ≠ some depth

/-- The record at `outer` encloses that at `inner`: of the later records it is the first one level
above. -/
structure Encloses (records : Trace) (inner outer : Nat) : Prop where
  later : inner < outer
  above : ∃ depth, depthAt? records inner = some (depth + 1) ∧ depthAt? records outer = some depth ∧
    ∀ between, inner < between → between < outer → depthAt? records between ≠ some depth

def SuccessAt (records : Trace) (place : Nat) : Prop :=
  ∃ record, records[place]? = some record ∧ record.isSuccess = true

/-- The record at `place`, the one that encloses it, and so on outwards all succeeded. -/
def SurvivesAt (records : Trace) (place : Nat) : Prop :=
  ∀ outer, Relation.ReflTransGen (Encloses records) place outer → SuccessAt records outer

/-! ### One record more -/

section Cons

variable (record : Record) (rest : Trace)

@[simp] theorem depthAt?_zero : depthAt? (record :: rest) 0 = some record.depth := rfl

@[simp] theorem depthAt?_succ (place : Nat) :
    depthAt? (record :: rest) (place + 1) = depthAt? rest place := rfl

theorem firstAt_zero (depth : Nat) : FirstAt (record :: rest) depth 0 ↔ record.depth = depth :=
  ⟨fun first => Option.some.inj first.here,fun same => ⟨congrArg some same,nofun⟩⟩

theorem firstAt_succ (depth place : Nat) : FirstAt (record :: rest) depth (place + 1) ↔
    record.depth ≠ depth ∧ FirstAt rest depth place := by
  constructor
  · rintro ⟨here,before⟩
    refine ⟨fun same => before 0 (Nat.succ_pos place) (congrArg some same),here,?_⟩
    intro earlier less
    exact before (earlier + 1) (Nat.succ_lt_succ less)
  · rintro ⟨other,here,before⟩
    refine ⟨here,fun earlier less => ?_⟩
    cases earlier with
    | zero => exact fun same => other (Option.some.inj same)
    | succ earlier => exact before earlier (Nat.lt_of_succ_lt_succ less)

/-- The first record is enclosed by the first of the others one level above. -/
theorem encloses_zero (outer : Nat) : Encloses (record :: rest) 0 outer ↔
    ∃ depth place, record.depth = depth + 1 ∧ outer = place + 1 ∧ FirstAt rest depth place := by
  constructor
  · rintro ⟨later,depth,inner,here,between⟩
    obtain ⟨place,rfl⟩ := Nat.exists_eq_succ_of_ne_zero (Nat.ne_of_gt later)
    refine ⟨depth,place,Option.some.inj inner,rfl,here,fun earlier less => ?_⟩
    exact between (earlier + 1) (Nat.succ_pos earlier) (Nat.succ_lt_succ less)
  · rintro ⟨depth,place,inner,rfl,here,before⟩
    refine ⟨Nat.succ_pos place,depth,congrArg some inner,here,fun between after less => ?_⟩
    obtain ⟨earlier,rfl⟩ := Nat.exists_eq_succ_of_ne_zero (Nat.ne_of_gt after)
    exact before earlier (Nat.lt_of_succ_lt_succ less)

/-- Among the others nothing changes. -/
theorem encloses_succ (inner outer : Nat) : Encloses (record :: rest) (inner + 1) outer ↔
    ∃ place, outer = place + 1 ∧ Encloses rest inner place := by
  constructor
  · rintro ⟨later,depth,innerDepth,here,between⟩
    obtain ⟨place,rfl⟩ := Nat.exists_eq_succ_of_ne_zero (Nat.ne_zero_of_lt later)
    refine ⟨place,rfl,Nat.lt_of_succ_lt_succ later,depth,innerDepth,here,fun other after less => ?_⟩
    exact between (other + 1) (Nat.succ_lt_succ after) (Nat.succ_lt_succ less)
  · rintro ⟨place,rfl,later,depth,innerDepth,here,between⟩
    refine ⟨Nat.succ_lt_succ later,depth,innerDepth,here,fun other after less => ?_⟩
    obtain ⟨other,rfl⟩ := Nat.exists_eq_succ_of_ne_zero (Nat.ne_zero_of_lt after)
    exact between other (Nat.lt_of_succ_lt_succ after) (Nat.lt_of_succ_lt_succ less)

theorem successAt_zero : SuccessAt (record :: rest) 0 ↔ record.isSuccess = true := by
  simp [SuccessAt]

theorem survivesAt_succ (place : Nat) :
    SurvivesAt (record :: rest) (place + 1) ↔ SurvivesAt rest place := by
  constructor
  · intro survives outer chain
    apply survives (outer + 1)
    exact chain.lift Nat.succ fun inner next encloses =>
      (encloses_succ record rest inner _).mpr ⟨next,rfl,encloses⟩
  · intro survives outer chain
    -- The chain never comes back to the first record.
    have inside : ∃ other, outer = other + 1 ∧
        Relation.ReflTransGen (Encloses rest) place other := by
      induction chain with
      | refl => exact ⟨place,rfl,.refl⟩
      | tail _ step ih =>
        obtain ⟨inner,rfl,upTo⟩ := ih
        obtain ⟨next,rfl,encloses⟩ := (encloses_succ record rest inner _).mp step
        exact ⟨next,rfl,upTo.tail encloses⟩
    obtain ⟨other,rfl,upTo⟩ := inside
    exact survives other upTo

/-- The first record survives when it succeeded and what encloses it survives. -/
theorem survivesAt_zero : SurvivesAt (record :: rest) 0 ↔ record.isSuccess = true ∧
    ∀ depth, record.depth = depth + 1 →
      ∀ place, FirstAt rest depth place → SurvivesAt rest place := by
  constructor
  · intro survives
    refine ⟨(successAt_zero record rest).mp (survives 0 .refl),fun depth inner place first => ?_⟩
    have encloses : Encloses (record :: rest) 0 (place + 1) :=
      (encloses_zero record rest _).mpr ⟨depth,place,inner,rfl,first⟩
    rw [← survivesAt_succ record rest place]
    exact fun outer chain => survives outer (.head encloses chain)
  · rintro ⟨success,around⟩ outer chain
    rcases chain.cases_head with rfl | ⟨next,encloses,chain⟩
    · exact (successAt_zero record rest).mpr success
    · obtain ⟨depth,place,inner,rfl,first⟩ := (encloses_zero record rest next).mp encloses
      exact (survivesAt_succ record rest place).mpr (around depth inner place first) outer chain

end Cons

/-! ### The walk -/

/-- What the walk remembers of the records it has met: for each depth, whether the first of them
there survives. -/
def Walk.Knows (walk : Walk) (records : Trace) : Prop :=
  ∀ depth, walk.alive depth = true ↔ ∀ place, FirstAt records depth place → SurvivesAt records place

theorem Walk.keeps_iff (walk : Walk) (record : Record) (rest : Trace) (knows : walk.Knows rest) :
    walk.keeps record = true ↔ SurvivesAt (record :: rest) 0 := by
  rw [survivesAt_zero,Walk.keeps,Bool.and_eq_true]
  refine and_congr_right fun _ => ?_
  cases level : record.depth with
  | zero => simp
  | succ above =>
    simp only [Nat.succ_ne_zero,decide_false,Bool.false_or,Nat.add_sub_cancel,knows above,
      Nat.add_right_cancel_iff,forall_eq']

theorem Walk.Knows.step {walk : Walk} {rest : Trace} (knows : walk.Knows rest) (record : Record) :
    (walk.step record).Knows (record :: rest) := by
  intro depth
  by_cases same : record.depth = depth
  · have first (place : Nat) : FirstAt (record :: rest) depth place ↔ place = 0 := by
      cases place with
      | zero => simp [firstAt_zero,same]
      | succ place => simp [firstAt_succ,same]
    simp only [Walk.step,same,if_true,walk.keeps_iff record rest knows,first,forall_eq]
  · have first (place : Nat) : FirstAt (record :: rest) depth place ↔
        ∃ other, place = other + 1 ∧ FirstAt rest depth other := by
      cases place with
      | zero => simp [firstAt_zero,same]
      | succ place => simp [firstAt_succ,same]
    simp only [Walk.step,if_neg (Ne.symm same),knows depth,first,forall_exists_index,and_imp]
    constructor
    · rintro survive _ other rfl first
      exact (survivesAt_succ record rest other).mpr (survive other first)
    · intro survive other first
      exact (survivesAt_succ record rest other).mp (survive _ other rfl first)

theorem knows_walk (records : Trace) : (records.foldr Walk.step .start).Knows records := by
  induction records with
  | nil =>
    intro depth
    have empty (place : Nat) : ¬ FirstAt [] depth place := fun first => nomatch first.here
    simp [Walk.start,empty]
  | cons record rest ih => exact ih.step record

/-! ### What is kept -/

theorem survivesAt_append (front rest : Trace) (place : Nat) :
    SurvivesAt (front ++ rest) (front.length + place) ↔ SurvivesAt rest place := by
  induction front with
  | nil => rw [List.nil_append,List.length_nil,Nat.zero_add]
  | cons record front ih =>
    rw [List.cons_append,List.length_cons,Nat.add_right_comm,survivesAt_succ,ih]

theorem picks_survivors (front rest : Trace) :
    Picks (SurvivesAt (front ++ rest)) (fun place record => (front ++ rest)[place]? = some record)
      front.length (survivors rest) := by
  induction rest generalizing front with
  | nil =>
    refine .empty fun place past survives => ?_
    obtain ⟨record,found,_⟩ := survives place .refl
    rw [List.append_nil,List.getElem?_eq_none past] at found
    exact nomatch found
  | cons record rest ih =>
    have others := ih (front ++ [record])
    rw [List.append_assoc,List.singleton_append,List.length_append,List.length_singleton] at others
    have keeps := Walk.keeps_iff _ record rest (knows_walk rest)
    rw [← survivesAt_append front,Nat.add_zero] at keeps
    simp only [survivors,List.foldr_cons,Walk.step] at others ⊢
    split
    · next survives => exact others.take (keeps.mp survives) record (by simp)
    · next ends =>
      refine others.skip (Nat.le_succ _) fun place inside less => ?_
      obtain rfl := Nat.le_antisymm inside (Nat.le_of_lt_succ less)
      exact mt keeps.mpr ends

/-- The survivors of a trace are the records that succeeded inside records that all succeeded, each
once and in trace order. -/
theorem survivors_picks (records : Trace) :
    Picks (SurvivesAt records) (fun place record => records[place]? = some record) 0
      (survivors records) :=
  picks_survivors [] records

/-- A failure above a success need not follow it at once. -/
example : survivors [⟨.success 0, 2, 0, 1⟩, ⟨.success 0, 0, 0, 1⟩, ⟨.failure 0, 1, 1, 1⟩] =
    [⟨.success 0, 0, 0, 1⟩] := by decide

end ParseScope.Trace
