import ParseScope.Proofs.Trace.Forest
import ParseScope.Trace.Survivors

/-!
What survives of a forest. What the walk still remembers of a subtree it has left lies deeper than
anything it reads before it writes there again.
-/
namespace ParseScope.Trace

/-- What the walk has to remember where the attempts inside `around` end: whether the nearest of
them survives. -/
def Walk.Inside (walk : Walk) : List Record → Prop
  | [] => True
  | nearest :: outer => walk.alive outer.length = (nearest :: outer).all Record.isSuccess

theorem Walk.keeps_of_inside (walk : Walk) (site : Site) (inside : walk.Inside site.around)
    (depth : site.record.depth = site.around.length) :
    walk.keeps site.record = site.survives := by
  obtain ⟨record,around⟩ := site
  cases around with
  | nil => simp_all [Walk.keeps,Site.survives]
  | cons nearest outer =>
    simp only [Walk.Inside] at inside
    simp only [List.length_cons] at depth
    simp [Walk.keeps,Site.survives,depth,inside]

/-- Steps at other depths than the one remembered change nothing. -/
theorem Walk.Inside.of_alive (walk after : Walk) (around : List Record)
    (inside : walk.Inside around)
    (frame : ∀ depth < around.length, after.alive depth = walk.alive depth) :
    after.Inside around := by
  cases around with
  | nil => trivial
  | cons nearest outer => exact (frame outer.length (by simp)).trans inside

/-- After a record whose survival the walk decides rightly, it stands inside that record. -/
theorem Walk.step_inside (walk : Walk) (site : Site) (inside : walk.Inside site.around)
    (depth : site.record.depth = site.around.length) :
    (walk.step site.record).Inside (site.record :: site.around) := by
  have keeps := walk.keeps_of_inside site inside depth
  simp only [Walk.Inside,Walk.step,depth,if_true]
  exact keeps

/-- A walk over a whole forest keeps its survivors, and forgets nothing above the forest. -/
theorem walk_postorder (forest : Forest) (around : List Record) (walk : Walk)
    (inside : walk.Inside around) :
    (((forest.postorder around).map Site.record).foldr Walk.step walk).kept =
      ((forest.postorder around).filter Site.survives).map Site.record ++ walk.kept ∧
    ∀ depth < around.length,
      (((forest.postorder around).map Site.record).foldr Walk.step walk).alive depth =
        walk.alive depth := by
  induction forest generalizing around walk with
  | empty => simp [Forest.postorder]
  | attempt verdict start stop within later ihWithin ihLater =>
    -- The walk meets the later siblings first, then the attempt, then those inside it.
    let site : Site := ⟨⟨verdict,around.length,start,stop⟩,around⟩
    obtain ⟨keptLater,aliveLater⟩ := ihLater around walk inside
    simp only [Forest.postorder,List.map_append,List.map_cons,List.foldr_append,List.foldr_cons]
    generalize ((later.postorder around).map Site.record).foldr Walk.step walk = passed
      at keptLater aliveLater ⊢
    have insidePassed : passed.Inside around := inside.of_alive walk passed around aliveLater
    have keeps : passed.keeps site.record = site.survives :=
      passed.keeps_of_inside site insidePassed rfl
    obtain ⟨keptWithin,aliveWithin⟩ := ihWithin (site.record :: around) (passed.step site.record)
      (passed.step_inside site insidePassed rfl)
    constructor
    · rw [keptWithin]
      simp only [Walk.step,keeps,keptLater,List.filter_append,List.filter_cons]
      split <;> simp [*,site]
    · intro depth above
      rw [aliveWithin depth (Nat.lt_succ_of_lt above)]
      simp only [Walk.step,site,if_neg (Nat.ne_of_lt above)]
      exact aliveLater depth above

/-- The survivors of a forest's trace are the attempts that succeeded inside successes only, each
as often as it was made, in the order of the trace. -/
theorem survivors_trace (forest : Forest) :
    survivors forest.trace = ((forest.postorder []).filter Site.survives).map Site.record := by
  have walked := (walk_postorder forest [] Walk.start trivial).1
  simpa [survivors,Forest.trace,Walk.start] using walked

/-! ### Flags in a list -/

/-- A walk over a trace from its end that keeps its flags in a list. A depth past the list's end
has not been met yet, and counts as one at which the latest record survives. -/
structure ListedWalk where
  kept : List Record
  alive : List Bool

namespace ListedWalk

def flag (walk : ListedWalk) (depth : Nat) : Bool := walk.alive[depth]?.getD true

def keeps (walk : ListedWalk) (record : Record) : Bool :=
  record.isSuccess && match record.depth with
    | 0 => true
    | depth + 1 => walk.flag depth

/-- The list grows until it has a place for the depth of the record. -/
def step (record : Record) (walk : ListedWalk) : ListedWalk :=
  let survives := walk.keeps record
  let missing := record.depth + 1 - walk.alive.length
  { kept := if survives then record :: walk.kept else walk.kept
    alive := (walk.alive ++ List.replicate missing true).set record.depth survives }

theorem flag_step_self (record : Record) (walk : ListedWalk) :
    (walk.step record).flag record.depth = walk.keeps record := by
  have place : record.depth <
      (walk.alive ++ List.replicate (record.depth + 1 - walk.alive.length) true).length := by
    rw [List.length_append,List.length_replicate]
    omega
  rw [flag,step,List.getElem?_set_self place,Option.getD_some]

/-- What the list has grown by is flagged as before. -/
theorem flag_step_of_ne (record : Record) (walk : ListedWalk) (depth : Nat)
    (other : depth ≠ record.depth) : (walk.step record).flag depth = walk.flag depth := by
  rw [flag,flag,step,List.getElem?_set_ne other.symm]
  rcases Nat.lt_or_ge depth walk.alive.length with inside | past
  · rw [List.getElem?_append_left inside]
  · rw [List.getElem?_append_right past,List.getElem?_eq_none past,List.getElem?_replicate]
    split <;> rfl

/-- Both walks have kept the same, and have the same flag for each depth. -/
structure Agrees (listed : ListedWalk) (walk : Walk) : Prop where
  kept : listed.kept = walk.kept
  flag : ∀ depth, listed.flag depth = walk.alive depth

theorem Agrees.keeps {listed : ListedWalk} {walk : Walk} (agrees : listed.Agrees walk)
    (record : Record) : listed.keeps record = walk.keeps record := by
  rw [ListedWalk.keeps,Walk.keeps]
  cases record.depth with
  | zero => rfl
  | succ depth => simp [agrees.flag]

theorem Agrees.step {listed : ListedWalk} {walk : Walk} (agrees : listed.Agrees walk)
    (record : Record) : (listed.step record).Agrees (walk.step record) := by
  have keeps := agrees.keeps record
  constructor
  · simp only [ListedWalk.step,Walk.step,keeps,agrees.kept]
  · intro depth
    change _ = if depth = record.depth then walk.keeps record else walk.alive depth
    by_cases here : depth = record.depth
    · rw [if_pos here,here,listed.flag_step_self record,keeps]
    · rw [if_neg here,listed.flag_step_of_ne record depth here,agrees.flag]

end ListedWalk

/-- A list of flags that grows as far as it is written leads to the same survivors. -/
theorem survivors_eq_listed (trace : Trace) :
    survivors trace = (trace.foldr ListedWalk.step ⟨[],[]⟩).kept := by
  have agrees : (trace.foldr ListedWalk.step ⟨[],[]⟩).Agrees (trace.foldr Walk.step .start) := by
    induction trace with
    | nil => exact ⟨rfl,fun _ => rfl⟩
    | cons record rest ih => exact ih.step record
  exact agrees.kept.symm

end ParseScope.Trace
