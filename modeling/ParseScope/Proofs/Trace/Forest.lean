import Mathlib.Data.List.Chain
import ParseScope.Trace.Basic

/-!
Attempts inside attempts. The trace of a forest lists it in post-order. When the survivors lie
inside one another and follow one another, those that consumed input ascend by start and depth in
pre-order.
-/
namespace ParseScope

/-- Attempts side by side: none, or a first one with the attempts inside it and those after it. -/
inductive Forest
  | empty
  | attempt (verdict : Verdict) (start stop : Nat) (inside later : Forest)
  deriving Repr

/-- An attempt of a forest, together with the attempts around it, the nearest first. -/
structure Site where
  record : Record
  around : List Record
  deriving Repr

/-- Whether an attempt succeeded, and so did all those around it. -/
def Site.survives (site : Site) : Bool :=
  site.record.isSuccess && site.around.all Record.isSuccess

namespace Forest

/-- The attempts of a forest that stands inside `around`, each after those inside it. The depth of
an attempt is the number of attempts around it. -/
def postorder (around : List Record) : Forest → List Site
  | empty => []
  | attempt verdict start stop inside later =>
    let record : Record := ⟨verdict, around.length, start, stop⟩
    inside.postorder (record :: around) ++ ⟨record, around⟩ :: later.postorder around

/-- The trace of a parse that made the attempts of a forest. -/
def trace (forest : Forest) : Trace := (forest.postorder []).map Site.record

/-- The attempts of a forest that stands inside `around`, each before those inside it. -/
def preorder (around : List Record) : Forest → List Site
  | empty => []
  | attempt verdict start stop inside later =>
    let record : Record := ⟨verdict, around.length, start, stop⟩
    ⟨record, around⟩ :: inside.preorder (record :: around) ++ later.preorder around

/-- The survivors of a forest, each before those inside it. -/
def kept (around : List Record) (forest : Forest) : List Record :=
  ((forest.preorder around).filter Site.survives).map Site.record

theorem preorder_perm_postorder (forest : Forest) (around : List Record) :
    (forest.preorder around).Perm (forest.postorder around) := by
  induction forest generalizing around with
  | empty => exact .nil
  | attempt verdict start stop inside later ihInside ihLater =>
    exact (((ihInside _).append (ihLater around)).cons _).trans List.perm_middle.symm

theorem mem_trace_of_mem_preorder (forest : Forest) (site : Site)
    (member : site ∈ forest.preorder []) : site.record ∈ forest.trace :=
  List.mem_map_of_mem ((forest.preorder_perm_postorder []).mem_iff.mp member)

/-- Nothing survives inside a failure. -/
theorem kept_eq_nil (forest : Forest) (around : List Record)
    (failed : around.all Record.isSuccess = false) : forest.kept around = [] := by
  induction forest generalizing around with
  | empty => rfl
  | attempt verdict start stop inside later ihInside ihLater =>
    have none := ihInside (⟨verdict,around.length,start,stop⟩ :: around) (by simp [failed])
    have others := ihLater around failed
    simp only [kept,List.map_eq_nil_iff] at none others
    simp [kept,preorder,Site.survives,failed,none,others]

theorem kept_failure (around : List Record) (verdict : Verdict) (start stop : Nat)
    (inside later : Forest) (failure : verdict.isSuccess = false) :
    (attempt verdict start stop inside later).kept around = later.kept around := by
  have none := kept_eq_nil inside (⟨verdict,around.length,start,stop⟩ :: around)
    (by simp [Record.isSuccess,failure])
  simp only [kept,List.map_eq_nil_iff] at none
  simp [kept,preorder,Site.survives,Record.isSuccess,failure,none]

theorem kept_success (around : List Record) (alive : around.all Record.isSuccess = true)
    (verdict : Verdict) (start stop : Nat) (inside later : Forest)
    (success : verdict.isSuccess = true) :
    (attempt verdict start stop inside later).kept around =
      ⟨verdict,around.length,start,stop⟩ ::
        (inside.kept (⟨verdict,around.length,start,stop⟩ :: around) ++ later.kept around) := by
  simp [kept,preorder,Site.survives,Record.isSuccess,success,alive]

/-- The successes among attempts side by side, which stand at `depth`. -/
def successes (depth : Nat) : Forest → List Record
  | empty => []
  | attempt verdict start stop _ later =>
    if verdict.isSuccess then ⟨verdict, depth, start, stop⟩ :: later.successes depth
    else later.successes depth

/-- Each of the attempts starts where the one before it ended, or later. -/
def InTurn (siblings : List Record) : Prop :=
  siblings.IsChain fun earlier later => earlier.stop ≤ later.start

/-- Inside every survivor, the successes lie within its span and come in turn. -/
def Nested (depth : Nat) : Forest → Prop
  | empty => True
  | attempt verdict start stop inside later =>
    (verdict.isSuccess →
      (∀ child ∈ inside.successes (depth + 1), start ≤ child.start ∧ child.stop ≤ stop) ∧
      InTurn (inside.successes (depth + 1)) ∧ inside.Nested (depth + 1)) ∧
    later.Nested depth

/-- The survivors of a forest are laid out like the nodes of a tree over the input. -/
structure Orderly (forest : Forest) : Prop where
  inTurn : InTurn (forest.successes 0)
  nested : forest.Nested 0

theorem mem_preorder_of_mem_successes (forest : Forest) (around : List Record) (record : Record)
    (member : record ∈ forest.successes around.length) :
    ⟨record,around⟩ ∈ forest.preorder around := by
  induction forest with
  | empty => simp [successes] at member
  | attempt verdict start stop inside later _ ihLater =>
    rw [successes] at member
    simp only [preorder,List.cons_append,List.mem_cons,List.mem_append]
    split at member
    · rcases List.mem_cons.mp member with rfl | member
      · exact .inl rfl
      · exact .inr (.inr (ihLater member))
    · exact .inr (.inr (ihLater member))

/-- Every survivor lies within one of the successes side by side at the top, and no higher. -/
theorem kept_within (forest : Forest) (around : List Record)
    (alive : around.all Record.isSuccess = true) (nested : forest.Nested around.length)
    (record : Record) (member : record ∈ forest.kept around) :
    around.length ≤ record.depth ∧ ∃ root ∈ forest.successes around.length,
      root.start ≤ record.start ∧ record.stop ≤ root.stop := by
  induction forest generalizing around with
  | empty => simp [kept,preorder] at member
  | attempt verdict start stop inside later ihInside ihLater =>
    obtain ⟨nestedInside,nestedLater⟩ := nested
    cases success : verdict.isSuccess with
    | false =>
      rw [kept_failure around verdict start stop inside later success] at member
      rw [successes,if_neg (by simp [success])]
      exact ihLater around alive nestedLater member
    | true =>
      obtain ⟨children,_,deeper⟩ := nestedInside success
      rw [kept_success around alive verdict start stop inside later success] at member
      rw [successes,if_pos success]
      simp only [List.mem_cons,List.mem_append] at member
      rcases member with rfl | member | member
      · exact ⟨Nat.le_refl _,_,List.mem_cons_self,Nat.le_refl _,Nat.le_refl _⟩
      · obtain ⟨depth,child,childMember,lower,upper⟩ :=
          ihInside (⟨verdict,around.length,start,stop⟩ :: around)
            (by simp [Record.isSuccess,success,alive]) deeper member
        obtain ⟨childLower,childUpper⟩ := children child childMember
        exact ⟨Nat.le_of_succ_le depth,_,List.mem_cons_self,
          Nat.le_trans childLower lower,Nat.le_trans upper childUpper⟩
      · obtain ⟨depth,root,rootMember,bounds⟩ := ihLater around alive nestedLater member
        exact ⟨depth,root,List.mem_cons_of_mem _ rootMember,bounds⟩

/-- Attempts that come in turn and end no earlier than they start all follow the first of them. -/
theorem InTurn.stop_le_start (first : Record) (rest : List Record) (inTurn : InTurn (first :: rest))
    (ordered : ∀ record ∈ rest, record.start ≤ record.stop) :
    ∀ record ∈ rest, first.stop ≤ record.start := by
  induction rest generalizing first with
  | nil => simp
  | cons second rest ih =>
    obtain ⟨follows,inTurn⟩ := List.isChain_cons_cons.mp inTurn
    have spans := ordered second List.mem_cons_self
    intro record member
    rcases List.mem_cons.mp member with rfl | member
    · exact follows
    · have after := ih second inTurn
        (fun other otherMember => ordered other (List.mem_cons_of_mem _ otherMember)) record member
      omega

/-- The survivors inside a success are deeper than it and lie within its span. -/
theorem kept_inside (inside : Forest) (outer : Record) (around : List Record)
    (alive : (outer :: around).all Record.isSuccess = true)
    (nested : inside.Nested (around.length + 1))
    (children : ∀ child ∈ inside.successes (around.length + 1),
      outer.start ≤ child.start ∧ child.stop ≤ outer.stop) :
    ∀ record ∈ inside.kept (outer :: around),
      around.length < record.depth ∧ outer.start ≤ record.start ∧ record.stop ≤ outer.stop := by
  intro record member
  obtain ⟨depth,child,childMember,lower,upper⟩ :=
    kept_within inside (outer :: around) alive nested record member
  obtain ⟨childLower,childUpper⟩ := children child childMember
  exact ⟨depth,Nat.le_trans childLower lower,Nat.le_trans upper childUpper⟩

/-- The survivors of later siblings start where a success ended, or later. -/
theorem kept_follow (later : Forest) (first : Record) (around : List Record)
    (alive : around.all Record.isSuccess = true) (nested : later.Nested around.length)
    (inTurn : InTurn (first :: later.successes around.length))
    (ordered : ∀ site ∈ later.preorder around, site.record.start ≤ site.record.stop) :
    ∀ record ∈ later.kept around, first.stop ≤ record.start := by
  intro record member
  obtain ⟨_,root,rootMember,lower,_⟩ := kept_within later around alive nested record member
  have follows := inTurn.stop_le_start first (later.successes around.length)
    (fun other otherMember =>
      ordered ⟨other,around⟩ (mem_preorder_of_mem_successes later around other otherMember))
    root rootMember
  exact Nat.le_trans follows lower

/-- By start, and at the same start by depth. -/
def Before (a b : Record) : Prop := a.start < b.start ∨ (a.start = b.start ∧ a.depth < b.depth)

/-- Outer survivors come before those inside them, and these before later siblings. One that
consumed nothing may share its start and depth with the sibling after it. -/
theorem kept_pairwise (forest : Forest) (around : List Record)
    (alive : around.all Record.isSuccess = true) (nested : forest.Nested around.length)
    (inTurn : InTurn (forest.successes around.length))
    (ordered : ∀ site ∈ forest.preorder around, site.record.start ≤ site.record.stop) :
    (forest.kept around).Pairwise fun a b => a.start < a.stop → Before a b := by
  induction forest generalizing around with
  | empty => exact .nil
  | attempt verdict start stop inside later ihInside ihLater =>
    obtain ⟨nestedInside,nestedLater⟩ := nested
    simp only [preorder,List.cons_append,List.mem_cons,List.mem_append] at ordered
    have orderedLater : ∀ site ∈ later.preorder around, site.record.start ≤ site.record.stop :=
      fun site member => ordered site (.inr (.inr member))
    cases success : verdict.isSuccess with
    | false =>
      rw [kept_failure around verdict start stop inside later success]
      rw [successes,if_neg (by simp [success])] at inTurn
      exact ihLater around alive nestedLater inTurn orderedLater
    | true =>
      obtain ⟨children,childrenInTurn,deeper⟩ := nestedInside success
      rw [successes,if_pos success] at inTurn
      rw [kept_success around alive verdict start stop inside later success]
      let outer : Record := ⟨verdict,around.length,start,stop⟩
      have aliveInside : (outer :: around).all Record.isSuccess = true := by
        simp [outer,Record.isSuccess,success,alive]
      have within := kept_inside inside outer around aliveInside deeper children
      have follow := kept_follow later outer around alive nestedLater inTurn orderedLater
      refine List.pairwise_cons.mpr ⟨?_,List.pairwise_append.mpr ⟨?_,?_,?_⟩⟩
      · intro record member consumed
        rcases List.mem_append.mp member with member | member
        · obtain ⟨depth,lower,_⟩ := within record member
          rcases Nat.lt_or_eq_of_le lower with earlier | same
          · exact .inl earlier
          · exact .inr ⟨same,depth⟩
        · exact .inl (Nat.lt_of_lt_of_le consumed (follow record member))
      · exact ihInside (outer :: around) aliveInside deeper childrenInTurn
          fun site member => ordered site (.inr (.inl member))
      · exact ihLater around alive nestedLater inTurn.tail orderedLater
      · intro inner innerMember record member consumed
        have upper := (within inner innerMember).2.2
        exact .inl (Nat.lt_of_lt_of_le consumed (Nat.le_trans upper (follow record member)))

end Forest

end ParseScope
