import ParseScope.Proofs.Trace.Wire

/-!
Buffers that hold no trace. Whole groups of four are rejected for the first of them that breaks a
rule, and for the first rule it breaks in the order of the checks. What stands behind that group
changes nothing.
-/
namespace ParseScope.Trace

/-- The integers of a record on the wire. -/
structure Group where
  reference : Int
  depth : Int
  start : Int
  stop : Int
  deriving DecidableEq, Repr

namespace Group

def words (group : Group) : List Int := [group.reference, group.depth, group.start, group.stop]

/-- The reference stands for a success or a failure of the rule with this index. -/
def Names (group : Group) (index : Nat) : Prop :=
  group.reference = index ∨ group.reference = -(index : Int) - 1

def Known (rules : Rules) (group : Group) : Prop := ∃ index < rules.size, group.Names index

/-- No rule is broken. -/
structure Sound (rules : Rules) (group : Group) : Prop where
  known : group.Known rules
  depth : 0 ≤ group.depth
  start : 0 ≤ group.start
  ordered : group.start ≤ group.stop

/-- The first rule that a group breaks, as the error of group `number`. -/
inductive Breaks (rules : Rules) (number : Nat) (group : Group) : WireError → Prop
  | rule (index : Nat) (names : group.Names index) (unknown : rules.size ≤ index) :
      Breaks rules number group (.unknownRule number index rules.size)
  | depth (known : group.Known rules) (negative : group.depth < 0) :
      Breaks rules number group (.negative number .depth group.depth)
  | start (known : group.Known rules) (depth : 0 ≤ group.depth) (negative : group.start < 0) :
      Breaks rules number group (.negative number .start group.start)
  | stop (known : group.Known rules) (depth : 0 ≤ group.depth) (start : 0 ≤ group.start)
      (negative : group.stop < 0) : Breaks rules number group (.negative number .stop group.stop)
  | inverted (known : group.Known rules) (depth : 0 ≤ group.depth) (start stop : Nat)
      (starts : group.start = start) (stops : group.stop = stop) (inverted : stop < start) :
      Breaks rules number group (.inverted number start stop)

theorem names_iff (group : Group) (index : Nat) :
    group.Names index ↔ (Verdict.ofReference group.reference).rule = index := by
  by_cases nonnegative : 0 ≤ group.reference
  · simp only [Names,Verdict.ofReference,Verdict.indexOfReference,if_pos nonnegative,Verdict.rule]
    omega
  · simp only [Names,Verdict.ofReference,Verdict.indexOfReference,if_neg nonnegative,Verdict.rule]
    omega

theorem known_iff (rules : Rules) (group : Group) :
    group.Known rules ↔ (Verdict.ofReference group.reference).rule < rules.size := by
  simp [Known,names_iff]

end Group

theorem nonNegative_eq_ok_iff (number : Nat) (field : Field) (value : Int) (result : Nat) :
    nonNegative number field value = .ok result ↔ value = result := by
  rw [nonNegative]
  split
  · simp only [reduceCtorEq,false_iff]
    omega
  · simp only [Except.ok.injEq]
    omega

theorem nonNegative_eq_error_iff (number : Nat) (field : Field) (value : Int) (error : WireError) :
    nonNegative number field value = .error error ↔
      value < 0 ∧ .negative number field value = error := by
  rw [nonNegative]
  split
  · next negative => simp [negative]
  · next nonnegative => simp [nonnegative]

/-- A group whose reference is in order is read unless one of its other integers is not. -/
theorem recordOfWire_of_known (rules : Rules) (number : Nat) (group : Group)
    (known : group.Known rules) :
    recordOfWire rules number group.reference group.depth group.start group.stop =
      (nonNegative number .depth group.depth >>= fun depth =>
        nonNegative number .start group.start >>= fun start =>
          nonNegative number .stop group.stop >>= fun stop =>
            if stop < start then .error (.inverted number start stop)
            else .ok ⟨.ofReference group.reference, depth, start, stop⟩) := by
  rw [recordOfWire,if_neg (Nat.not_le.mpr ((group.known_iff rules).mp known))]
  rfl

theorem recordOfWire_of_unknown (rules : Rules) (number : Nat) (group : Group)
    (unknown : ¬ group.Known rules) :
    recordOfWire rules number group.reference group.depth group.start group.stop =
      .error (.unknownRule number (Verdict.ofReference group.reference).rule rules.size) := by
  rw [recordOfWire,if_pos (Nat.not_lt.mp (mt (group.known_iff rules).mpr unknown))]
  rfl

/-- A group is read as a record unless it breaks a rule. -/
theorem exists_recordOfWire_iff (rules : Rules) (number : Nat) (group : Group) :
    (∃ record, recordOfWire rules number group.reference group.depth group.start group.stop =
      .ok record) ↔ group.Sound rules := by
  by_cases known : group.Known rules
  · simp only [recordOfWire_of_known rules number group known,bind_eq_ok_iff,nonNegative_eq_ok_iff]
    constructor
    · rintro ⟨record,depth,depthEq,start,startEq,stop,stopEq,accepted⟩
      have ordered : ¬ stop < start := fun inverted => by simp [inverted] at accepted
      exact ⟨known,by omega,by omega,by omega⟩
    · rintro ⟨_,depthSign,startSign,ordered⟩
      obtain ⟨depth,depthEq⟩ := Int.eq_ofNat_of_zero_le depthSign
      obtain ⟨start,startEq⟩ := Int.eq_ofNat_of_zero_le startSign
      obtain ⟨stop,stopEq⟩ := Int.eq_ofNat_of_zero_le (Int.le_trans startSign ordered)
      exact ⟨_,depth,depthEq,start,startEq,stop,stopEq,if_neg (by omega)⟩
  · rw [recordOfWire_of_unknown rules number group known]
    exact iff_of_false (fun ⟨_,accepted⟩ => nomatch accepted) fun sound => known sound.known

theorem recordOfWire_eq_error_iff (rules : Rules) (number : Nat) (group : Group)
    (error : WireError) :
    recordOfWire rules number group.reference group.depth group.start group.stop = .error error ↔
      group.Breaks rules number error := by
  by_cases known : group.Known rules
  · simp only [recordOfWire_of_known rules number group known,bind_eq_error_iff,
      nonNegative_eq_ok_iff,nonNegative_eq_error_iff]
    constructor
    · rintro (⟨negative,rfl⟩ | ⟨depth,depthEq,⟨negative,rfl⟩ | ⟨start,startEq,
        ⟨negative,rfl⟩ | ⟨stop,stopEq,rejected⟩⟩⟩)
      · exact .depth known negative
      · exact .start known (by omega) negative
      · exact .stop known (by omega) (by omega) negative
      · split at rejected
        · next inverted =>
          obtain rfl := Except.error.inj rejected
          exact .inverted known (by omega) start stop startEq stopEq inverted
        · cases rejected
    · intro breaks
      cases breaks with
      | rule index names unknown =>
        have inside := (group.known_iff rules).mp known
        rw [(group.names_iff index).mp names] at inside
        omega
      | depth _ negative => exact .inl ⟨negative,rfl⟩
      | start _ depthSign negative =>
        obtain ⟨depth,depthEq⟩ := Int.eq_ofNat_of_zero_le depthSign
        exact .inr ⟨depth,depthEq,.inl ⟨negative,rfl⟩⟩
      | stop _ depthSign startSign negative =>
        obtain ⟨depth,depthEq⟩ := Int.eq_ofNat_of_zero_le depthSign
        obtain ⟨start,startEq⟩ := Int.eq_ofNat_of_zero_le startSign
        exact .inr ⟨depth,depthEq,.inr ⟨start,startEq,.inl ⟨negative,rfl⟩⟩⟩
      | inverted _ depthSign start stop starts stops inverted =>
        obtain ⟨depth,depthEq⟩ := Int.eq_ofNat_of_zero_le depthSign
        exact .inr ⟨depth,depthEq,.inr ⟨start,starts,.inr ⟨stop,stops,if_pos inverted⟩⟩⟩
  · rw [recordOfWire_of_unknown rules number group known,Except.error.injEq]
    constructor
    · rintro rfl
      exact .rule _ ((group.names_iff _).mpr rfl)
        (Nat.not_lt.mp (mt (group.known_iff rules).mpr known))
    · intro breaks
      cases breaks with
      | rule index names unknown => rw [(group.names_iff index).mp names]
      | depth inside | start inside | stop inside | inverted inside => exact absurd inside known

/-! ### Groups of a buffer -/

/-- The words from `4 * number` on are those of the group. -/
def GroupAt (buffer : List Int64) (number : Nat) (group : Group) : Prop :=
  ((buffer.map Int64.toInt).drop (4 * number)).take 4 = group.words

/-- Group `number` is the first to break a rule. -/
structure FirstBroken (rules : Rules) (buffer : List Int64) (number : Nat) (error : WireError) :
    Prop where
  here : ∃ group, GroupAt buffer number group ∧ group.Breaks rules number error
  before : ∀ earlier < number, ∀ group, GroupAt buffer earlier group → group.Sound rules

theorem GroupAt.fits {buffer : List Int64} {number : Nat} {group : Group}
    (stands : GroupAt buffer number group) : 4 * (number + 1) ≤ buffer.length := by
  have lengths := congrArg List.length stands
  simp only [Group.words,List.length_take,List.length_drop,List.length_map,List.length_cons,
    List.length_nil] at lengths
  omega

/-- What stands behind a group does not change it. -/
theorem groupAt_append (front rest : List Int64) (number : Nat) (group : Group)
    (inside : 4 * (number + 1) ≤ front.length) :
    GroupAt (front ++ rest) number group ↔ GroupAt front number group := by
  have past : 4 * number ≤ (front.map Int64.toInt).length := by
    rw [List.length_map]
    omega
  have four : 4 ≤ ((front.map Int64.toInt).drop (4 * number)).length := by
    rw [List.length_drop,List.length_map]
    omega
  rw [GroupAt,GroupAt,List.map_append,List.drop_append_of_le_length past,
    List.take_append_of_le_length four]

theorem firstBroken_append (rules : Rules) (front rest : List Int64) (number : Nat)
    (error : WireError) (inside : 4 * (number + 1) ≤ front.length) :
    FirstBroken rules (front ++ rest) number error ↔ FirstBroken rules front number error := by
  have same (earlier : Nat) (upTo : earlier ≤ number) (group : Group) :=
    groupAt_append front rest earlier group (by omega)
  constructor
  · rintro ⟨⟨group,stands,breaks⟩,before⟩
    refine ⟨⟨group,(same number (Nat.le_refl _) group).mp stands,breaks⟩,?_⟩
    intro earlier less other otherStands
    exact before earlier less other ((same earlier (Nat.le_of_lt less) other).mpr otherStands)
  · rintro ⟨⟨group,stands,breaks⟩,before⟩
    refine ⟨⟨group,(same number (Nat.le_refl _) group).mpr stands,breaks⟩,?_⟩
    intro earlier less other otherStands
    exact before earlier less other ((same earlier (Nat.le_of_lt less) other).mp otherStands)

theorem FirstBroken.fits {rules : Rules} {buffer : List Int64} {number : Nat} {error : WireError}
    (first : FirstBroken rules buffer number error) : 4 * (number + 1) ≤ buffer.length := by
  obtain ⟨group,stands,_⟩ := first.here
  exact stands.fits

theorem FirstBroken.behind {rules : Rules} {buffer : List Int64} {number : Nat} {error : WireError}
    (first : FirstBroken rules buffer number error) (behind : List Int64) :
    FirstBroken rules (buffer.take (4 * (number + 1)) ++ behind) number error := by
  have front : 4 * (number + 1) ≤ (buffer.take (4 * (number + 1))).length :=
    List.length_take ▸ Nat.le_min.mpr ⟨Nat.le_refl _,first.fits⟩
  rw [firstBroken_append rules _ behind number error front,
    ← firstBroken_append rules _ (buffer.drop (4 * (number + 1))) number error front,
    List.take_append_drop]
  exact first

section Cons

variable (reference depth start stop : Int64) (rest : List Int64)

theorem groupAt_zero (group : Group) :
    GroupAt (reference :: depth :: start :: stop :: rest) 0 group ↔
      group = ⟨reference.toInt,depth.toInt,start.toInt,stop.toInt⟩ := by
  obtain ⟨_,_,_,_⟩ := group
  simp [GroupAt,Group.words,eq_comm]

theorem groupAt_succ (number : Nat) (group : Group) :
    GroupAt (reference :: depth :: start :: stop :: rest) (number + 1) group ↔
      GroupAt rest number group := by
  simp [GroupAt,Nat.mul_succ]

end Cons

/-- The groups are numbered from `number` on. Reading fails at the first of them that breaks a
rule. -/
theorem recordsOfWire_eq_error_iff (rules : Rules) (number : Nat) (buffer : List Int64)
    (error : WireError) : recordsOfWire rules number buffer = .error error ↔
      ∃ place, (∃ group, GroupAt buffer place group ∧ group.Breaks rules (number + place) error) ∧
        ∀ earlier < place, ∀ group, GroupAt buffer earlier group → group.Sound rules := by
  fun_induction recordsOfWire rules number buffer with
  | case1 number reference depth start stop rest ih =>
    let first : Group := ⟨reference.toInt,depth.toInt,start.toInt,stop.toInt⟩
    have breaks := recordOfWire_eq_error_iff rules number first error
    have sound := exists_recordOfWire_iff rules number first
    constructor
    · intro rejected
      rcases (bind_eq_error_iff _ _ _).mp rejected with broken | ⟨record,accepted,rejected⟩
      · exact ⟨0,⟨first,(groupAt_zero ..).mpr rfl,breaks.mp broken⟩,
          fun earlier less => absurd less (Nat.not_lt_zero earlier)⟩
      · -- The first group is sound, and each of the others has a number less among the rest.
        rcases (bind_eq_error_iff _ _ _).mp rejected with rejected | ⟨_,_,made⟩
        · obtain ⟨place,⟨group,stands,broken⟩,before⟩ := ih.mp rejected
          rw [Nat.add_right_comm] at broken
          refine ⟨place + 1,⟨group,(groupAt_succ ..).mpr stands,broken⟩,?_⟩
          intro earlier less other otherStands
          cases earlier with
          | zero =>
            rw [(groupAt_zero ..).mp otherStands]
            exact sound.mp ⟨record,accepted⟩
          | succ earlier =>
            exact before earlier (Nat.lt_of_succ_lt_succ less) other
              ((groupAt_succ ..).mp otherStands)
        · exact absurd made (pure_ne_error _ _)
    · rintro ⟨place,⟨group,stands,broken⟩,before⟩
      apply (bind_eq_error_iff _ _ _).mpr
      cases place with
      | zero =>
        rw [(groupAt_zero ..).mp stands] at broken
        exact .inl (breaks.mpr broken)
      | succ place =>
        obtain ⟨record,accepted⟩ := sound.mpr (before 0 (Nat.succ_pos place) first
          ((groupAt_zero ..).mpr rfl))
        rw [← Nat.add_assoc,Nat.add_right_comm] at broken
        have rejected := ih.mpr ⟨place,⟨group,(groupAt_succ ..).mp stands,broken⟩,
          fun earlier less other otherStands =>
            before (earlier + 1) (Nat.succ_lt_succ less) other ((groupAt_succ ..).mpr otherStands)⟩
        exact .inr ⟨record,accepted,(bind_eq_error_iff _ _ _).mpr (.inl rejected)⟩
  | case2 buffer number short =>
    refine iff_of_false (pure_ne_error _ _) ?_
    rintro ⟨place,⟨group,stands,_⟩,_⟩
    have four := stands.fits
    rcases buffer with _ | ⟨reference,_ | ⟨depth,_ | ⟨start,_ | ⟨stop,rest⟩⟩⟩⟩
    case cons.cons.cons.cons => exact short reference depth start stop rest rfl
    all_goals
      simp only [List.length_cons,List.length_nil] at four
      omega

theorem ofWire_eq_error_iff_of_whole (rules : Rules) (buffer : List Int64) (error : WireError)
    (whole : buffer.length % 4 = 0) :
    ofWire buffer rules = .error error ↔ ∃ number, FirstBroken rules buffer number error := by
  rw [ofWire,if_neg (not_not_intro whole),recordsOfWire_eq_error_iff]
  simp only [Nat.zero_add]
  constructor
  · rintro ⟨number,here,before⟩
    exact ⟨number,here,before⟩
  · rintro ⟨number,here,before⟩
    exact ⟨number,here,before⟩

/-- A buffer is rejected for its length when that is no multiple of four, and else for the first
group that breaks a rule, whatever stands behind that group. -/
theorem ofWire_eq_error_iff_first (rules : Rules) (buffer : List Int64) (error : WireError) :
    ofWire buffer rules = .error error ↔
      (buffer.length % 4 ≠ 0 ∧ error = .truncated buffer.length) ∨
      (buffer.length % 4 = 0 ∧ ∃ number < buffer.length / 4,
        FirstBroken rules buffer number error ∧
        ∀ behind : List Int64, behind.length % 4 = 0 →
          ofWire (buffer.take (4 * (number + 1)) ++ behind) rules = .error error) := by
  by_cases whole : buffer.length % 4 = 0
  · rw [ofWire_eq_error_iff_of_whole rules buffer error whole]
    constructor
    · rintro ⟨number,first⟩
      have fits := first.fits
      refine .inr ⟨whole,number,by omega,first,fun behind behindWhole => ?_⟩
      have still : (buffer.take (4 * (number + 1)) ++ behind).length % 4 = 0 := by
        rw [List.length_append,List.length_take,Nat.min_eq_left fits]
        omega
      exact (ofWire_eq_error_iff_of_whole rules _ error still).mpr ⟨number,first.behind behind⟩
    · rintro (⟨short,_⟩ | ⟨_,number,_,first,_⟩)
      · exact absurd whole short
      · exact ⟨number,first⟩
  · rw [ofWire,if_pos whole]
    simp [whole,eq_comm]

/-- The second group breaks three rules, the third one another. -/
example : ofWire [0,0,0,1, -1,-5,3,-2, 7,0,0,0] ⟨["sum"]⟩ = .error (.negative 1 .depth (-5)) :=
  rfl

end ParseScope.Trace
