import Mathlib.Data.List.Nodup
import Mathlib.Data.List.Pairwise
import Mathlib.Data.List.Perm.Basic
import ParseScope.Proofs.Document.Reader
import ParseScope.Proofs.Json.Closed

/-!
Records in any order of their members. A member that is read changes its own slot only, so two
members may be read in either order, and one without a slot changes nothing. A list of the first
members is read as the object of these would be.
-/
namespace ParseScope.Document

open Json (Items Members Outline)

/-- What is read for one of the members does not matter to the other. -/
structure Member.Apart {σ : Type} (first second : Member σ) : Prop where
  keepsFirst : ∀ levels value change, second.read levels value = .ok change →
    ∀ record, first.isSet (change record) = first.isSet record
  keepsSecond : ∀ levels value change, first.read levels value = .ok change →
    ∀ record, second.isSet (change record) = second.isSet record
  commute : ∀ levels value other change turn, first.read levels value = .ok change →
    second.read levels other = .ok turn → ∀ record, turn (change record) = change (turn record)

theorem Member.Apart.symm {σ : Type} {first second : Member σ} (apart : Apart first second) :
    Apart second first where
  keepsFirst := apart.keepsSecond
  keepsSecond := apart.keepsFirst
  commute := fun levels value other change turn read readOther record =>
    (apart.commute levels other value turn change readOther read record).symm

instance {σ : Type} : Std.Symm (Member.Apart (σ := σ)) := ⟨fun _ _ => Member.Apart.symm⟩

/-- Slots that are set apart from one another keep their members apart. -/
theorem Member.apart_of {σ α β : Type} {name other : String} {required needed : Bool}
    {slot : σ → Option α} {place : σ → Option β} {read : Reader α} {readOther : Reader β}
    {set : Option α → σ → σ} {put : Option β → σ → σ}
    (keepsSlot : ∀ result record, slot (put result record) = slot record)
    (keepsPlace : ∀ result record, place (set result record) = place record)
    (commute : ∀ result found record,
      put found (set result record) = set result (put found record)) :
    Apart (.of name required slot read set) (.of other needed place readOther put) where
  keepsFirst := by
    intro levels value change reads record
    obtain ⟨result,_,rfl⟩ := (map_eq_ok_iff _ _ _).mp reads
    exact congrArg Option.isSome (keepsSlot (some result) record)
  keepsSecond := by
    intro levels value change reads record
    obtain ⟨result,_,rfl⟩ := (map_eq_ok_iff _ _ _).mp reads
    exact congrArg Option.isSome (keepsPlace (some result) record)
  commute := by
    intro levels value other change turn reads readsOther record
    obtain ⟨result,_,rfl⟩ := (map_eq_ok_iff _ _ _).mp reads
    obtain ⟨found,_,rfl⟩ := (map_eq_ok_iff _ _ _).mp readsOther
    exact commute (some result) (some found) record

namespace Shape

variable {σ : Type}

/-- The members of a record have a name and a slot each. -/
structure Separate (shape : Shape σ) : Prop where
  names : (shape.members.map Member.name).Nodup
  apart : shape.members.Pairwise Member.Apart

theorem Separate.find?_name {shape : Shape σ} (separate : shape.Separate) (slot : Member σ)
    (among : slot ∈ shape.members) : shape.find? slot.name = some slot := by
  obtain ⟨other,found⟩ : ∃ other, shape.find? slot.name = some other :=
    Option.isSome_iff_exists.mp (List.find?_isSome.mpr ⟨slot,among,by simp⟩)
  have same : other.name = slot.name := by simpa using List.find?_some found
  rw [found,List.inj_on_of_nodup_map separate.names (List.mem_of_find?_eq_some found) among same]

theorem Separate.apart_of_find? {shape : Shape σ} (separate : shape.Separate) {name other : String}
    {slot place : Member σ} (found : shape.find? name = some slot)
    (foundOther : shape.find? other = some place) (differ : name ≠ other) : slot.Apart place := by
  have named : slot.name = name := by simpa using List.find?_some found
  have namedOther : place.name = other := by simpa using List.find?_some foundOther
  have distinct : slot ≠ place := by
    rintro rfl
    exact differ (named.symm.trans namedOther)
  exact separate.apart.forall (List.mem_of_find?_eq_some found)
    (List.mem_of_find?_eq_some foundOther) distinct

/-! ### Objects -/

/-- The record after one more member of an object, if this one is accepted. -/
def take? (shape : Shape σ) (levels : Nat) (record : σ) (member : String × Outline) : Option σ :=
  match shape.find? member.1 with
  | none => if member.2.skipFault? = none then some record else none
  | some slot =>
    if slot.isSet record then none
    else (slot.read levels member.2).toOption.map fun change => change record

/-- Members are taken until one is not accepted. -/
def takeNext (shape : Shape σ) (levels : Nat) (record : Option σ) (member : String × Outline) :
    Option σ :=
  record.bind fun record => shape.take? levels record member

theorem foldl_takeNext_none (shape : Shape σ) (levels : Nat) (members : List (String × Outline)) :
    members.foldl (shape.takeNext levels) none = none := by
  induction members with
  | nil => rfl
  | cons member members ih => exact ih

/-- The record, unless a member that it needs is missing. -/
def complete? (shape : Shape σ) (record : σ) : Option σ :=
  if (shape.missing? record).isNone then some record else none

theorem toOption_readMembers_cons (shape : Shape σ) (levels : Nat) (record : σ)
    (member : String × Outline) (members : List (String × Outline)) :
    (shape.readMembers levels record (.ofList (member :: members))).toOption =
      (shape.take? levels record member).bind fun record =>
        (shape.readMembers levels record (.ofList members)).toOption := by
  rw [Members.ofList_cons,readMembers,take?]
  cases shape.find? member.1 with
  | none =>
    cases member.2.skipFault? with
    | none => rfl
    | some fault => rfl
  | some slot =>
    by_cases set : slot.isSet record
    · simp only [set,if_true]
      rfl
    · simp only [set]
      cases slot.read levels member.2 with
      | error error => rfl
      | ok change => rfl

/-- An object is read by taking its members one after the other. -/
theorem toOption_readMembers (shape : Shape σ) (levels : Nat) (record : σ)
    (members : List (String × Outline)) :
    (shape.readMembers levels record (.ofList members)).toOption =
      (members.foldl (shape.takeNext levels) (some record)).bind shape.complete? := by
  induction members generalizing record with
  | nil =>
    change (shape.readMembers levels record (.done .closed)).toOption = shape.complete? record
    rw [readMembers,complete?]
    cases shape.missing? record with
    | none => rfl
    | some member => rfl
  | cons member members ih =>
    rw [toOption_readMembers_cons,List.foldl_cons,takeNext,Option.bind_some]
    cases shape.take? levels record member with
    | none => simp [foldl_takeNext_none]
    | some record => exact ih record

/-- A member without a slot is taken whenever it is well formed, and then changes nothing. -/
theorem take?_unknown (shape : Shape σ) (levels : Nat) (record : σ) (member : String × Outline)
    (unknown : shape.find? member.1 = none) :
    shape.take? levels record member =
      if member.2.skipFault? = none then some record else none := by
  rw [take?,unknown]

theorem take?_refused (shape : Shape σ) (levels : Nat) (record : σ) (member : String × Outline)
    (slot : Member σ) (error : ReadError) (found : shape.find? member.1 = some slot)
    (read : slot.read levels member.2 = .error error) :
    shape.take? levels record member = none := by
  rw [take?,found]
  simp [read,Except.toOption]

theorem take?_read (shape : Shape σ) (levels : Nat) (record : σ) (member : String × Outline)
    (slot : Member σ) (change : σ → σ) (found : shape.find? member.1 = some slot)
    (read : slot.read levels member.2 = .ok change) :
    shape.take? levels record member =
      if slot.isSet record then none else some (change record) := by
  rw [take?,found]
  simp [read,Except.toOption]

theorem takeNext_comm_unknown (shape : Shape σ) (levels : Nat) (record : Option σ)
    (first second : String × Outline) (unknown : shape.find? first.1 = none) :
    shape.takeNext levels (shape.takeNext levels record first) second =
      shape.takeNext levels (shape.takeNext levels record second) first := by
  simp only [takeNext,take?_unknown shape levels _ first unknown]
  split
  · simp
  · simp

theorem take?_comm (shape : Shape σ) (levels : Nat) (record : σ) (first second : String × Outline)
    (slot place : Member σ) (found : shape.find? first.1 = some slot)
    (foundOther : shape.find? second.1 = some place) (apart : slot.Apart place) :
    (shape.take? levels record first).bind (shape.take? levels · second) =
      (shape.take? levels record second).bind (shape.take? levels · first) := by
  cases read : slot.read levels first.2 with
  | error error => simp [take?_refused shape levels _ first slot error found read]
  | ok change =>
    cases readOther : place.read levels second.2 with
    | error error => simp [take?_refused shape levels _ second place error foundOther readOther]
    | ok turn =>
      have keepsSlot := apart.keepsFirst levels second.2 turn readOther record
      have keepsPlace := apart.keepsSecond levels first.2 change read record
      have commute := apart.commute levels first.2 second.2 change turn read readOther record
      simp only [take?_read shape levels _ first slot change found read,
        take?_read shape levels _ second place turn foundOther readOther]
      by_cases set : slot.isSet record
      · by_cases other : place.isSet record
        · simp [set,other]
        · simp [set,other,keepsSlot]
      · by_cases other : place.isSet record
        · simp [set,other,keepsPlace]
        · simp [set,other,keepsSlot,keepsPlace,commute]

/-- Members with slots of their own may be taken in either order. -/
theorem Separate.takeNext_comm {shape : Shape σ} (separate : shape.Separate) (levels : Nat)
    (record : Option σ) (first second : String × Outline) (differ : first.1 ≠ second.1) :
    shape.takeNext levels (shape.takeNext levels record first) second =
      shape.takeNext levels (shape.takeNext levels record second) first := by
  cases found : shape.find? first.1 with
  | none => exact takeNext_comm_unknown shape levels record first second found
  | some slot =>
    cases foundOther : shape.find? second.1 with
    | none => exact (takeNext_comm_unknown shape levels record second first foundOther).symm
    | some place =>
      cases record with
      | none => rfl
      | some record =>
        exact take?_comm shape levels record first second slot place found foundOther
          (separate.apart_of_find? found foundOther differ)

theorem foldl_takeNext_unknown (shape : Shape σ) (levels : Nat) (record : σ)
    (members : List (String × Outline)) (unknown : ∀ member ∈ members, shape.find? member.1 = none)
    (sound : ∀ member ∈ members, member.2.skipFault? = none) :
    members.foldl (shape.takeNext levels) (some record) = some record := by
  induction members with
  | nil => rfl
  | cons member members ih =>
    obtain ⟨unknownFirst,unknownOthers⟩ := List.forall_mem_cons.mp unknown
    obtain ⟨soundFirst,soundOthers⟩ := List.forall_mem_cons.mp sound
    rw [List.foldl_cons,takeNext,Option.bind_some,
      take?_unknown shape levels record member unknownFirst,if_pos soundFirst]
    exact ih unknownOthers soundOthers

/-- The order of distinct members does not matter, nor do unknown ones among them. -/
theorem Separate.readMembers_perm {shape : Shape σ} (separate : shape.Separate) (levels : Nat)
    (record : σ) (members extra others : List (String × Outline))
    (distinct : (members.map Prod.fst).Nodup)
    (unknown : ∀ member ∈ extra, shape.find? member.1 = none)
    (sound : ∀ member ∈ extra, member.2.skipFault? = none) (perm : others.Perm (extra ++ members)) :
    (shape.readMembers levels record (.ofList others)).toOption =
      (shape.readMembers levels record (.ofList members)).toOption := by
  have comm : ∀ first ∈ extra ++ members, ∀ second ∈ extra ++ members, ∀ record,
      shape.takeNext levels (shape.takeNext levels record first) second =
        shape.takeNext levels (shape.takeNext levels record second) first := by
    intro first firstAmong second secondAmong record
    by_cases differ : first.1 = second.1
    · rcases List.mem_append.mp firstAmong with fresh | firstAmong
      · exact takeNext_comm_unknown shape levels record first second (unknown first fresh)
      · rcases List.mem_append.mp secondAmong with fresh | secondAmong
        · have unknownSecond := unknown second fresh
          exact (takeNext_comm_unknown shape levels record second first unknownSecond).symm
        · rw [List.inj_on_of_nodup_map distinct firstAmong secondAmong differ]
    · exact separate.takeNext_comm levels record first second differ
  rw [toOption_readMembers,toOption_readMembers,← perm.symm.foldl_eq' comm,List.foldl_append,
    foldl_takeNext_unknown shape levels record extra unknown sound]

/-! ### Lists -/

theorem missing?_optional (shape : Shape σ)
    (optional : ∀ slot ∈ shape.members, slot.required = false) (record : σ) :
    shape.missing? record = none := by
  apply List.find?_eq_none.mpr
  intro slot among
  simp [optional slot among]

/-- A list of values is read as the object in which the first members have these values. -/
theorem Separate.readPositions_eq {shape : Shape σ} (separate : shape.Separate)
    (optional : ∀ slot ∈ shape.members, slot.required = false) (levels index : Nat)
    (before slots : List (Member σ)) (split : shape.members = before ++ slots) (record : σ)
    (unset : ∀ slot ∈ slots, slot.isSet record = false) (values : List Outline)
    (short : values.length ≤ slots.length) :
    shape.readPositions levels index slots record (values.foldr .item (.done .closed)) =
      shape.readMembers levels record (.ofList ((slots.map Member.name).zip values)) := by
  induction slots generalizing before index record values with
  | nil =>
    obtain rfl := List.length_eq_zero_iff.mp (Nat.le_zero.mp short)
    change shape.readPositions levels index [] record (.done .closed) =
      shape.readMembers levels record (.done .closed)
    rw [readPositions,readMembers,missing?_optional shape optional record]
    rfl
  | cons slot slots ih =>
    have among : slot ∈ shape.members := by simp [split]
    have later : shape.members = (before ++ [slot]) ++ slots := by simp [split]
    obtain ⟨unsetSlot,unsetOthers⟩ := List.forall_mem_cons.mp unset
    cases values with
    | nil =>
      have others := ih (index + 1) (before ++ [slot]) later record unsetOthers [] (by simp)
      rw [List.zip_nil_right] at others
      rw [List.foldr_nil,readPositions,optional slot among,List.zip_nil_right]
      exact others
    | cons value values =>
      rw [List.foldr_cons,List.map_cons,List.zip_cons_cons,Members.ofList_cons,readPositions,
        readMembers]
      simp only [separate.find?_name slot among,unsetSlot]
      cases read : slot.read levels value with
      | error error => rfl
      | ok change =>
        -- The other slots are as empty as before.
        have apart := (List.pairwise_append.mp (split ▸ separate.apart)).2.1
        have keeps : ∀ other ∈ slots, other.isSet (change record) = false := by
          intro other behind
          rw [((List.pairwise_cons.mp apart).1 other behind).keepsSecond levels value change read]
          exact unsetOthers other behind
        exact ih (index + 1) (before ++ [slot]) later (change record) keeps values
          (Nat.le_of_succ_le_succ short)

/-! ### Values -/

theorem Separate.read_perm {shape : Shape σ} (separate : shape.Separate) (levels : Nat)
    (members extra others : List (String × Outline)) (distinct : (members.map Prod.fst).Nodup)
    (unknown : ∀ member ∈ extra, shape.find? member.1 = none)
    (sound : ∀ member ∈ extra, member.2.skipFault? = none) (perm : others.Perm (extra ++ members)) :
    (shape.read levels (.object (.ofList others))).toOption =
      (shape.read levels (.object (.ofList members))).toOption := by
  simp only [read]
  split
  · rfl
  · exact separate.readMembers_perm (levels - 1) shape.empty members extra others distinct unknown
      sound perm

theorem Separate.read_list {shape : Shape σ} (separate : shape.Separate)
    (optional : ∀ slot ∈ shape.members, slot.required = false)
    (unset : ∀ slot ∈ shape.members, slot.isSet shape.empty = false) (levels : Nat)
    (values : List Outline) (short : values.length ≤ shape.members.length) :
    shape.read levels (.list (values.foldr .item (.done .closed))) =
      shape.read levels (.object (.ofList ((shape.members.map Member.name).zip values))) := by
  simp only [read]
  split
  · rfl
  · exact separate.readPositions_eq optional (levels - 1) 0 [] shape.members rfl shape.empty unset
      values short

end Shape

end ParseScope.Document
