import Mathlib.Data.List.Induction
import ParseScope.Proofs.Surface

/-!
Surfaces under any run of changes. A set is what the last write under its name and kind left there,
unless the name was erased since; sets that were all cut to the text lie inside it.
-/
namespace ParseScope

/-! ### Cut spans -/

/-- The span with both ends moved into a text of `length` characters. -/
def Span.clamp (span : Span) (length : Nat) : Span :=
  ⟨min span.first (length - 1),min span.last (length - 1)⟩

def Labelled.clamp (labelled : Labelled) (length : Nat) : Labelled :=
  ⟨labelled.span.clamp length,labelled.label⟩

theorem Span.cut?_eq_guard (span : Span) (length : Nat) :
    span.cut? length = Option.guard (fun kept => kept.first < kept.last) (span.clamp length) := by
  rw [cut?,Option.guard,clamp]
  by_cases empty : length = 0
  · simp [empty]
  · simp [empty]

theorem Span.filterMap_cut?_eq (spans : List Span) (length : Nat) :
    spans.filterMap (·.cut? length) =
      (spans.map (·.clamp length)).filter fun kept => kept.first < kept.last := by
  rw [← List.filterMap_eq_filter,List.filterMap_map]
  apply List.filterMap_congr
  intro span _
  exact span.cut?_eq_guard length

theorem Labelled.filterMap_cut?_eq (spans : List Labelled) (length : Nat) :
    spans.filterMap (·.cut? length) =
      (spans.map (·.clamp length)).filter fun kept => kept.span.first < kept.span.last := by
  rw [← List.filterMap_eq_filter,List.filterMap_map]
  apply List.filterMap_congr
  intro labelled _
  rw [cut?,Span.cut?_eq_guard,Option.map_guard]
  rfl

theorem Span.clamp_last_lt (span : Span) (length : Nat)
    (covers : (span.clamp length).first < (span.clamp length).last) :
    (span.clamp length).last < length := by
  simp only [clamp] at covers ⊢
  omega

theorem Labelled.map_span_filterMap_cut? (spans : List Labelled) (length : Nat) :
    (spans.filterMap (·.cut? length)).map Labelled.span =
      (spans.map Labelled.span).filterMap (·.cut? length) := by
  rw [List.map_filterMap,List.filterMap_map]
  apply List.filterMap_congr
  intro labelled _
  rw [cut?,Option.map_map]
  exact Option.map_id'

namespace Surface

/-! ### Changes -/

/-- A change of the sets on a surface. -/
inductive Change
  | put (name : String) (spans : List Span)
  | mark (name : String) (spans : List Span)
  | putLabelled (name : String) (spans : List Labelled)
  | markLabelled (name : String) (spans : List Labelled)
  | erase (name : String)

def after (surface : Surface) : Change → Surface
  | .put name spans => surface.put name spans
  | .mark name spans => surface.mark name spans
  | .putLabelled name spans => surface.putLabelled name spans
  | .markLabelled name spans => surface.markLabelled name spans
  | .erase name => surface.erase name

/-- What a change tells its caller: an erasure, whether there was a set to remove. -/
def answer? (surface : Surface) : Change → Option Bool
  | .erase name => some (surface.contains name)
  | .put _ _ | .mark _ _ | .putLabelled _ _ | .markLabelled _ _ => none

def afterAll (surface : Surface) (changes : List Change) : Surface := changes.foldl after surface

/-- The change stores spans only after cutting them to the text. -/
def Change.Cuts : Change → Prop
  | .put _ _ | .putLabelled _ _ => False
  | .mark _ _ | .markLabelled _ _ | .erase _ => True

/-- The plain set that a change writes under a name, on a text of `length` characters. -/
inductive WritesPlain (length : Nat) (name : String) : Change → List Span → Prop
  | put (spans : List Span) : WritesPlain length name (.put name spans) spans
  | mark (spans : List Span) : WritesPlain length name (.mark name spans)
      ((spans.map (·.clamp length)).filter fun kept => kept.first < kept.last)

/-- The labelled set that a change writes under a name. -/
inductive WritesLabelled (length : Nat) (name : String) : Change → List Labelled → Prop
  | put (spans : List Labelled) : WritesLabelled length name (.putLabelled name spans) spans
  | mark (spans : List Labelled) : WritesLabelled length name (.markLabelled name spans)
      ((spans.map (·.clamp length)).filter fun kept => kept.span.first < kept.span.last)

section Writes

variable {length : Nat} {name other : String}

theorem writesPlain_put_iff {spans value : List Span} :
    WritesPlain length name (.put other spans) value ↔ other = name ∧ value = spans := by
  constructor
  · rintro ⟨⟩
    exact ⟨rfl,rfl⟩
  · rintro ⟨rfl,rfl⟩
    exact .put value

theorem writesPlain_mark_iff {spans value : List Span} :
    WritesPlain length name (.mark other spans) value ↔
      other = name ∧ value = spans.filterMap (·.cut? length) := by
  rw [Span.filterMap_cut?_eq]
  constructor
  · rintro ⟨⟩
    exact ⟨rfl,rfl⟩
  · rintro ⟨rfl,rfl⟩
    exact .mark spans

theorem writesLabelled_put_iff {spans value : List Labelled} :
    WritesLabelled length name (.putLabelled other spans) value ↔ other = name ∧ value = spans := by
  constructor
  · rintro ⟨⟩
    exact ⟨rfl,rfl⟩
  · rintro ⟨rfl,rfl⟩
    exact .put value

theorem writesLabelled_mark_iff {spans value : List Labelled} :
    WritesLabelled length name (.markLabelled other spans) value ↔
      other = name ∧ value = spans.filterMap (·.cut? length) := by
  rw [Labelled.filterMap_cut?_eq]
  constructor
  · rintro ⟨⟩
    exact ⟨rfl,rfl⟩
  · rintro ⟨rfl,rfl⟩
    exact .mark spans

end Writes

section Sets

variable {Value : Type} (Writes : Change → Value → Prop) (name : String)

/-- What becomes of the set under a name in one change. -/
inductive Turns (change : Change) (old new : Option Value) : Prop
  | written (value : Value) (writes : Writes change value) (now : new = some value)
  | erased (erases : change = .erase name) (now : new = none)
  | kept (silent : ∀ value, ¬ Writes change value) (stays : change ≠ .erase name)
      (now : new = old)

/-- What stands under a name after some changes: the last that was written there, unless the name
was erased since. -/
inductive Stands (changes : List Change) : Option Value → Prop
  | written (before later : List Change) (change : Change) (value : Value)
      (split : changes = before ++ change :: later) (writes : Writes change value)
      (last : ∀ next ∈ later, next ≠ .erase name ∧ ∀ other, ¬ Writes next other) :
      Stands changes (some value)
  | absent (erased : ∀ before change later value, changes = before ++ change :: later →
      Writes change value → .erase name ∈ later) : Stands changes none

variable {Writes} {name}

/-- An insertion turns the set of its own name and keeps the others. -/
theorem Turns.insert {change : Change} (map : NameMap Value) (other : String) (value : Value)
    (stays : change ≠ .erase name)
    (writes : ∀ written, Writes change written ↔ other = name ∧ written = value) :
    Turns Writes name change (map.get? name) ((map.insert other value).get? name) := by
  by_cases same : other = name
  · subst same
    exact .written value ((writes value).mpr ⟨rfl,rfl⟩) (NameMap.get?_insert _ _ _)
  · refine .kept ?_ stays (NameMap.get?_insert_of_ne _ _ _ _ (Ne.symm same))
    intro written writing
    exact same ((writes written).mp writing).1

theorem Turns.remove (map : NameMap Value) (other : String)
    (spares : ∀ value, ¬ Writes (.erase other) value) :
    Turns Writes name (.erase other) (map.get? name) ((map.erase other).get? name) := by
  by_cases same : other = name
  · subst same
    exact .erased rfl (NameMap.get?_erase _ _)
  · refine .kept spares ?_ (NameMap.get?_erase_of_ne _ _ _ (Ne.symm same))
    rintro ⟨⟩
    exact same rfl

theorem Stands.nil : Stands Writes name [] none :=
  .absent fun before _ _ _ split _ => absurd split (by simp)

/-- A change is the last of a run, or the run goes on after it. -/
theorem split_last {changes before later : List Change} {last change : Change}
    (split : changes ++ [last] = before ++ change :: later) :
    (later = [] ∧ change = last) ∨
      ∃ more, later = more ++ [last] ∧ changes = before ++ change :: more := by
  rcases List.eq_nil_or_concat later with rfl | ⟨more,next,rfl⟩
  · obtain ⟨_,same⟩ := List.append_inj' split rfl
    exact .inl ⟨rfl,(List.cons.inj same).1.symm⟩
  · rw [List.concat_eq_append,← List.cons_append,← List.append_assoc] at split
    obtain ⟨run,same⟩ := List.append_inj' split rfl
    obtain rfl := (List.cons.inj same).1
    exact .inr ⟨more,List.concat_eq_append,run⟩

variable (spares : ∀ value, ¬ Writes (.erase name) value)

include spares in
/-- One more change turns what stood under the name into what stands there now. -/
theorem Stands.turn {changes : List Change} {change : Change} {old new : Option Value}
    (stands : Stands Writes name changes old) (turns : Turns Writes name change old new) :
    Stands Writes name (changes ++ [change]) new := by
  cases turns with
  | written value writes now =>
    subst now
    exact .written changes [] change value rfl writes (by simp)
  | erased erases now =>
    subst erases now
    refine .absent ?_
    intro before writer later value split writes
    rcases split_last split with ⟨_,rfl⟩ | ⟨more,rfl,_⟩
    · exact absurd writes (spares value)
    · exact List.mem_append_right more List.mem_cons_self
  | kept silent stays now =>
    subst now
    cases stands with
    | written before later writer value split writes last =>
      refine .written before (later ++ [change]) writer value (by simp [split]) writes ?_
      intro next member
      rcases List.mem_append.mp member with member | member
      · exact last next member
      · obtain rfl := List.mem_singleton.mp member
        exact ⟨stays,silent⟩
    | absent erased =>
      refine .absent ?_
      intro before writer later value split writes
      rcases split_last split with ⟨_,rfl⟩ | ⟨more,rfl,run⟩
      · exact absurd writes (silent value)
      · exact List.mem_append_left _ (erased before writer more value run writes)

/-- Only one set can stand under a name: of two last writes neither comes after the other. -/
theorem Stands.unique (single : ∀ change a b, Writes change a → Writes change b → a = b)
    {changes : List Change} {a b : Option Value} (standsA : Stands Writes name changes a)
    (standsB : Stands Writes name changes b) : a = b := by
  cases standsA with
  | written before later change value split writes last =>
    cases standsB with
    | written before' later' change' value' split' writes' last' =>
      -- The run is split twice, at the two writes: they coincide, or one is later than the other.
      rcases List.append_eq_append_iff.mp (split.symm.trans split') with
        ⟨between,_,tail⟩ | ⟨between,_,tail⟩
      · cases between with
        | nil =>
          obtain ⟨rfl,_⟩ := List.cons.inj tail
          rw [single change value value' writes writes']
        | cons head between =>
          obtain ⟨_,rfl⟩ := List.cons.inj tail
          exact absurd writes' ((last change' (by simp)).2 value')
      · cases between with
        | nil =>
          obtain ⟨rfl,_⟩ := List.cons.inj tail
          rw [single change' value value' writes writes']
        | cons head between =>
          obtain ⟨_,rfl⟩ := List.cons.inj tail
          exact absurd writes ((last' change (by simp)).2 value)
    | absent erased =>
      exact absurd rfl (last _ (erased before change later value split writes)).1
  | absent erased =>
    cases standsB with
    | written before later change value split writes last =>
      exact absurd rfl (last _ (erased before change later value split writes)).1
    | absent => rfl

end Sets

/-! ### Surfaces -/

theorem text_after (surface : Surface) (change : Change) :
    (surface.after change).text = surface.text := by
  cases change with
  | put | mark | putLabelled | markLabelled | erase => rfl

theorem afterAll_concat (surface : Surface) (changes : List Change) (change : Change) :
    surface.afterAll (changes ++ [change]) = (surface.afterAll changes).after change := by
  rw [afterAll,List.foldl_append]
  rfl

theorem text_afterAll (surface : Surface) (changes : List Change) :
    (surface.afterAll changes).text = surface.text := by
  induction changes generalizing surface with
  | nil => rfl
  | cons change changes ih => exact (ih (surface.after change)).trans (surface.text_after change)

theorem turns_plain? (surface : Surface) (change : Change) (name : String) :
    Turns (WritesPlain surface.length name) name change (surface.plain? name)
      ((surface.after change).plain? name) := by
  cases change with
  | put => exact .insert _ _ _ nofun fun _ => writesPlain_put_iff
  | mark => exact .insert _ _ _ nofun fun _ => writesPlain_mark_iff
  | putLabelled => exact .kept nofun nofun rfl
  | markLabelled => exact .kept nofun nofun rfl
  | erase => exact .remove _ _ nofun

theorem turns_labelled? (surface : Surface) (change : Change) (name : String) :
    Turns (WritesLabelled surface.length name) name change (surface.labelled? name)
      ((surface.after change).labelled? name) := by
  cases change with
  | put => exact .kept nofun nofun rfl
  | mark => exact .kept nofun nofun rfl
  | putLabelled => exact .insert _ _ _ nofun fun _ => writesLabelled_put_iff
  | markLabelled => exact .insert _ _ _ nofun fun _ => writesLabelled_mark_iff
  | erase => exact .remove _ _ nofun

/-- What is read of a fresh surface after a run of changes stands there, if each change turns it. -/
theorem stands_afterAll {Value : Type} {Writes : Change → Value → Prop} {name : String}
    (spares : ∀ value, ¬ Writes (.erase name) value) (read : Surface → Option Value)
    (text : String) (fresh : read (ofText text) = none)
    (turns : ∀ surface : Surface, surface.text = text → ∀ change,
      Turns Writes name change (read surface) (read (surface.after change)))
    (changes : List Change) :
    Stands Writes name changes (read ((ofText text).afterAll changes)) := by
  -- The run is followed from its end: what stands turns with its last change.
  induction changes using List.reverseRecOn with
  | nil => exact fresh ▸ .nil
  | append_singleton changes change ih =>
    rw [afterAll_concat]
    exact ih.turn spares (turns _ (text_afterAll _ changes) change)

theorem stands_plain? (text : String) (changes : List Change) (name : String) :
    Stands (WritesPlain text.toList.length name) name changes
      (((ofText text).afterAll changes).plain? name) := by
  apply stands_afterAll nofun (·.plain? name) text rfl
  rintro surface rfl change
  exact surface.turns_plain? change name

theorem stands_labelled? (text : String) (changes : List Change) (name : String) :
    Stands (WritesLabelled text.toList.length name) name changes
      (((ofText text).afterAll changes).labelled? name) := by
  apply stands_afterAll nofun (·.labelled? name) text rfl
  rintro surface rfl change
  exact surface.turns_labelled? change name

theorem WritesPlain.single {length : Nat} {name : String} (change : Change) (a b : List Span)
    (writesA : WritesPlain length name change a) (writesB : WritesPlain length name change b) :
    a = b := by
  cases writesA with
  | put | mark =>
    cases writesB
    rfl

theorem WritesLabelled.single {length : Nat} {name : String} (change : Change)
    (a b : List Labelled) (writesA : WritesLabelled length name change a)
    (writesB : WritesLabelled length name change b) : a = b := by
  cases writesA with
  | put | mark =>
    cases writesB
    rfl

theorem contains_iff (surface : Surface) (name : String) : surface.contains name = true ↔
    (∃ spans, surface.plain? name = some spans) ∨
      ∃ spans, surface.labelled? name = some spans := by
  simp [contains,Option.isSome_iff_exists]

theorem mem_names_iff (surface : Surface) (name : String) : name ∈ surface.names ↔
    (∃ spans, surface.plain? name = some spans) ∨
      ∃ spans, surface.labelled? name = some spans := by
  rw [names,NameMap.mem_names_foldl_insert_iff,NameMap.mem_names_foldl_insert_iff,
    NameMap.mem_names_iff,NameMap.mem_names_iff]
  simp [NameMap.names,NameMap.empty,plain?,labelled?,or_comm]

theorem names_ascending (surface : Surface) : surface.names.Pairwise (· < ·) :=
  NameMap.names_ascending _

/-- The surface over a text shows what some changes leave there. -/
structure Reflects (text : String) (changes : List Change) (surface : Surface) : Prop where
  shows : surface.text = text
  plain : ∀ name answer, surface.plain? name = answer ↔
    Stands (WritesPlain text.toList.length name) name changes answer
  labelled : ∀ name answer, surface.labelled? name = answer ↔
    Stands (WritesLabelled text.toList.length name) name changes answer
  answers : ∀ name, surface.answer? (.erase name) = some true ↔
    (∃ spans, surface.plain? name = some spans) ∨ ∃ spans, surface.labelled? name = some spans
  names : ∀ name, name ∈ surface.names ↔
    (∃ spans, surface.plain? name = some spans) ∨ ∃ spans, surface.labelled? name = some spans
  ascending : surface.names.Pairwise (· < ·)

theorem reflects_afterAll (text : String) (changes : List Change) :
    Reflects text changes ((ofText text).afterAll changes) where
  shows := text_afterAll _ changes
  plain name answer := by
    constructor
    · rintro rfl
      exact stands_plain? text changes name
    · intro stands
      exact (stands_plain? text changes name).unique WritesPlain.single stands
  labelled name answer := by
    constructor
    · rintro rfl
      exact stands_labelled? text changes name
    · intro stands
      exact (stands_labelled? text changes name).unique WritesLabelled.single stands
  answers name := by rw [answer?,Option.some.injEq,contains_iff]
  names name := mem_names_iff _ name
  ascending := names_ascending _

/-- What one more change does to the sets of a surface: under each name and kind it writes, erases
or leaves what is there, and cut spans do not depend on their labels. -/
structure Steps (surface : Surface) : Prop where
  plain : ∀ change name, Turns (WritesPlain surface.length name) name change
    (surface.plain? name) ((surface.after change).plain? name)
  labelled : ∀ change name, Turns (WritesLabelled surface.length name) name change
    (surface.labelled? name) ((surface.after change).labelled? name)
  alike : ∀ name spans,
    ((surface.after (.markLabelled name spans)).labelled? name).map (·.map Labelled.span) =
      (surface.after (.mark name (spans.map Labelled.span))).plain? name

theorem steps (surface : Surface) : Steps surface where
  plain := surface.turns_plain?
  labelled := surface.turns_labelled?
  alike name spans := by
    rw [after,after,labelled?_markLabelled,plain?_mark,Option.map_some,
      Labelled.map_span_filterMap_cut?]

/-! ### Spans inside the text -/

/-- All spans on the surface cover two positions at least and end inside its text. -/
structure Within (surface : Surface) : Prop where
  plain : ∀ name spans, surface.plain? name = some spans → ∀ span ∈ spans,
    span.first < span.last ∧ span.last < surface.length
  labelled : ∀ name spans, surface.labelled? name = some spans → ∀ labelled ∈ spans,
    labelled.span.first < labelled.span.last ∧ labelled.span.last < surface.length

theorem WritesPlain.inside {length : Nat} {name : String} {change : Change} {spans : List Span}
    (writes : WritesPlain length name change spans) (cuts : change.Cuts) :
    ∀ span ∈ spans, span.first < span.last ∧ span.last < length := by
  intro span member
  cases writes with
  | put => exact cuts.elim
  | mark given =>
    obtain ⟨clamped,covers⟩ := List.mem_filter.mp member
    obtain ⟨whole,_,rfl⟩ := List.mem_map.mp clamped
    have covers := of_decide_eq_true covers
    exact ⟨covers,whole.clamp_last_lt length covers⟩

theorem WritesLabelled.inside {length : Nat} {name : String} {change : Change}
    {spans : List Labelled} (writes : WritesLabelled length name change spans)
    (cuts : change.Cuts) : ∀ labelled ∈ spans,
      labelled.span.first < labelled.span.last ∧ labelled.span.last < length := by
  intro labelled member
  cases writes with
  | put => exact cuts.elim
  | mark given =>
    obtain ⟨clamped,covers⟩ := List.mem_filter.mp member
    obtain ⟨whole,_,rfl⟩ := List.mem_map.mp clamped
    have covers := of_decide_eq_true covers
    exact ⟨covers,whole.span.clamp_last_lt length covers⟩

/-- What stands was written by one of the changes. -/
theorem Stands.writer {Value : Type} {Writes : Change → Value → Prop} {name : String}
    {changes : List Change} {value : Value} (stands : Stands Writes name changes (some value)) :
    ∃ change ∈ changes, Writes change value := by
  cases stands with
  | written before later change _ split writes _ =>
    exact ⟨change,by simp [split],writes⟩

theorem within_afterAll (text : String) (changes : List Change)
    (cuts : ∀ change ∈ changes, change.Cuts) : Within ((ofText text).afterAll changes) := by
  have length : ((ofText text).afterAll changes).length = text.toList.length :=
    congrArg (·.toList.length) (text_afterAll _ changes)
  constructor
  · intro name spans found
    obtain ⟨change,member,writes⟩ := (found ▸ stands_plain? text changes name).writer
    rw [length]
    exact writes.inside (cuts change member)
  · intro name spans found
    obtain ⟨change,member,writes⟩ := (found ▸ stands_labelled? text changes name).writer
    rw [length]
    exact writes.inside (cuts change member)

/-- A surface is known by the changes made to it, whatever they were and in whatever order, and
where all of them cut their spans, nothing on it passes the end of its text. -/
theorem afterAll_last_writes (text : String) (changes : List Change) :
    Reflects text changes ((ofText text).afterAll changes) ∧
      Steps ((ofText text).afterAll changes) ∧
      ((∀ change ∈ changes, change.Cuts) → Within ((ofText text).afterAll changes)) :=
  ⟨reflects_afterAll text changes,steps _,within_afterAll text changes⟩

/-- A span past the end is cut, an inverted one is dropped, and an erasure spares other names. -/
theorem afterAll_last_writes_marks :
    let changes : List Change := [.mark "a" [⟨2,9⟩],.markLabelled "b" [⟨⟨1,2⟩,"rule"⟩],
      .mark "a" [⟨3,9⟩,⟨4,1⟩],.mark "b" [⟨0,1⟩],.erase "b"]
    let surface := (ofText "abcdef").afterAll changes
    Within surface ∧ Stands (WritesPlain 6 "a") "a" changes (some [⟨3,5⟩]) ∧
      Stands (WritesLabelled 6 "b") "b" changes none := by
  intro changes surface
  obtain ⟨reflects,_,within⟩ := afterAll_last_writes "abcdef" changes
  refine ⟨within ?_,(reflects.plain "a" _).mp ?_,(reflects.labelled "b" _).mp ?_⟩
  · simp [changes,Change.Cuts]
  · decide +kernel
  · decide +kernel

end Surface

end ParseScope
