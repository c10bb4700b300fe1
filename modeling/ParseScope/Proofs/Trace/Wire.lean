import Mathlib.Algebra.Group.Nat.Defs
import ParseScope.Proofs.Except
import ParseScope.Trace.Wire

/-!
Buffers that hold traces. A buffer that encodes a trace of valid records is read as that trace, and
no other buffer is read: the wire form and the traces of valid records that fit it are inverse to
each other.
-/
namespace ParseScope

/-- What the wire form asks of a record: its rule is in the table, and it does not end before it
starts. -/
def Record.Valid (rules : Rules) (record : Record) : Prop :=
  record.verdict.rule < rules.size ∧ record.start ≤ record.stop

/-- The numbers of a record fit the words of a buffer, which are signed and have 64 bits. -/
structure Record.Fits (record : Record) : Prop where
  rule : record.verdict.rule ≤ 2 ^ 63 - 1
  depth : record.depth ≤ 2 ^ 63 - 1
  start : record.start ≤ 2 ^ 63 - 1
  stop : record.stop ≤ 2 ^ 63 - 1

@[simp] theorem Verdict.ofReference_toReference (verdict : Verdict) :
    ofReference verdict.toReference = verdict := by
  cases verdict with
  | success rule => simp [toReference,ofReference,indexOfReference]
  | failure rule =>
    have negative : ¬ (0 : Int) ≤ -(rule : Int) - 1 := by omega
    have index : (-(-(rule : Int) - 1 + 1)).toNat = rule := by omega
    simp only [toReference,ofReference,indexOfReference,if_neg negative,index]

theorem Verdict.toReference_ofReference (reference : Int) :
    (ofReference reference).toReference = reference := by
  by_cases nonnegative : 0 ≤ reference
  · simp only [ofReference,indexOfReference,if_pos nonnegative,toReference]
    omega
  · simp only [ofReference,indexOfReference,if_neg nonnegative,toReference]
    omega

/-- The least word is the reference of a failure, of the greatest rule that fits. -/
example : Verdict.ofReference Int64.minValue.toInt = .failure (2 ^ 63 - 1) := by decide

namespace Trace

/-- The integers of the buffer are those of the records in a row, so each of them fits. -/
def Encodes (buffer : List Int64) (trace : Trace) : Prop :=
  buffer.map Int64.toInt = trace.flatMap fun record =>
    [record.verdict.toReference, record.depth, record.start, record.stop]

@[simp] theorem nonNegative_natCast (number : Nat) (field : Field) (value : Nat) :
    nonNegative number field value = .ok value := by
  simp [nonNegative]

theorem recordOfWire_of_valid (rules : Rules) (number : Nat) (record : Record)
    (valid : record.Valid rules) :
    recordOfWire rules number record.verdict.toReference record.depth record.start record.stop =
      .ok record := by
  have known : ¬ rules.size ≤ record.verdict.rule := Nat.not_le.mpr valid.1
  have ordered : ¬ record.stop < record.start := Nat.not_lt.mpr valid.2
  simp [recordOfWire,known,ordered,bind,Except.bind,pure,Except.pure]

theorem encodes_cons (buffer : List Int64) (record : Record) (trace : Trace)
    (encoded : Encodes buffer (record :: trace)) :
    ∃ reference depth start stop rest, buffer = reference :: depth :: start :: stop :: rest ∧
      reference.toInt = record.verdict.toReference ∧ depth.toInt = record.depth ∧
      start.toInt = record.start ∧ stop.toInt = record.stop ∧ Encodes rest trace := by
  simp only [Encodes,List.flatMap_cons,List.cons_append,List.nil_append] at encoded
  obtain ⟨reference,_,rfl,first,encoded⟩ := List.map_eq_cons_iff.mp encoded
  obtain ⟨depth,_,rfl,second,encoded⟩ := List.map_eq_cons_iff.mp encoded
  obtain ⟨start,_,rfl,third,encoded⟩ := List.map_eq_cons_iff.mp encoded
  obtain ⟨stop,rest,rfl,fourth,encoded⟩ := List.map_eq_cons_iff.mp encoded
  exact ⟨reference,depth,start,stop,rest,rfl,first,second,third,fourth,encoded⟩

theorem recordsOfWire_of_encodes (rules : Rules) (number : Nat) (buffer : List Int64)
    (trace : Trace) (encoded : Encodes buffer trace)
    (valid : ∀ record ∈ trace, record.Valid rules) :
    recordsOfWire rules number buffer = .ok trace := by
  induction trace generalizing number buffer with
  | nil =>
    obtain rfl : buffer = [] := List.map_eq_nil_iff.mp encoded
    rfl
  | cons record trace ih =>
    obtain ⟨reference,depth,start,stop,rest,rfl,first,second,third,fourth,encoded⟩ :=
      encodes_cons buffer record trace encoded
    have head := recordOfWire_of_valid rules number record (valid record (by simp))
    have tail := ih (number + 1) rest encoded fun other member =>
      valid other (List.mem_cons_of_mem record member)
    rw [recordsOfWire,first,second,third,fourth,head]
    simp [tail,bind,Except.bind,pure,Except.pure]

theorem encodes_length (buffer : List Int64) (trace : Trace) (encoded : Encodes buffer trace) :
    buffer.length = trace.length * 4 := by
  have lengths := congrArg List.length encoded
  simpa [List.length_flatMap,List.map_const'] using lengths

/-- A buffer that encodes valid records is accepted, and gives exactly these records. -/
theorem ofWire_of_encodes (rules : Rules) (buffer : List Int64) (trace : Trace)
    (encoded : Encodes buffer trace) (valid : ∀ record ∈ trace, record.Valid rules) :
    ofWire buffer rules = .ok trace := by
  have whole : buffer.length % 4 = 0 := by
    rw [encodes_length buffer trace encoded]
    exact Nat.mul_mod_left trace.length 4
  rw [ofWire,if_neg (not_not_intro whole)]
  exact recordsOfWire_of_encodes rules 0 buffer trace encoded valid

theorem nonNegative_eq_ok (number : Nat) (field : Field) (value : Int) (result : Nat)
    (accepted : nonNegative number field value = .ok result) : (result : Int) = value := by
  by_cases negative : value < 0
  · simp [nonNegative,negative] at accepted
  · simp only [nonNegative,if_neg negative,Except.ok.injEq] at accepted
    omega

/-- A group of four that is accepted is that of its record, which is valid. -/
theorem recordOfWire_eq_ok (rules : Rules) (number : Nat) (reference depth start stop : Int)
    (record : Record) (accepted : recordOfWire rules number reference depth start stop = .ok record) :
    record.verdict.toReference = reference ∧ (record.depth : Int) = depth ∧
      (record.start : Int) = start ∧ (record.stop : Int) = stop ∧ record.Valid rules := by
  by_cases unknown : rules.size ≤ (Verdict.ofReference reference).rule
  · simp [recordOfWire,unknown,bind_eq_ok_iff] at accepted
  · simp only [recordOfWire,if_neg unknown,bind_eq_ok_iff] at accepted
    obtain ⟨depthRead,depthOk,startRead,startOk,stopRead,stopOk,accepted⟩ := accepted
    by_cases inverted : stopRead < startRead
    · simp [inverted,bind_eq_ok_iff,-bind_pure_comp] at accepted
    · rw [if_neg inverted] at accepted
      obtain rfl := Except.ok.inj accepted
      exact ⟨Verdict.toReference_ofReference reference,nonNegative_eq_ok _ _ _ _ depthOk,
        nonNegative_eq_ok _ _ _ _ startOk,nonNegative_eq_ok _ _ _ _ stopOk,
        Nat.not_le.mp unknown,Nat.not_lt.mp inverted⟩

/-- Whole groups that are accepted encode their records, which are valid. -/
theorem encodes_of_recordsOfWire (rules : Rules) (number : Nat) (buffer : List Int64)
    (trace : Trace) (whole : buffer.length % 4 = 0)
    (accepted : recordsOfWire rules number buffer = .ok trace) :
    Encodes buffer trace ∧ ∀ record ∈ trace, record.Valid rules := by
  fun_induction recordsOfWire rules number buffer generalizing trace with
  | case1 number reference depth start stop rest ih =>
    simp only [bind_eq_ok_iff] at accepted
    obtain ⟨first,firstOk,others,othersOk,made⟩ := accepted
    obtain rfl := Except.ok.inj made
    obtain ⟨referenceEq,depthEq,startEq,stopEq,valid⟩ :=
      recordOfWire_eq_ok rules number _ _ _ _ first firstOk
    have wholeRest : rest.length % 4 = 0 := by
      simp only [List.length_cons] at whole
      omega
    obtain ⟨encoded,validOthers⟩ := ih others wholeRest othersOk
    rw [Encodes] at encoded
    refine ⟨?_,List.forall_mem_cons.mpr ⟨valid,validOthers⟩⟩
    simp only [Encodes,List.map_cons,List.flatMap_cons,encoded,referenceEq,depthEq,startEq,stopEq,
      List.cons_append,List.nil_append]
  | case2 buffer number short =>
    obtain rfl := Except.ok.inj accepted
    have empty : buffer = [] := by
      match buffer,whole,short with
      | [],_,_ => rfl
      | [_],whole,_ => simp at whole
      | [_,_],whole,_ => simp at whole
      | [_,_,_],whole,_ => simp at whole
      | reference :: depth :: start :: stop :: rest,_,short =>
        exact absurd rfl (short reference depth start stop rest)
    simp [empty,Encodes]

/-- The buffers that are accepted are those that encode valid records. -/
theorem ofWire_eq_ok_iff_encodes (rules : Rules) (buffer : List Int64) (trace : Trace) :
    ofWire buffer rules = .ok trace ↔
      Encodes buffer trace ∧ ∀ record ∈ trace, record.Valid rules := by
  constructor
  · intro accepted
    by_cases whole : buffer.length % 4 = 0
    · rw [ofWire,if_neg (not_not_intro whole)] at accepted
      exact encodes_of_recordsOfWire rules 0 buffer trace whole accepted
    · simp [ofWire,whole] at accepted
  · rintro ⟨encoded,valid⟩
    exact ofWire_of_encodes rules buffer trace encoded valid

theorem toInt_toReference (verdict : Verdict) (fits : verdict.rule ≤ 2 ^ 63 - 1) :
    (Int64.ofInt verdict.toReference).toInt = verdict.toReference := by
  cases verdict with
  | success rule =>
    simp only [Verdict.rule,Verdict.toReference] at fits ⊢
    exact Int64.toInt_ofInt_of_le (by omega) (by omega)
  | failure rule =>
    simp only [Verdict.rule,Verdict.toReference] at fits ⊢
    exact Int64.toInt_ofInt_of_le (by omega) (by omega)

theorem encodes_toWire (trace : Trace) (fits : ∀ record ∈ trace, record.Fits) :
    Encodes (toWire trace) trace := by
  induction trace with
  | nil => rfl
  | cons record trace ih =>
    obtain ⟨first,others⟩ := List.forall_mem_cons.mp fits
    have rest := ih others
    have rule := toInt_toReference record.verdict first.rule
    have depth := Int64.toInt_ofNat_of_lt (n := record.depth) (by have := first.depth; omega)
    have start := Int64.toInt_ofNat_of_lt (n := record.start) (by have := first.start; omega)
    have stop := Int64.toInt_ofNat_of_lt (n := record.stop) (by have := first.stop; omega)
    simp only [Encodes,toWire] at rest ⊢
    simp only [List.flatMap_cons,List.map_append,rest,wireOfRecord,List.map_cons,List.map_nil,rule,
      depth,start,stop]

/-- A record whose numbers are words fits, and its group is made of these words. -/
theorem wireOfRecord_eq (record : Record) (reference depth start stop : Int64)
    (referenceEq : reference.toInt = record.verdict.toReference)
    (depthEq : depth.toInt = record.depth) (startEq : start.toInt = record.start)
    (stopEq : stop.toInt = record.stop) :
    record.Fits ∧ wireOfRecord record = [reference,depth,start,stop] := by
  have low := reference.le_toInt
  have high := reference.toInt_lt
  have depthHigh := depth.toInt_lt
  have startHigh := start.toInt_lt
  have stopHigh := stop.toInt_lt
  refine ⟨⟨?_,by omega,by omega,by omega⟩,?_⟩
  · cases verdict : record.verdict with
    | success rule =>
      simp only [verdict,Verdict.toReference,Verdict.rule] at referenceEq ⊢
      omega
    | failure rule =>
      simp only [verdict,Verdict.toReference,Verdict.rule] at referenceEq ⊢
      omega
  · simp only [wireOfRecord,← Int64.ofInt_eq_ofNat,← referenceEq,← depthEq,← startEq,← stopEq,
      Int64.ofInt_toInt]

/-- A buffer encodes the traces that fit it and have it as their wire form. -/
theorem encodes_iff_toWire (buffer : List Int64) (trace : Trace) :
    Encodes buffer trace ↔ toWire trace = buffer ∧ ∀ record ∈ trace, record.Fits := by
  constructor
  · intro encoded
    induction trace generalizing buffer with
    | nil => exact ⟨(List.map_eq_nil_iff.mp encoded).symm,by simp⟩
    | cons record trace ih =>
      obtain ⟨reference,depth,start,stop,rest,rfl,first,second,third,fourth,encoded⟩ :=
        encodes_cons buffer record trace encoded
      obtain ⟨fits,group⟩ := wireOfRecord_eq record _ _ _ _ first second third fourth
      obtain ⟨others,fitOthers⟩ := ih rest encoded
      refine ⟨?_,List.forall_mem_cons.mpr ⟨fits,fitOthers⟩⟩
      rw [toWire] at others
      rw [toWire,List.flatMap_cons,group,others]
      rfl
  · rintro ⟨rfl,fits⟩
    exact encodes_toWire trace fits

/-- The wire form and the traces of valid records are inverse to each other: a buffer is accepted as
a trace exactly when it is the wire form of that trace, whose records are valid and fit. The words
of the wire form are then the reference, depth, start and end of each record in turn. -/
theorem ofWire_eq_ok_iff_toWire (rules : Rules) (buffer : List Int64) (trace : Trace) :
    (ofWire buffer rules = .ok trace ↔
      toWire trace = buffer ∧ ∀ record ∈ trace, record.Valid rules ∧ record.Fits) ∧
    (Encodes buffer trace ↔ toWire trace = buffer ∧ ∀ record ∈ trace, record.Fits) := by
  refine ⟨?_,encodes_iff_toWire buffer trace⟩
  rw [ofWire_eq_ok_iff_encodes,encodes_iff_toWire]
  constructor
  · rintro ⟨⟨wire,fits⟩,valid⟩
    exact ⟨wire,fun record member => ⟨valid record member,fits record member⟩⟩
  · rintro ⟨wire,both⟩
    exact ⟨⟨wire,fun record member => (both record member).2⟩,
      fun record member => (both record member).1⟩

end Trace

end ParseScope
