import ParseScope.Trace.Basic

/-!
The flat wire form of a trace: four integers for each record, rule reference, depth, start and
end. The reference of a failed attempt of rule `i` is `-i - 1`.
-/
namespace ParseScope

namespace Verdict

/-- The rule index in a signed rule reference. -/
def indexOfReference (reference : Int) : Nat :=
  if 0 ≤ reference then reference.toNat else (-(reference + 1)).toNat

def ofReference (reference : Int) : Verdict :=
  if 0 ≤ reference then success (indexOfReference reference)
  else failure (indexOfReference reference)

def toReference : Verdict → Int
  | success rule => rule
  | failure rule => -(rule : Int) - 1

end Verdict

namespace Trace

/-- The parts of a record that must not be negative. -/
inductive Field
  | depth
  | start
  | stop
  deriving DecidableEq, Repr

def Field.name : Field → String
  | depth => "depth"
  | start => "start"
  | stop => "end"

/-- What breaks the wire form. `record` counts the records from 0. -/
inductive WireError
  | truncated (length : Nat)
  | unknownRule (record index rules : Nat)
  | negative (record : Nat) (field : Field) (value : Int)
  | inverted (record start stop : Nat)
  deriving DecidableEq, Repr

def WireError.message : WireError → String
  | truncated length => s!"trace buffer length {length} is not a multiple of 4"
  | unknownRule record index rules =>
    s!"record {record} refers to rule {index}, but the rule table has {rules} rules"
  | negative record field value =>
    s!"record {record} is invalid: {field.name} is negative ({value})"
  | inverted record start stop =>
    s!"record {record} is invalid: start {start} is past end {stop}"

/-- A part that must not be negative. -/
def nonNegative (record : Nat) (field : Field) (value : Int) : Except WireError Nat :=
  if value < 0 then .error (.negative record field value) else .ok value.toNat

/-- The record of one group of four, with the checks in their order. -/
def recordOfWire (rules : Rules) (record : Nat) (reference depth start stop : Int) :
    Except WireError Record := do
  let verdict := Verdict.ofReference reference
  if rules.size ≤ verdict.rule then
    throw (.unknownRule record verdict.rule rules.size)
  let depth ← nonNegative record .depth depth
  let start ← nonNegative record .start start
  let stop ← nonNegative record .stop stop
  if stop < start then
    throw (.inverted record start stop)
  return ⟨verdict, depth, start, stop⟩

/-- The records of whole groups, the first of which has number `record`. -/
def recordsOfWire (rules : Rules) : Nat → List Int64 → Except WireError Trace
  | record, reference :: depth :: start :: stop :: rest => do
    let first ← recordOfWire rules record reference.toInt depth.toInt start.toInt stop.toInt
    let others ← recordsOfWire rules (record + 1) rest
    return first :: others
  | _, _ => .ok []

/-- The trace of a buffer, whose rule references count in `rules`; the first violation rejects the
whole buffer. -/
def ofWire (buffer : List Int64) (rules : Rules) : Except WireError Trace :=
  if buffer.length % 4 ≠ 0 then .error (.truncated buffer.length)
  else recordsOfWire rules 0 buffer

/-- The group of four that stands for a record. -/
def wireOfRecord (record : Record) : List Int64 :=
  [Int64.ofInt record.verdict.toReference, Int64.ofNat record.depth, Int64.ofNat record.start,
    Int64.ofNat record.stop]

def toWire (trace : Trace) : List Int64 := trace.flatMap wireOfRecord

end Trace

end ParseScope
