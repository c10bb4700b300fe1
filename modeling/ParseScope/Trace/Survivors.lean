import ParseScope.Trace.Basic

/-!
The attempts that make up the final parse: successes inside successes only.
-/
namespace ParseScope.Trace

/-- A walk over a trace from its end: what was kept so far, and for each depth whether the latest
record met there survives. -/
structure Walk where
  kept : List Record
  alive : Nat → Bool

def Walk.start : Walk := ⟨[], fun _ => true⟩

/-- Whether a record survives, given the records after it. -/
def Walk.keeps (walk : Walk) (record : Record) : Bool :=
  record.isSuccess && (record.depth = 0 || walk.alive (record.depth - 1))

def Walk.step (record : Record) (walk : Walk) : Walk :=
  let survives := walk.keeps record
  { kept := if survives then record :: walk.kept else walk.kept
    alive := fun depth => if depth = record.depth then survives else walk.alive depth }

/-- The successes whose enclosing attempts all succeeded too, in trace order. An attempt follows
those inside it, so a walk from the end meets every encloser first. -/
def survivors (trace : Trace) : List Record := (trace.foldr Walk.step .start).kept

end ParseScope.Trace
