/-!
The trace of a parse: the attempts to match a rule, in the order in which they ended.
-/
namespace ParseScope

/-- How an attempt to match a rule ended; the number is the rule's index. -/
inductive Verdict
  | success (rule : Nat)
  | failure (rule : Nat)
  deriving DecidableEq, Repr

namespace Verdict

def rule : Verdict → Nat
  | success rule => rule
  | failure rule => rule

def isSuccess : Verdict → Bool
  | success _ => true
  | failure _ => false

def isFailure (verdict : Verdict) : Bool := !verdict.isSuccess

end Verdict

/-- One attempt: its verdict, its nesting depth, and the input it covers, from `start` up to
`stop`. -/
structure Record where
  verdict : Verdict
  depth : Nat
  start : Nat
  stop : Nat
  deriving DecidableEq, Repr

namespace Record

def isSuccess (record : Record) : Bool := record.verdict.isSuccess

def isFailure (record : Record) : Bool := record.verdict.isFailure

/-- Whether nothing was consumed. -/
def isEmpty (record : Record) : Bool := record.start = record.stop

end Record

/-- Records in the order in which the attempts ended: an attempt follows those inside it. -/
abbrev Trace := List Record

/-- The failed attempts, in trace order. -/
def Trace.failed (trace : Trace) : List Record := trace.filter Record.isFailure

/-- The rule names of one grammar, by index. -/
structure Rules where
  names : List String
  deriving DecidableEq, Repr

namespace Rules

def size (rules : Rules) : Nat := rules.names.length

def get? (rules : Rules) (index : Nat) : Option String := rules.names[index]?

/-- The name of the attempted rule; `?` when the table has no such rule. -/
def nameOf (rules : Rules) (verdict : Verdict) : String := (rules.get? verdict.rule).getD "?"

end Rules

end ParseScope
