import ParseScope.Attempt.Basic
import ParseScope.Location
import ParseScope.Settings.Basic
import ParseScope.Trace.Log
import ParseScope.Trace.Survivors
import ParseScope.Trace.Wire

/-!
The report on an attempt: its outcome, where the grammar defines its rules, and which rules matched
where in the input.
-/
namespace ParseScope

/-- What an attempt amounts to. -/
inductive Outcome
  | compileFailed (diagnosis : Grammar.Diagnosis)
  | parsed (tree : String)
  /-- The parse failed, or stopped early with a tree all the same. -/
  | parseFailed (tree : Option String) (location : Option Location) (log : Trace.Log)
  deriving DecidableEq, Repr

namespace Outcome

/-- The text to show: the message, the tree, or the log when there is no tree. -/
def text : Outcome → String
  | compileFailed diagnosis => diagnosis.message
  | parsed tree => tree
  | parseFailed (some tree) _ _ => tree
  | parseFailed none _ log => log.text

/-- The error on the input, if one was located. -/
def located? : Outcome → Option Span
  | parseFailed _ (some location) _ => some location.span
  | _ => none

/-- The spans on the grammar. -/
def grammarSpans : Outcome → List Span
  | compileFailed diagnosis => diagnosis.spans
  | _ => []

/-- The spans on the rendering: the failed rules, when it is the log. -/
def outputSpans : Outcome → List Span
  | parseFailed none _ log => log.failed
  | _ => []

end Outcome

structure Report where
  outcome : Outcome
  definitions : List Labelled
  matched : List Labelled
  deriving DecidableEq, Repr

namespace Trace

/-- Outer matches come before the inner ones that start at the same place. -/
def startsFirst (a b : Record) : Bool :=
  a.start < b.start || (a.start = b.start && a.depth ≤ b.depth)

/-- What a record covers of the input, labelled with its rule. -/
def labelled (rules : Rules) (record : Record) : Labelled :=
  ⟨⟨record.start, record.stop - 1⟩, rules.nameOf record.verdict⟩

/-- The matches of the final parse that consumed input, by start and then by depth. -/
def matched (trace : Trace) (rules : Rules) : List Labelled :=
  ((trace.survivors.filter fun record => !record.isEmpty).mergeSort startsFirst).map
    (labelled rules)

end Trace

namespace Attempt

/-- The outcome of a parse without a tree. -/
def failure (attempt : Attempt) (settings : Settings) (trace : Trace) : Outcome :=
  .parseFailed none (Location.ofTrace? trace attempt.input.toList)
    (trace.log attempt.input attempt.rules settings.traceIndent)

/-- The outcome of a parse with a tree: failures on the way are no error, but input after the match
is. -/
def success (attempt : Attempt) (settings : Settings) (trace : Trace) (tree : Tree) : Outcome :=
  let drawing := tree.draw settings.treeStyle
  match Location.ofTrailing? trace attempt.input.toList with
  | none => .parsed drawing
  | some location =>
    .parseFailed (some drawing) (some location)
      (trace.log attempt.input attempt.rules settings.traceIndent)

/-- The report on an attempt; a trace that breaks its wire form is an error, unless the grammar did
not compile. -/
def report [Grammar.Patterns] (attempt : Attempt) (settings : Settings) :
    Except Trace.WireError Report :=
  let definitions := Grammar.definitions attempt.grammar
  match attempt.compileError with
  | some error =>
    .ok ⟨.compileFailed (Grammar.diagnose attempt.grammar error), definitions, []⟩
  | none => do
    let trace ← Trace.ofWire attempt.trace attempt.rules
    match attempt.tree with
    | none => return ⟨attempt.failure settings trace, definitions, []⟩
    | some tree =>
      return ⟨attempt.success settings trace tree, definitions, trace.matched attempt.rules⟩

end Attempt

end ParseScope
