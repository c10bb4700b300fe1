import ParseScope.Span
import ParseScope.Text.Basic
import ParseScope.Trace.Basic

/-!
The log of a trace: a line for each record, indented by its depth, and a line for input that was
skipped between two records. `Log.spans` marks the names of the failed rules in the text.
-/
namespace ParseScope.Trace

/-- A line of the log with the input it shows. -/
inductive LogLine
  | gap (depth : Nat) (skipped : List Char)
  | attempt (depth : Nat) (failed : Bool) (name : String) (matched : List Char)
  deriving DecidableEq, Repr

def LogLine.depth : LogLine → Nat
  | gap depth _ => depth
  | attempt depth _ _ _ => depth

/-- The name that the line opens with; none on a gap line. -/
def LogLine.name : LogLine → List Char
  | gap _ _ => []
  | attempt _ _ name _ => name.toList

/-- What follows the indentation and the name. -/
def LogLine.tail : LogLine → List Char
  | gap _ skipped => '"' :: Text.oneLine skipped ++ ['"', '\n']
  | attempt _ _ _ matched => ' ' :: '"' :: Text.oneLine matched ++ ['"', '\n']

def LogLine.render (indent : List Char) (line : LogLine) : List Char :=
  Text.repeated line.depth indent ++ line.name ++ line.tail

def LogLine.isFailure : LogLine → Bool
  | gap _ _ => false
  | attempt _ failed _ _ => failed

/-- The line of a record. -/
def LogLine.ofRecord (input : List Char) (rules : Rules) (record : Record) : LogLine :=
  .attempt record.depth record.isFailure (rules.nameOf record.verdict)
    (Text.slice input record.start record.stop)

/-- The lines of a trace that follows the record `previous`. -/
def logLinesAfter (input : List Char) (rules : Rules) : Record → Trace → List LogLine
  | _, [] => []
  | previous, record :: rest =>
    let line := LogLine.ofRecord input rules record
    let more := logLinesAfter input rules record rest
    if previous.stop < record.start then
      .gap previous.depth (Text.slice input previous.stop record.start) :: line :: more
    else line :: more

/-- The lines of a whole trace; input before the first record is not shown. -/
def logLines (input : List Char) (rules : Rules) : Trace → List LogLine
  | [] => []
  | record :: rest => LogLine.ofRecord input rules record :: logLinesAfter input rules record rest

/-- The span of a failed rule's name on a line that begins at `offset`; an empty name has none. -/
def LogLine.span? (indent : List Char) (offset : Nat) (line : LogLine) : Option Span :=
  if line.isFailure && !line.name.isEmpty then
    let first := offset + (Text.repeated line.depth indent).length
    some ⟨first, first + line.name.length - 1⟩
  else none

/-- The spans of the failed rules' names on lines that begin at `offset`. -/
def logSpans (indent : List Char) : Nat → List LogLine → List Span
  | _, [] => []
  | offset, line :: rest =>
    (line.span? indent offset).toList ++ logSpans indent (offset + (line.render indent).length) rest

/-- A rendered log, with the spans of the failed rules' names in its text. -/
structure Log where
  text : String
  failed : List Span
  deriving DecidableEq, Repr

/-- Renders the log of a trace, with `indent` once for each level of depth. -/
def log (input : String) (rules : Rules) (indent : String) (trace : Trace) : Log :=
  let lines := logLines input.toList rules trace
  { text := String.ofList (lines.flatMap (·.render indent.toList))
    failed := logSpans indent.toList 0 lines }

end ParseScope.Trace
