import ParseScope.Document.Reader
import ParseScope.Grammar.CompileError
import ParseScope.Json.Value

/-!
Compile errors as documents. Absent details are left out, and may be null when read.
-/
namespace ParseScope.Grammar.CompileError

open Document

/-- The members that are present. -/
def write (error : CompileError) : Json.Value :=
  let size (n : UInt64) : Json.Value := .integer n.toNat
  .object ([("type", .string error.kind), ("message", .string error.message)]
    ++ (error.line.map fun n => ("line", size n)).toList
    ++ (error.column.map fun n => ("column", size n)).toList
    ++ (error.faultRule.map fun rule => ("fault_rule", .string rule)).toList
    ++ (error.rule.map fun rule => ("rule", .string rule)).toList)

/-- The members read so far. -/
structure Draft where
  kind : Option String := none
  message : Option String := none
  line : Option (Option UInt64) := none
  column : Option (Option UInt64) := none
  faultRule : Option (Option String) := none
  rule : Option (Option String) := none

def Draft.finish (draft : Draft) : CompileError :=
  { kind := draft.kind.getD ""
    message := draft.message.getD ""
    line := draft.line.getD none
    column := draft.column.getD none
    faultRule := draft.faultRule.getD none
    rule := draft.rule.getD none }

def shape : Shape Draft where
  wanted := .compileError
  empty := {}
  members :=
    [ Member.of "type" true Draft.kind readString (fun value draft => { draft with kind := value }),
      Member.of "message" true Draft.message readString
        (fun value draft => { draft with message := value }),
      Member.of "line" false Draft.line (readOption readSize)
        (fun value draft => { draft with line := value }),
      Member.of "column" false Draft.column (readOption readSize)
        (fun value draft => { draft with column := value }),
      Member.of "fault_rule" false Draft.faultRule (readOption readString)
        (fun value draft => { draft with faultRule := value }),
      Member.of "rule" false Draft.rule (readOption readString)
        (fun value draft => { draft with rule := value }) ]

def read : Reader CompileError := fun levels value =>
  (shape.read levels value).map Draft.finish

end ParseScope.Grammar.CompileError
