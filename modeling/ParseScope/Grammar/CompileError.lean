import ParseScope.Grammar.Definition
import ParseScope.Text.Position

/-!
Errors of grammars that do not compile, and their diagnosis: a message, and the places in the
grammar's text that it speaks of.
-/
namespace ParseScope.Grammar

/-- What the compiler of grammars reports; lines and columns are counted from 1. -/
structure CompileError where
  kind : String
  message : String
  line : Option UInt64 := none
  column : Option UInt64 := none
  faultRule : Option String := none
  rule : Option String := none
  deriving DecidableEq, Repr

namespace CompileError

/-- The line and column, when both are known. -/
def position? (error : CompileError) : Option Text.Position :=
  match error.line, error.column with
  | some line, some column => some ⟨line.toNat, column.toNat⟩
  | _, _ => none

/-- The rule the error lies in; an empty name counts as none. -/
def ruleName? (error : CompileError) : Option String := error.rule.filter (!·.isEmpty)

/-- The message, with a further line for each detail that is known. -/
def text (error : CompileError) : String :=
  s!"{error.kind}: {error.message}"
    ++ (match error.faultRule with
      | some rule => s!"\n  while compiling rule '{rule}'"
      | none => "")
    ++ (match error.ruleName? with
      | some rule => s!"\n  in rule '{rule}'"
      | none => "")
    ++ (match error.position? with
      | some p => s!"\n  at line {p.line}, column {p.column}"
      | none => "")

end CompileError

/-- A compile error set against the grammar's text. -/
structure Diagnosis where
  message : String
  /-- The name of the rule at its first definition. -/
  ruleSpan : Option Span
  /-- The point of the reported line and column. -/
  position : Option Span
  deriving DecidableEq, Repr

/-- All places in the grammar, the rule's name first. -/
def Diagnosis.spans (diagnosis : Diagnosis) : List Span :=
  diagnosis.ruleSpan.toList ++ diagnosis.position.toList

def diagnose [Patterns] (grammar : String) (error : CompileError) : Diagnosis :=
  { message := error.text
    ruleSpan := error.ruleName?.bind (find? grammar)
    position := error.position?.map fun p => .single (Text.wrappedOffsetOf grammar.toList p) }

end ParseScope.Grammar
