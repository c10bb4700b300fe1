import ParseScope.Attempt.Basic
import ParseScope.Document.CompileError
import ParseScope.Document.Tree

/-!
Attempts as documents. Every member may be absent, and a tree and a compile error may be null.
-/
namespace ParseScope.Attempt

open Document

/-- The members in their order; an absent tree or compile error is left out. -/
def write (attempt : Attempt) : Json.Value :=
  .object ([("grammar", .string attempt.grammar), ("input", .string attempt.input),
      ("rules", .list (attempt.rules.names.map .string)),
      ("trace", .list (attempt.trace.map fun n => .integer n.toInt))]
    ++ (attempt.tree.map fun tree => ("tree", tree.write)).toList
    ++ (attempt.compileError.map fun error => ("compile_error", error.write)).toList)

/-- The members read so far. -/
structure Draft where
  grammar : Option String := none
  input : Option String := none
  rules : Option (List String) := none
  trace : Option (List Int64) := none
  tree : Option (Option Tree) := none
  compileError : Option (Option Grammar.CompileError) := none

def Draft.finish (draft : Draft) : Attempt :=
  { grammar := draft.grammar.getD ""
    input := draft.input.getD ""
    rules := ⟨draft.rules.getD []⟩
    trace := draft.trace.getD []
    tree := draft.tree.getD none
    compileError := draft.compileError.getD none }

def shape : Shape Draft where
  wanted := .attempt
  empty := {}
  members :=
    [ Member.of "grammar" false Draft.grammar readString
        (fun value draft => { draft with grammar := value }),
      Member.of "input" false Draft.input readString
        (fun value draft => { draft with input := value }),
      Member.of "rules" false Draft.rules (readList readString)
        (fun value draft => { draft with rules := value }),
      Member.of "trace" false Draft.trace (readList readInt64)
        (fun value draft => { draft with trace := value }),
      Member.of "tree" false Draft.tree (readOption Tree.read)
        (fun value draft => { draft with tree := value }),
      Member.of "compile_error" false Draft.compileError
        (readOption Grammar.CompileError.read)
        (fun value draft => { draft with compileError := value }) ]

def read : Reader Attempt := fun levels value => (shape.read levels value).map Draft.finish

/-- The attempt that a text holds. -/
def ofText (text : String) : Except ReadError Attempt := readDocument read text

end ParseScope.Attempt
