import ParseScope.Grammar.CompileError
import ParseScope.Trace.Basic
import ParseScope.Tree.Basic

/-!
What an engine hands over for one attempt to parse an input.
-/
namespace ParseScope

structure Attempt where
  grammar : String := ""
  input : String := ""
  /-- The names of the grammar's rules, by index. -/
  rules : Rules := ⟨[]⟩
  /-- The trace in its wire form. -/
  trace : List Int64 := []
  /-- The tree, when the parse gave one. -/
  tree : Option Tree := none
  /-- The error, when the grammar did not compile. -/
  compileError : Option Grammar.CompileError := none

end ParseScope
