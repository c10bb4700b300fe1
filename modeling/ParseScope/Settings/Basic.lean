import ParseScope.Tree.Drawing

/-!
The settings and their defaults.
-/
namespace ParseScope

/-- How trees and logs are drawn, and under which names the sets of spans are kept. -/
structure Settings where
  treeStyle : Tree.Style := .connectors
  traceIndent : String := "  "
  /-- The error on the input. -/
  errorSet : String := "error"
  /-- The names of failed rules in the log. -/
  traceFailureSet : String := "trace-failures"
  /-- The places of a compile error on the grammar. -/
  grammarSet : String := "grammar-error"
  /-- The matches of rules on the input. -/
  ruleMatchSet : String := "rule-matches"
  /-- The definitions of rules on the grammar. -/
  ruleDefinitionSet : String := "rules"
  deriving DecidableEq, Repr

end ParseScope
