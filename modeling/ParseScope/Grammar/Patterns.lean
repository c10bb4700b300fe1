import ParseScope.Grammar.Definition

/-!
The patterns of a matcher that allows each of them 10 MiB: 32 bytes for every byte of the name, and
568 for what stands around it.
-/
namespace ParseScope.Grammar

/-- The greatest number of bytes in a name whose pattern compiles. -/
def longestName : Nat := (10 * 1024 * 1024 - 568) / 32

instance : Patterns where
  compiles rule := rule.utf8ByteSize ≤ longestName

end ParseScope.Grammar
