import ParseScope.Attempt.Load
import ParseScope.Proofs.Grammar.Document
import ParseScope.Proofs.Tree.Document

/-!
Attempts as documents. Only a tree nests deeper than a few levels, so a written attempt is read back
unless its tree nests too deep.
-/
namespace ParseScope.Attempt

open Document
open Json (Value)

/-! ### Written attempts -/

/-- What holds of the written texts, numbers, trees and errors holds of every member. -/
theorem forall_members_write (attempt : Attempt) (holds : Value → Prop)
    (ofString : ∀ text, holds (.string text))
    (ofRules : holds (.list (attempt.rules.names.map .string)))
    (ofTrace : holds (.list (attempt.trace.map fun n => .integer n.toInt)))
    (ofTree : ∀ tree ∈ attempt.tree, holds tree.write)
    (ofError : ∀ error ∈ attempt.compileError, holds error.write) :
    ∃ members, attempt.write = .object members ∧ ∀ member ∈ members, holds member.2 := by
  refine ⟨_,rfl,?_⟩
  intro member inside
  simp only [List.mem_append,List.mem_cons,List.not_mem_nil,or_false,Option.mem_toList,
    Option.map_eq_some_iff] at inside
  rcases inside with ((rfl | rfl | rfl | rfl) | ⟨tree,is,rfl⟩) | ⟨error,is,rfl⟩
  · exact ofString attempt.grammar
  · exact ofString attempt.input
  · exact ofRules
  · exact ofTrace
  · exact ofTree tree is
  · exact ofError error is

theorem hasWords_write (attempt : Attempt) : attempt.write.HasWords := by
  obtain ⟨members,same,words⟩ := attempt.forall_members_write Value.HasWords (fun _ => trivial)
    (Value.hasWords_list .string (fun _ => trivial) attempt.rules.names)
    (Value.hasWords_list _ isWord_toInt attempt.trace) (fun tree _ => tree.hasWords_write)
    fun error _ => error.hasWords_write
  rw [same,Value.HasWords]
  exact (Value.membersHaveWords_iff members).mpr words

/-- Its tree decides how deep an attempt nests; all else nests two levels at most. -/
theorem depth_write_le_iff (attempt : Attempt) (levels : Nat) (opens : 2 ≤ levels) :
    attempt.write.outline.depth ≤ levels ↔
      ∀ tree ∈ attempt.tree, tree.write.outline.depth ≤ levels - 1 := by
  constructor
  · intro shallow tree is
    rw [write,Value.outline,Json.Outline.depth] at shallow
    have inside := (Value.depth_outlineMembers_le_iff _ (levels - 1)).mp
      (Nat.le_sub_one_of_lt shallow)
    exact inside ("tree",tree.write) (by simp [Option.mem_def.mp is])
  · intro shallow
    have flat (value : Value) (low : value.outline.depth ≤ 1) :
        value.outline.depth ≤ levels - 1 := by omega
    obtain ⟨members,same,each⟩ := attempt.forall_members_write (·.outline.depth ≤ levels - 1)
      (fun _ => Nat.zero_le _) (flat _ (Value.depth_list_le .string (fun _ => rfl) _))
      (flat _ (Value.depth_list_le (fun n : Int64 => .integer n.toInt) (fun _ => rfl) _)) shallow
      fun error _ => flat _ error.depth_write_le
    have inside := (Value.depth_outlineMembers_le_iff members (levels - 1)).mpr each
    rw [same,Value.outline,Json.Outline.depth]
    omega

/-! ### Reading -/

/-- Members are read up to the tree, whatever it is. -/
theorem read_write_eq (attempt : Attempt) (levels : Nat) (opens : 2 ≤ levels) :
    read levels attempt.write.outline =
      (shape.readMembers (levels - 1)
        { grammar := some attempt.grammar
          input := some attempt.input
          rules := some attempt.rules.names
          trace := some attempt.trace }
        (Value.outlineMembers
          ((attempt.tree.map fun tree => ("tree",tree.write)).toList ++
            (attempt.compileError.map fun error => ("compile_error",error.write)).toList))).map
        Draft.finish := by
  have grammar : shape.find? "grammar" =
    some (.of "grammar" false Draft.grammar readString _) := rfl
  have input : shape.find? "input" = some (.of "input" false Draft.input readString _) := rfl
  have rules : shape.find? "rules" =
    some (.of "rules" false Draft.rules (readList readString) _) := rfl
  have trace : shape.find? "trace" =
    some (.of "trace" false Draft.trace (readList readInt64) _) := rfl
  have names := readList_write readString .string (levels - 1) (by omega) attempt.rules.names
    fun _ _ => rfl
  have numbers := readList_write readInt64 (fun n => .integer n.toInt) (levels - 1) (by omega)
    attempt.trace fun n _ => readInt64_write _ n
  rw [read,write,Value.outline,Shape.read,if_neg (by omega)]
  simp only [List.cons_append,List.nil_append]
  rw [Shape.readMembers_written grammar _ _ rfl _ attempt.grammar rfl,
    Shape.readMembers_written input _ _ rfl _ attempt.input rfl,
    Shape.readMembers_written rules _ _ rfl _ attempt.rules.names names,
    Shape.readMembers_written trace _ _ rfl _ attempt.trace numbers]
  rfl

/-- All members are read back but a tree that nests too deep, and that is the only fault. -/
theorem read_write (attempt : Attempt) (levels : Nat) (opens : 2 ≤ levels) :
    read levels attempt.write.outline =
      if attempt.write.outline.depth ≤ levels then .ok attempt else .error (.fault .tooDeep) := by
  have tree : shape.find? "tree" =
    some (.of "tree" false Draft.tree (readOption Tree.read) _) := rfl
  have compileError : shape.find? "compile_error" =
    some (.of "compile_error" false Draft.compileError (readOption Grammar.CompileError.read) _) :=
    rfl
  rw [read_write_eq attempt levels opens]
  split
  next shallow =>
    have trees := (attempt.depth_write_le_iff levels opens).mp shallow
    rw [Shape.readMembers_optional tree _ _ rfl rfl Tree.write Tree.write_ne_null attempt.tree
        fun tree is => (tree.read_write (levels - 1)).trans (if_pos (trees tree is)),
      ← List.append_nil (Option.toList _),
      Shape.readMembers_optional compileError _ _ rfl rfl Grammar.CompileError.write nofun
        attempt.compileError fun error _ => error.read_write (levels - 1) (by omega)]
    change Except.ok (Draft.finish _) = .ok attempt
    simp only [Draft.finish,Option.getD_some,getD_map_some]
  next deep =>
    -- The members before the tree are read, and its fault is the first.
    obtain ⟨deepTree,is,nested⟩ : ∃ deepTree ∈ attempt.tree,
        ¬deepTree.write.outline.depth ≤ levels - 1 := by
      simpa using mt (attempt.depth_write_le_iff levels opens).mpr deep
    rw [Option.mem_def.mp is,Option.map_some,Option.toList_some,List.singleton_append,
      Shape.readMembers_slot tree _ _ rfl,readOption_write _ _ _ deepTree.write_ne_null,
      deepTree.read_write,if_neg nested]
    rfl

/-- Attempts are read back from their documents, unless these nest too deep. -/
theorem parse_render (attempt : Attempt) :
    ∃ value, Json.Holds attempt.write.render value ∧
      parse attempt.write.render =
        if value.depth ≤ maxLevels then .ok attempt
        else .error (.malformed (.fault .tooDeep)) := by
  have holds := Json.holds_render attempt.write attempt.hasWords_write
  refine ⟨attempt.write.outline,holds,?_⟩
  rw [parse,ofText,readDocument_of_holds read _ _ holds,
    attempt.read_write maxLevels (by decide)]
  split
  · rfl
  · rfl

end ParseScope.Attempt
