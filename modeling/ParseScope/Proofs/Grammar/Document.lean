import ParseScope.Document.CompileError
import ParseScope.Proofs.Document.Record

/-!
Compile errors as documents: whatever details are known, the written error is read back.
-/
namespace ParseScope.Grammar.CompileError

open Document
open Json (Value)

/-- What holds of written texts and sizes holds of every member. -/
theorem forall_members_write (error : CompileError) (holds : Value → Prop)
    (ofString : ∀ text, holds (.string text)) (ofSize : ∀ n : UInt64, holds (.integer n.toNat)) :
    ∃ members, error.write = .object members ∧ ∀ member ∈ members, holds member.2 := by
  refine ⟨_,rfl,?_⟩
  intro member inside
  simp only [List.mem_append,List.mem_cons,List.not_mem_nil,or_false,Option.mem_toList,
    Option.map_eq_some_iff] at inside
  rcases inside with ((((rfl | rfl) | ⟨n,_,rfl⟩) | ⟨n,_,rfl⟩) | ⟨rule,_,rfl⟩) | ⟨rule,_,rfl⟩
  · exact ofString error.kind
  · exact ofString error.message
  · exact ofSize n
  · exact ofSize n
  · exact ofString rule
  · exact ofString rule

theorem hasWords_write (error : CompileError) : error.write.HasWords := by
  obtain ⟨members,same,words⟩ := error.forall_members_write Value.HasWords (fun _ => trivial)
    fun n => isWord_toNat n
  rw [same,Value.HasWords]
  exact (Value.membersHaveWords_iff members).mpr words

theorem depth_write_le (error : CompileError) : error.write.outline.depth ≤ 1 := by
  obtain ⟨members,same,flat⟩ := error.forall_members_write (·.outline.depth ≤ 0)
    (fun _ => Nat.le_refl 0) fun _ => Nat.le_refl 0
  rw [same,Value.outline,Json.Outline.depth]
  exact Nat.succ_le_succ ((Value.depth_outlineMembers_le_iff members 0).mpr flat)

/-- A written compile error is read back where one more container may be opened. -/
theorem read_write (error : CompileError) (levels : Nat) (opens : levels ≠ 0) :
    read levels error.write.outline = .ok error := by
  have kind : shape.find? "type" = some (.of "type" true Draft.kind readString _) := rfl
  have message : shape.find? "message" = some (.of "message" true Draft.message readString _) := rfl
  have line : shape.find? "line" = some (.of "line" false Draft.line (readOption readSize) _) := rfl
  have column : shape.find? "column" =
    some (.of "column" false Draft.column (readOption readSize) _) := rfl
  have faultRule : shape.find? "fault_rule" =
    some (.of "fault_rule" false Draft.faultRule (readOption readString) _) := rfl
  have rule : shape.find? "rule" =
    some (.of "rule" false Draft.rule (readOption readString) _) := rfl
  let size (n : UInt64) : Value := .integer n.toNat
  rw [read,write,Value.outline,Shape.read,if_neg opens]
  simp only [List.append_assoc,List.cons_append,List.nil_append]
  rw [Shape.readMembers_written kind _ _ rfl _ error.kind rfl,
    Shape.readMembers_written message _ _ rfl _ error.message rfl,
    Shape.readMembers_optional line _ _ rfl rfl size nofun error.line
      fun n _ => readSize_write _ n,
    Shape.readMembers_optional column _ _ rfl rfl size nofun error.column
      fun n _ => readSize_write _ n,
    Shape.readMembers_optional faultRule _ _ rfl rfl .string nofun error.faultRule fun _ _ => rfl,
    ← List.append_nil ((error.rule.map fun rule => ("rule",Value.string rule)).toList),
    Shape.readMembers_optional rule _ _ rfl rfl .string nofun error.rule fun _ _ => rfl]
  -- All members are read, and none that is required is missing.
  change Except.ok (Draft.finish _) = .ok error
  simp only [Draft.finish,Option.getD_some,getD_map_some]

end ParseScope.Grammar.CompileError
