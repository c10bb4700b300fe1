import Mathlib.Data.String.Basic
import Mathlib.Tactic.SplitIfs

/-!
The order of texts. Texts compare as their UTF-8 forms do byte by byte: the first bytes in which two
characters differ stand in the order of the characters, whatever follows them.
-/
namespace ParseScope.Text

/-- The UTF-8 form of a text. Lists of bytes compare at the first byte in which they differ. -/
def bytesOf (text : String) : List UInt8 := text.toUTF8.data.toList

theorem bytesOf_eq (text : String) : bytesOf text = text.toList.flatMap String.utf8EncodeChar := by
  rw [bytesOf,String.toUTF8_eq_toByteArray,← String.utf8Encode_toList,List.utf8Encode,
    List.data_toByteArray]

/-- The smaller of two numbers has the smaller last digit, unless the digits before it decide. -/
theorem div_lt_or_mod_lt {m n : Nat} (less : m < n) (base : Nat) :
    m / base < n / base ∨ m / base = n / base ∧ m % base < n % base := by
  have whole := Nat.div_add_mod m base
  have whole' := Nat.div_add_mod n base
  rcases Nat.lt_or_eq_of_le (Nat.div_le_div_right (Nat.le_of_lt less)) with fewer | same
  · exact .inl fewer
  · rw [same] at whole
    exact .inr ⟨same,by omega⟩

theorem ofNat_cons_lt_iff (a b : Nat) (front rest : List UInt8) (isByte : a < 256)
    (isByte' : b < 256) :
    UInt8.ofNat a :: front < UInt8.ofNat b :: rest ↔ a < b ∨ a = b ∧ front < rest := by
  rw [List.cons_lt_cons_iff,UInt8.lt_iff_toNat_lt,← UInt8.toNat_inj,UInt8.toNat_ofNat',
    UInt8.toNat_ofNat',Nat.mod_eq_of_lt isByte,Nat.mod_eq_of_lt isByte']

theorem code_lt (c : Char) : c.val.toNat < 0x110000 := by
  have valid := c.valid
  simp only [UInt32.isValidChar,Nat.isValidChar] at valid
  omega

/-- The form of a smaller character comes first, and neither is the beginning of the other. -/
theorem utf8EncodeChar_lt (c d : Char) (less : c < d) (front rest : List UInt8) :
    String.utf8EncodeChar c ++ front < String.utf8EncodeChar d ++ rest := by
  have less : c.val.toNat < d.val.toNat := less
  have bound := code_lt d
  unfold String.utf8EncodeChar
  generalize c.val.toNat = m at *
  generalize d.val.toNat = n at *
  -- The bytes are digits to the base 64, the first byte apart, which also tells how many follow.
  have last := div_lt_or_mod_lt less 64
  have third (fewer : m / 64 < n / 64) := div_lt_or_mod_lt fewer 64
  have second (fewer : m / 64 / 64 < n / 64 / 64) := div_lt_or_mod_lt fewer 64
  simp only [Nat.div_div_eq_div_mul] at second third
  have first : m / 262144 % 8 = m / 262144 := Nat.mod_eq_of_lt (by omega)
  have first' : n / 262144 % 8 = n / 262144 := Nat.mod_eq_of_lt (by omega)
  dsimp only
  split_ifs
  all_goals simp (disch := omega) only [List.cons_append,List.nil_append,ofNat_cons_lt_iff]
  all_goals omega

theorem utf8_lt_of_lt {a b : List Char} (less : a < b) :
    a.flatMap String.utf8EncodeChar < b.flatMap String.utf8EncodeChar := by
  induction less with
  | @nil d rest =>
    have first : String.utf8EncodeChar d ≠ [] :=
      List.ne_nil_of_length_pos (by simpa using d.utf8Size_pos)
    obtain ⟨byte,more,split⟩ := List.exists_cons_of_ne_nil first
    rw [List.flatMap_nil,List.flatMap_cons,split,List.cons_append]
    exact .nil
  | rel less =>
    rw [List.flatMap_cons,List.flatMap_cons]
    exact utf8EncodeChar_lt _ _ less _ _
  | cons _ ih =>
    rw [List.flatMap_cons,List.flatMap_cons]
    exact List.append_left_lt ih

theorem bytesOf_lt_iff (a b : String) : bytesOf a < bytesOf b ↔ a < b := by
  have forward {a b : String} (less : a < b) : bytesOf a < bytesOf b := by
    rw [bytesOf_eq,bytesOf_eq]
    exact utf8_lt_of_lt (String.lt_iff_toList_lt.mp less)
  refine ⟨fun less => ?_,forward⟩
  rcases lt_trichotomy a b with before | rfl | behind
  · exact before
  · exact absurd less (List.lt_irrefl _)
  · exact absurd (forward behind) (List.lt_asymm less)

theorem bytesOf_le_iff (a b : String) : bytesOf a ≤ bytesOf b ↔ a ≤ b := by
  rw [← List.not_lt,bytesOf_lt_iff,not_lt]

end ParseScope.Text
