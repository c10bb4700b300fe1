import Mathlib.Tactic.ByContra
import ParseScope.Text.Bytes

/-!
Byte indexes and character offsets. A byte index at which a character begins, or the text ends, has
as its offset the number of characters before it. Inside the form of a character, which is where the
UTF-8 form has no first byte, there is none.
-/
namespace ParseScope.Text

/-- Behind the first `offset` characters, which take `byte` bytes, `rest` is left of the text. -/
inductive Remains (text : List Char) : Nat → Nat → List Char → Prop
  | start : Remains text 0 0 text
  | next {offset byte : Nat} {c : Char} {rest : List Char}
      (remains : Remains text offset byte (c :: rest)) :
      Remains text (offset + 1) (byte + c.utf8Size) rest

/-- The byte index lies inside the form of a character: behind its first byte and before its end. -/
def Splits (text : List Char) (byte : Nat) : Prop :=
  ∃ front c rest, text = front ++ c :: rest ∧
    byteLength front < byte ∧ byte < byteLength front + c.utf8Size

theorem byteLength_append (front rest : List Char) :
    byteLength (front ++ rest) = byteLength front + byteLength rest := by
  induction front with
  | nil => exact (Nat.zero_add _).symm
  | cons c front ih => rw [List.cons_append,byteLength,byteLength,ih,Nat.add_assoc]

theorem byteLength_replicate (count : Nat) (c : Char) :
    byteLength (List.replicate count c) = count * c.utf8Size := by
  induction count with
  | zero => exact (Nat.zero_mul _).symm
  | succ count ih => rw [List.replicate_succ,byteLength,ih,Nat.succ_mul,Nat.add_comm]

theorem utf8ByteSize_ofList (text : List Char) :
    (String.ofList text).utf8ByteSize = byteLength text := by
  induction text with
  | nil => rfl
  | cons c text ih =>
    rw [← List.singleton_append,String.ofList_append,String.utf8ByteSize_append,ih]
    exact congrArg (· + byteLength text) String.utf8ByteSize_singleton

theorem utf8ByteSize_eq (text : String) : text.utf8ByteSize = byteLength text.toList := by
  rw [← utf8ByteSize_ofList,String.ofList_toList]

theorem Remains.append {text : List Char} {offset byte : Nat} {front rest : List Char}
    (remains : Remains text offset byte (front ++ rest)) :
    Remains text (offset + front.length) (byte + byteLength front) rest := by
  induction front generalizing offset byte with
  | nil => exact remains
  | cons c front ih =>
    have behind := ih remains.next
    rwa [Nat.add_assoc,Nat.add_comm 1,Nat.add_assoc byte] at behind

theorem remains_append (front rest : List Char) :
    Remains (front ++ rest) front.length (byteLength front) rest := by
  have remains : Remains (front ++ rest) (0 + front.length) (0 + byteLength front) rest :=
    Remains.start.append
  rwa [Nat.zero_add,Nat.zero_add] at remains

/-! ### Offsets -/

theorem offsetOfByte?_zero (text : List Char) : offsetOfByte? text 0 = some 0 := by
  cases text with
  | nil => rfl
  | cons c rest => rfl

theorem offsetOfByte?_cons (c : Char) (rest : List Char) (byte : Nat) :
    offsetOfByte? (c :: rest) (c.utf8Size + byte) = (offsetOfByte? rest byte).map (· + 1) := by
  obtain ⟨before,size⟩ := Nat.exists_eq_add_one_of_ne_zero (Nat.ne_of_gt c.utf8Size_pos)
  have index : c.utf8Size + byte = before + byte + 1 := by omega
  have behind : ¬ before + byte + 1 < c.utf8Size := by omega
  rw [index,offsetOfByte?,if_neg behind,← index,Nat.add_sub_cancel_left]

/-- What is left of a text is counted on from where it begins. -/
theorem Remains.offsetOfByte? {text rest : List Char} {offset byte : Nat}
    (remains : Remains text offset byte rest) (more : Nat) :
    Text.offsetOfByte? text (byte + more) = (Text.offsetOfByte? rest more).map (· + offset) := by
  induction remains generalizing more with
  | start =>
    rw [Nat.zero_add]
    exact Option.map_id'.symm
  | @next offset byte c rest _ ih =>
    rw [Nat.add_assoc,ih,offsetOfByte?_cons,Option.map_map]
    congr 1
    funext further
    exact Nat.add_right_comm further 1 offset

theorem Remains.offset {text rest : List Char} {offset byte : Nat}
    (remains : Remains text offset byte rest) : Text.offsetOfByte? text byte = some offset := by
  have here := remains.offsetOfByte? 0
  rwa [offsetOfByte?_zero,Option.map_some,Nat.zero_add] at here

theorem offsetOfByte?_past (text : List Char) (byte : Nat) (past : byteLength text ≤ byte) :
    offsetOfByte? text byte = some text.length := by
  obtain ⟨more,rfl⟩ := Nat.exists_eq_add_of_le past
  have remains := remains_append text []
  rw [List.append_nil] at remains
  rw [remains.offsetOfByte? more]
  cases more with
  | zero => rw [offsetOfByte?_zero,Option.map_some,Nat.zero_add]
  | succ more => rw [offsetOfByte?,Option.map_some,Nat.zero_add]

theorem offsetOfByte?_splits (text : List Char) (byte : Nat) (splits : Splits text byte) :
    offsetOfByte? text byte = none := by
  obtain ⟨front,c,rest,rfl,behind,before⟩ := splits
  obtain ⟨more,rfl⟩ := Nat.exists_eq_add_of_lt behind
  have inside : more + 1 < c.utf8Size := by omega
  rw [Nat.add_assoc,(remains_append front (c :: rest)).offsetOfByte?,offsetOfByte?,if_pos inside]
  rfl

/-- A byte index that is not past the text is at the beginning of a character, at the end or inside
a character. -/
theorem exists_front_or_splits (text : List Char) (byte : Nat) (inside : byte ≤ byteLength text) :
    (∃ front rest, text = front ++ rest ∧ byteLength front = byte) ∨ Splits text byte := by
  induction text generalizing byte with
  | nil => exact .inl ⟨[],[],rfl,(Nat.le_zero.mp inside).symm⟩
  | cons c text ih =>
    rcases Nat.lt_or_ge byte c.utf8Size with before | behind
    · rcases Nat.eq_zero_or_pos byte with rfl | positive
      · exact .inl ⟨[],c :: text,rfl,rfl⟩
      · exact .inr ⟨[],c,text,rfl,positive,by rwa [byteLength,Nat.zero_add]⟩
    · obtain ⟨more,rfl⟩ := Nat.exists_eq_add_of_le behind
      rcases ih more (Nat.le_of_add_le_add_left inside) with ⟨front,rest,rfl,rfl⟩ | splits
      · exact .inl ⟨c :: front,rest,rfl,rfl⟩
      · obtain ⟨front,d,rest,rfl,after,before⟩ := splits
        refine .inr ⟨c :: front,d,rest,rfl,Nat.add_lt_add_left after _,?_⟩
        rw [byteLength,Nat.add_assoc]
        exact Nat.add_lt_add_left before _

theorem offsetOfByte?_eq_none_iff (text : List Char) (byte : Nat) :
    offsetOfByte? text byte = none ↔ Splits text byte := by
  refine ⟨fun none => ?_,offsetOfByte?_splits text byte⟩
  rcases Nat.le_total byte (byteLength text) with inside | past
  · rcases exists_front_or_splits text byte inside with ⟨front,rest,rfl,rfl⟩ | splits
    · rw [(remains_append front rest).offset] at none
      exact absurd none (Option.some_ne_none _)
    · exact splits
  · rw [offsetOfByte?_past text byte past] at none
    exact absurd none (Option.some_ne_none _)

theorem Splits.lt {text : List Char} {byte : Nat} (splits : Splits text byte) :
    byte < byteLength text := by
  obtain ⟨front,c,rest,rfl,_,before⟩ := splits
  rw [byteLength_append,byteLength]
  omega

/-! ### Boundaries -/

theorem isValid_iff (text : String) (byte : Nat) : String.Pos.Raw.IsValid text ⟨byte⟩ ↔
    ∃ front rest, text.toList = front ++ rest ∧ byteLength front = byte := by
  rw [String.Pos.Raw.isValid_iff_exists_append]
  constructor
  · rintro ⟨front,rest,rfl,index⟩
    refine ⟨front.toList,rest.toList,String.toList_append,?_⟩
    rw [← utf8ByteSize_eq,← String.byteIdx_rawEndPos,← index]
  · rintro ⟨front,rest,split,rfl⟩
    refine ⟨String.ofList front,String.ofList rest,?_,?_⟩
    · rw [← String.ofList_append,← split,String.ofList_toList]
    · rw [String.Pos.Raw.ext_iff,String.byteIdx_rawEndPos,utf8ByteSize_ofList]

theorem isValid_iff_not_splits (text : String) (byte : Nat) (inside : byte ≤ text.utf8ByteSize) :
    String.Pos.Raw.IsValid text ⟨byte⟩ ↔ ¬ Splits text.toList byte := by
  rw [utf8ByteSize_eq] at inside
  rw [isValid_iff]
  constructor
  · rintro ⟨front,rest,split,rfl⟩
    rw [← offsetOfByte?_eq_none_iff,split,(remains_append front rest).offset]
    exact Option.some_ne_none _
  · exact (exists_front_or_splits text.toList byte inside).resolve_right

/-- Inside a character the form has a byte that is not the first of any. -/
theorem splits_iff_getUTF8Byte (text : String) (byte : Nat) : Splits text.toList byte ↔
    ∃ inside : (⟨byte⟩ : String.Pos.Raw) < text.rawEndPos,
      ¬ (text.getUTF8Byte ⟨byte⟩ inside).IsUTF8FirstByte := by
  constructor
  · intro splits
    have less := splits.lt
    rw [← utf8ByteSize_eq] at less
    refine ⟨less,fun first => ?_⟩
    have valid := String.Pos.Raw.isValid_iff_isUTF8FirstByte.mpr (.inr ⟨less,first⟩)
    exact (isValid_iff_not_splits text byte (Nat.le_of_lt less)).mp valid splits
  · rintro ⟨inside,notFirst⟩
    have less : byte < text.utf8ByteSize := inside
    by_contra whole
    have valid := (isValid_iff_not_splits text byte (Nat.le_of_lt less)).mpr whole
    rcases String.Pos.Raw.isValid_iff_isUTF8FirstByte.mp valid with atEnd | ⟨_,first⟩
    · rw [atEnd] at inside
      exact absurd inside (Nat.lt_irrefl _)
    · exact notFirst first

/-- Later boundaries have greater offsets. -/
theorem offsetOfByte?_ascends (text : String) (first second : Nat)
    (firstValid : String.Pos.Raw.IsValid text ⟨first⟩)
    (secondValid : String.Pos.Raw.IsValid text ⟨second⟩) (less : first < second) :
    ∃ m n, offsetOfByte? text.toList first = some m ∧ offsetOfByte? text.toList second = some n ∧
      m < n := by
  obtain ⟨front,rest,split,rfl⟩ := (isValid_iff text first).mp firstValid
  obtain ⟨other,more,otherSplit,rfl⟩ := (isValid_iff text second).mp secondValid
  have offset := (remains_append front rest).offset
  have otherOffset := (remains_append other more).offset
  rw [← split] at offset
  rw [← otherSplit] at otherOffset
  refine ⟨front.length,other.length,offset,otherOffset,Nat.lt_of_not_le fun shorter => ?_⟩
  obtain ⟨between,rfl⟩ := List.prefix_of_prefix_length_le
    ⟨more,otherSplit.symm⟩ ⟨rest,split.symm⟩ shorter
  rw [byteLength_append] at less
  omega

end ParseScope.Text
