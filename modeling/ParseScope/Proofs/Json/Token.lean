import Mathlib.Algebra.Group.Int.Defs
import Mathlib.Algebra.Group.Nat.Defs
import ParseScope.Json.Token
import ParseScope.Json.Value

/-!
The tokens of written scalars. A string literal is read back whatever follows it; a number needs an
end, since more digits would change it.
-/
namespace ParseScope.Json

theorem tokens_of_scanToken (c : Char) (rest : List Char) (token : Token) (more : List Char)
    (visible : isSpace c = false) (scanned : scanToken c rest = (token,some more)) :
    tokens (c :: rest) = token :: tokens more := by
  rw [tokens,visible]
  simp only [Bool.false_eq_true,if_false]
  split
  · next single => simp [scanned] at single
  · next token' more' found =>
    obtain ⟨rfl,same⟩ := Prod.mk.inj (scanned.symm.trans found)
    obtain rfl := Option.some.inj same
    rfl

@[simp] theorem tokens_nil : tokens [] = [] := by rw [tokens]

@[simp] theorem tokens_openList (rest : List Char) : tokens ('[' :: rest) = .openList :: tokens rest :=
  tokens_of_scanToken '[' rest _ _ rfl rfl

@[simp] theorem tokens_closeList (rest : List Char) :
    tokens (']' :: rest) = .closeList :: tokens rest :=
  tokens_of_scanToken ']' rest _ _ rfl rfl

@[simp] theorem tokens_openObject (rest : List Char) :
    tokens ('\x7b' :: rest) = .openObject :: tokens rest :=
  tokens_of_scanToken '\x7b' rest _ _ rfl rfl

@[simp] theorem tokens_closeObject (rest : List Char) :
    tokens ('\x7d' :: rest) = .closeObject :: tokens rest :=
  tokens_of_scanToken '\x7d' rest _ _ rfl rfl

@[simp] theorem tokens_comma (rest : List Char) : tokens (',' :: rest) = .comma :: tokens rest :=
  tokens_of_scanToken ',' rest _ _ rfl rfl

@[simp] theorem tokens_colon (rest : List Char) : tokens (':' :: rest) = .colon :: tokens rest :=
  tokens_of_scanToken ':' rest _ _ rfl rfl

/-! ### String literals -/

theorem natOfHex?_control (code : Nat) (control : code < 0x20) :
    Text.natOfHex? ['0','0',Nat.digitChar (code / 16),Nat.digitChar (code % 16)] = some code := by
  have all : ∀ code : Fin 0x20, Text.natOfHex?
      ['0','0',Nat.digitChar (code.val / 16),Nat.digitChar (code.val % 16)] = some code.val := by
    decide
  exact all ⟨code,control⟩

/-- A unit stands for a character when it adds just that to a text. -/
def LiteralUnit.StandsFor (unit : LiteralUnit) (c : Char) : Prop :=
  ∀ ending units, decodeUnits ending (unit :: units) = (decodeUnits ending units).map (c :: ·)

theorem LiteralUnit.char_standsFor (c : Char) : (char c).StandsFor c := fun _ _ => rfl

theorem LiteralUnit.hex_standsFor (c : Char) (control : c.toNat < 0x20) :
    (hex c.toNat).StandsFor c := by
  intro ending units
  have noTrailing : isTrailingSurrogate c.toNat = false := by
    simp only [isTrailingSurrogate,Bool.and_eq_false_iff,decide_eq_false_iff_not]
    omega
  have noLeading : isLeadingSurrogate c.toNat = false := by
    simp only [isLeadingSurrogate,Bool.and_eq_false_iff,decide_eq_false_iff_not]
    omega
  rw [decodeUnits.eq_def]
  simp [noTrailing,noLeading]

/-- A written character is read as a unit that stands for it. -/
theorem scan_escapeChar (c : Char) (rest : List Char) : ∃ unit : LiteralUnit, unit.StandsFor c ∧
    Literal.scan (Value.escapeChar c ++ rest) = (Literal.scan rest).push unit := by
  by_cases quote : c = '"'
  · exact ⟨.char c,LiteralUnit.char_standsFor c,by subst quote; rfl⟩
  by_cases backslash : c = '\\'
  · exact ⟨.char c,LiteralUnit.char_standsFor c,by subst backslash; rfl⟩
  by_cases lineFeed : c = '\n'
  · exact ⟨.char c,LiteralUnit.char_standsFor c,by subst lineFeed; rfl⟩
  by_cases carriageReturn : c = '\r'
  · exact ⟨.char c,LiteralUnit.char_standsFor c,by subst carriageReturn; rfl⟩
  by_cases tab : c = '\t'
  · exact ⟨.char c,LiteralUnit.char_standsFor c,by subst tab; rfl⟩
  by_cases backspace : c = '\x08'
  · exact ⟨.char c,LiteralUnit.char_standsFor c,by subst backspace; rfl⟩
  by_cases formFeed : c = '\x0c'
  · exact ⟨.char c,LiteralUnit.char_standsFor c,by subst formFeed; rfl⟩
  by_cases control : c.toNat < 0x20
  · refine ⟨.hex c.toNat,LiteralUnit.hex_standsFor c control,?_⟩
    simp [Value.escapeChar,quote,backslash,lineFeed,carriageReturn,tab,backspace,formFeed,control,
      Literal.scan,natOfHex?_control c.toNat control]
  · refine ⟨.char c,LiteralUnit.char_standsFor c,?_⟩
    simp [Value.escapeChar,quote,backslash,lineFeed,carriageReturn,tab,backspace,formFeed,control,
      Literal.scan]

/-- A written literal is read up to its closing quote, and its units are the text. -/
theorem scan_literal (text rest : List Char) : ∃ units,
    Literal.scan (text.flatMap Value.escapeChar ++ '"' :: rest) = ⟨units,.closed,rest⟩ ∧
      decodeUnits .closed units = .ok text := by
  induction text with
  | nil => exact ⟨[],rfl,rfl⟩
  | cons c text ih =>
    obtain ⟨units,scanned,decoded⟩ := ih
    obtain ⟨unit,stands,first⟩ := scan_escapeChar c (text.flatMap Value.escapeChar ++ '"' :: rest)
    refine ⟨unit :: units,?_,?_⟩
    · rw [List.flatMap_cons,List.append_assoc,first,scanned]
      rfl
    · rw [stands,decoded]
      rfl

theorem tokens_literal (text : String) (rest : List Char) :
    tokens (Value.literal text ++ rest) = .string ⟨.ok text,none⟩ :: tokens rest := by
  obtain ⟨units,scanned,decoded⟩ := scan_literal text.toList rest
  have scannedToken : scanToken '"' (text.toList.flatMap Value.escapeChar ++ '"' :: rest) =
      (.string ⟨.ok text,none⟩,some rest) := by
    simp [scanToken,stringToken,scanned,LiteralEnd.fault?,Literal.text,decoded,Except.map]
  simpa [Value.literal] using tokens_of_scanToken '"' _ _ _ rfl scannedToken

/-! ### Words and numbers -/

theorem tokens_null (rest : List Char) :
    tokens (Value.nullText ++ rest) = .scalar ⟨.ok .null,none⟩ :: tokens rest :=
  tokens_of_scanToken 'n' _ _ _ rfl rfl

theorem tokens_bool (value : Bool) (rest : List Char) :
    tokens (Value.boolText value ++ rest) = .scalar ⟨.ok (.bool value),none⟩ :: tokens rest := by
  cases value with
  | false => exact tokens_of_scanToken 'f' _ _ _ rfl rfl
  | true => exact tokens_of_scanToken 't' _ _ _ rfl rfl

/-- What may follow a value: the end of the text, or a comma or bracket. -/
inductive Ends : List Char → Prop
  | atEnd : Ends []
  | comma (more : List Char) : Ends (',' :: more)
  | closeList (more : List Char) : Ends (']' :: more)
  | closeObject (more : List Char) : Ends ('\x7d' :: more)

theorem head?_decimal (n : Nat) (positive : 0 < n) : (Text.decimal n).head? ≠ some '0' := by
  induction n using Nat.strongRecOn with
  | _ n ih =>
    by_cases single : n < 10
    · have all : ∀ digit : Fin 10, 0 < digit.val → Nat.digitChar digit.val ≠ '0' := by decide
      rw [Text.decimal,Nat.toDigits_of_lt_base single]
      simpa using all ⟨n,single⟩ positive
    · have shorter := ih (n / 10) (by omega) (by omega)
      rw [Text.decimal,Nat.toDigits_of_base_le (by decide) (by omega),
        List.head?_append,Option.or_of_isSome (List.isSome_head?.mpr Nat.toDigits_ne_nil)]
      exact shorter

/-- No digit follows. -/
theorem Ends.takeWhile_isDigit {rest : List Char} (ends : Ends rest) :
    rest.takeWhile Char.isDigit = [] := by
  cases ends <;> rfl

/-- Neither a fraction nor an exponent follows. -/
theorem Ends.fraction? {rest : List Char} (ends : Ends rest) (numeral : Numeral) :
    fraction? numeral rest = scanned numeral rest := by
  cases ends <;> rfl

theorem isDigit_of_mem_decimal (n : Nat) (c : Char) (member : c ∈ Text.decimal n) :
    c.isDigit = true :=
  Nat.isDigit_of_mem_toDigits (by decide) (by decide) member

/-- The digits of a number are read up to its end. -/
theorem number_decimal (negative : Bool) (n : Nat) (rest : List Char) (ends : Ends rest) :
    number negative (Text.decimal n ++ rest) =
      scanned ⟨negative,Text.decimal n,[],false,false,[]⟩ rest := by
  by_cases zero : n = 0
  · have noDigit : rest.head?.any Char.isDigit = false := by cases ends <;> rfl
    subst zero
    simp [Text.decimal,number,noDigit,ends.fraction?]
  · have digits := isDigit_of_mem_decimal n
    have taken : (Text.decimal n ++ rest).takeWhile Char.isDigit = Text.decimal n := by
      rw [List.takeWhile_append_of_pos digits,ends.takeWhile_isDigit,List.append_nil]
    have dropped : (Text.decimal n ++ rest).dropWhile Char.isDigit = rest := by
      have whole := List.takeWhile_append_dropWhile (p := Char.isDigit) (l := Text.decimal n ++ rest)
      rw [taken] at whole
      exact List.append_cancel_left whole
    have nonempty : Text.decimal n ≠ [] := Nat.toDigits_ne_nil
    unfold number
    split
    · next leading =>
      have head := head?_decimal n (Nat.pos_of_ne_zero zero)
      have first := congrArg List.head? leading
      rw [List.head?_append,Option.or_of_isSome (List.isSome_head?.mpr nonempty)] at first
      exact absurd first head
    · simp [taken,dropped,nonempty,ends.fraction?]

/-- The integers that are read as such, of 64 bits with or without a sign. -/
def IsWord (n : Int) : Prop := -2 ^ 63 ≤ n ∧ n < 2 ^ 64

theorem value_natural (n : Nat) (small : n < 2 ^ 64) :
    Numeral.value ⟨false,Text.decimal n,[],false,false,[]⟩ = .ok (.integer n) := by
  have fits : n < UInt64.size := small
  simp [Numeral.value,Numeral.value?,Text.natOfDecimal_decimal,fits]

theorem value_negative (n : Nat) (positive : 0 < n) (small : n ≤ 2 ^ 63) :
    Numeral.value ⟨true,Text.decimal n,[],false,false,[]⟩ = .ok (.integer (-n)) := by
  have fits : n ≤ 9223372036854775808 := small
  simp [Numeral.value,Numeral.value?,Text.natOfDecimal_decimal,positive,fits]

/-- A digit begins a number. -/
theorem scanToken_digit (c : Char) (rest : List Char) (digit : c.isDigit = true) :
    isSpace c = false ∧ scanToken c rest = number false (c :: rest) := by
  have apart (other : Char) (noDigit : other.isDigit = false) : c ≠ other := by
    rintro rfl
    simp [digit] at noDigit
  constructor
  · simp [isSpace,apart ' ' rfl,apart '\n' rfl,apart '\t' rfl,apart '\r' rfl]
  · simp [scanToken,digit,apart '[' rfl,apart ']' rfl,apart '\x7b' rfl,apart '\x7d' rfl,
      apart ',' rfl,apart ':' rfl,apart '"' rfl,apart 'n' rfl,apart 't' rfl,apart 'f' rfl,
      apart '-' rfl]

theorem tokens_integer (n : Int) (rest : List Char) (word : IsWord n) (ends : Ends rest) :
    tokens (Value.integerText n ++ rest) =
      .scalar ⟨.ok (.number (.integer n)),none⟩ :: tokens rest := by
  cases n with
  | ofNat n =>
    have small : n < 2 ^ 64 := by
      have high := word.2
      simp only [Int.ofNat_eq_natCast] at high
      omega
    have read := number_decimal false n rest ends
    cases digits : Text.decimal n with
    | nil => exact absurd digits Nat.toDigits_ne_nil
    | cons c more =>
      have digit := isDigit_of_mem_decimal n c (by simp [digits])
      obtain ⟨visible,scan⟩ := scanToken_digit c (more ++ rest) digit
      rw [digits,List.cons_append,← digits] at read
      rw [Value.integerText,digits,List.cons_append]
      apply tokens_of_scanToken c _ _ _ visible
      rw [scan,read]
      simp [scanned,value_natural n small,Except.map]
  | negSucc n =>
    have small : n + 1 ≤ 2 ^ 63 := by
      have low := word.1
      omega
    have read := number_decimal true (n + 1) rest ends
    rw [Value.integerText,List.cons_append]
    apply tokens_of_scanToken '-' _ _ _ rfl
    have scan : scanToken '-' (Text.decimal (n + 1) ++ rest) =
        number true (Text.decimal (n + 1) ++ rest) := rfl
    rw [scan,read]
    simp only [scanned,value_negative (n + 1) (Nat.succ_pos n) small,Except.map]
    rfl

end ParseScope.Json
