import ParseScope.Json.Number
import ParseScope.Json.StringLiteral
import ParseScope.Text.Basic

/-!
The tokens of a JSON text. What is wrong inside a token can depend on its use: a value that is only
skipped may hold any surrogates and any size of number. A token therefore carries its value or the
fault met when reading it, and apart from that the fault met when skipping it. A token that cannot
even be skipped is the last one, and so is a character that begins none.
-/
namespace ParseScope.Json

/-- A value without parts. -/
inductive Scalar
  | null
  | bool (value : Bool)
  | number (value : Number)
  | string (value : String)
  deriving DecidableEq, Repr

/-- What reading a piece of text gives, and what goes wrong when it is skipped. -/
structure Piece (α : Type) where
  value : Except Fault α
  broken : Option Fault

inductive Token
  | openList
  | closeList
  | openObject
  | closeObject
  | comma
  | colon
  | string (piece : Piece String)
  | scalar (piece : Piece Scalar)
  | stray

/-- A token and the text after it; `none` after the last token. -/
abbrev Scan := Token × Option (List Char)

/-- A piece that is broken however it is used. -/
def Piece.fail {α : Type} (fault : Fault) : Piece α := ⟨.error fault, some fault⟩

/-- A piece that breaks where the text ends: a reader still waits for the value, while to a skipper
the number is bad. -/
def Piece.failNumber (rest : List Char) : Piece Scalar :=
  ⟨.error (if rest.isEmpty then .cutValue else .badNumber), some .badNumber⟩

/-- Compares with the rest of a word. -/
def scanWord : List Char → List Char → Except Fault (List Char)
  | [], text => .ok text
  | _ :: _, [] => .error .cutValue
  | expected :: more, c :: rest => if c = expected then scanWord more rest else .error .noWord

def word (value : Scalar) (ending text : List Char) : Scan :=
  match scanWord ending text with
  | .ok rest => (.scalar ⟨.ok value, none⟩, some rest)
  | .error fault => (.scalar (.fail fault), none)

def scanned (numeral : Numeral) (rest : List Char) : Scan :=
  (.scalar ⟨numeral.value.map .number, none⟩, some rest)

/-- The exponent, after its letter. -/
def exponent (numeral : Numeral) (text : List Char) : Scan :=
  let (negative, text) := match text with
    | '-' :: rest => (true, rest)
    | '+' :: rest => (false, rest)
    | _ => (false, text)
  let digits := text.takeWhile Char.isDigit
  if digits.isEmpty then (.scalar (.failNumber text), none)
  else
    scanned { numeral with isDecimal := true, exponentNegative := negative, exponent := digits }
      (text.dropWhile Char.isDigit)

/-- The exponent, if there is one. -/
def exponent? (numeral : Numeral) (text : List Char) : Scan :=
  match text with
  | c :: rest => if c = 'e' || c = 'E' then exponent numeral rest else scanned numeral text
  | [] => scanned numeral []

/-- What follows the whole part of a number. -/
def fraction? (numeral : Numeral) (text : List Char) : Scan :=
  match text with
  | '.' :: rest =>
    let digits := rest.takeWhile Char.isDigit
    if digits.isEmpty then (.scalar (.failNumber rest), none)
    else
      exponent? { numeral with fraction := digits, isDecimal := true } (rest.dropWhile Char.isDigit)
  | _ => exponent? numeral text

/-- A number after its sign. A zero stands alone in the whole part. -/
def number (negative : Bool) (text : List Char) : Scan :=
  match text with
  | '0' :: rest =>
    if rest.head?.any Char.isDigit then (.scalar (.fail .badNumber), none)
    else fraction? ⟨negative, ['0'], [], false, false, []⟩ rest
  | _ =>
    let digits := text.takeWhile Char.isDigit
    if digits.isEmpty then (.scalar (.failNumber text), none)
    else fraction? ⟨negative, digits, [], false, false, []⟩ (text.dropWhile Char.isDigit)

/-- A string after its opening quote. -/
def stringToken (text : List Char) : Scan :=
  let literal := Literal.scan text
  match literal.ending.fault? with
  | some fault => (.string ⟨literal.text, some fault⟩, none)
  | none => (.string ⟨literal.text, none⟩, some literal.rest)

/-- The token that begins with `c`, which is not white space. -/
def scanToken (c : Char) (rest : List Char) : Scan :=
  if c = '[' then (.openList, some rest)
  else if c = ']' then (.closeList, some rest)
  else if c = '\x7b' then (.openObject, some rest)
  else if c = '\x7d' then (.closeObject, some rest)
  else if c = ',' then (.comma, some rest)
  else if c = ':' then (.colon, some rest)
  else if c = '"' then stringToken rest
  else if c = 'n' then word .null ['u', 'l', 'l'] rest
  else if c = 't' then word (.bool true) ['r', 'u', 'e'] rest
  else if c = 'f' then word (.bool false) ['a', 'l', 's', 'e'] rest
  else if c = '-' then number true rest
  else if c.isDigit then number false (c :: rest)
  else (.stray, none)

/-- A scan leaves at most `bound` characters. -/
def Scan.Within (scan : Scan) (bound : Nat) : Prop := ∀ rest, scan.2 = some rest → rest.length ≤ bound

theorem Scan.Within.mono {scan : Scan} {a b : Nat} (h : scan.Within a) (le : a ≤ b) :
    scan.Within b := fun rest left => Nat.le_trans (h rest left) le

theorem within_none (token : Token) (bound : Nat) : Scan.Within (token, none) bound :=
  fun _ left => nomatch left

theorem within_some (token : Token) (rest : List Char) :
    Scan.Within (token, some rest) rest.length := by
  rintro _ ⟨⟩
  exact Nat.le_refl _

theorem length_dropWhile_lt {p : Char → Bool} {text : List Char}
    (h : (text.takeWhile p).isEmpty = false) : (text.dropWhile p).length < text.length := by
  have whole := congrArg List.length (List.takeWhile_append_dropWhile (p := p) (l := text))
  have : (text.takeWhile p).length ≠ 0 := by
    intro zero
    simp [List.length_eq_zero_iff.1 zero] at h
  simp only [List.length_append] at whole
  omega

theorem length_scanWord_le {expected text rest : List Char}
    (h : scanWord expected text = .ok rest) : rest.length ≤ text.length := by
  fun_induction scanWord expected text with
  | case1 => cases h; exact Nat.le_refl _
  | case2 => cases h
  | case3 _ _ _ ih => exact Nat.le_succ_of_le (ih h)
  | case4 => cases h

theorem within_word (value : Scalar) (ending text : List Char) :
    (word value ending text).Within text.length := by
  unfold word
  split
  · next rest h => exact (within_some _ rest).mono (length_scanWord_le h)
  · exact within_none _ _

theorem within_exponent (numeral : Numeral) (text : List Char) :
    (exponent numeral text).Within text.length := by
  unfold exponent
  split
  next negative body h =>
    have shorter : body.length ≤ text.length := by
      split at h <;> cases h <;> simp
    simp only
    split
    · exact within_none _ _
    · exact (within_some _ _).mono (Nat.le_trans (Text.length_dropWhile_le _ _) shorter)

theorem within_exponent? (numeral : Numeral) (text : List Char) :
    (exponent? numeral text).Within text.length := by
  unfold exponent?
  split
  · split
    · exact (within_exponent _ _).mono (Nat.le_succ _)
    · exact within_some _ _
  · exact within_some _ _

theorem within_fraction? (numeral : Numeral) (text : List Char) :
    (fraction? numeral text).Within text.length := by
  unfold fraction?
  split
  · simp only
    split
    · exact within_none _ _
    · exact (within_exponent? _ _).mono
        (Nat.le_succ_of_le (Text.length_dropWhile_le _ _))
  · exact within_exponent? _ _

theorem within_number (negative : Bool) (text : List Char) :
    (number negative text).Within (text.length - 1) := by
  unfold number
  split
  · split
    · exact within_none _ _
    · exact within_fraction? _ _
  · simp only
    split
    · exact within_none _ _
    · next digits =>
      have := length_dropWhile_lt (Bool.eq_false_iff.2 digits)
      exact (within_fraction? _ _).mono (by omega)

theorem within_stringToken (text : List Char) : (stringToken text).Within text.length := by
  unfold stringToken
  simp only
  split
  · exact within_none _ _
  · exact (within_some _ _).mono (Literal.length_rest_scan text)

theorem within_ite {p : Prop} [Decidable p] {a b : Scan} {bound : Nat} (ha : a.Within bound)
    (hb : b.Within bound) : (if p then a else b).Within bound := by
  split
  · exact ha
  · exact hb

theorem within_scanToken (c : Char) (rest : List Char) :
    (scanToken c rest).Within rest.length := by
  unfold scanToken
  iterate 6 refine within_ite (within_some _ _) ?_
  refine within_ite (within_stringToken _) ?_
  iterate 3 refine within_ite (within_word _ _ _) ?_
  refine within_ite ((within_number _ _).mono (Nat.sub_le _ _)) ?_
  exact within_ite (within_number _ _) (within_none _ _)

/-- The four characters that may stand between tokens. -/
def isSpace (c : Char) : Bool := c = ' ' || c = '\n' || c = '\t' || c = '\r'

def tokens : List Char → List Token
  | [] => []
  | c :: rest =>
    if isSpace c then tokens rest
    else match h : scanToken c rest with
      | (token, none) => [token]
      | (token, some more) =>
        have : more.length ≤ rest.length := within_scanToken c rest more (by rw [h])
        token :: tokens more
termination_by text => text.length

end ParseScope.Json
