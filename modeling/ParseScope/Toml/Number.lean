import ParseScope.Decimal.Shortest

/-!
Numbers in TOML texts: whole ones of 64 bits, and doubles. Single underscores may stand between
digits.
-/
namespace ParseScope.Toml

/-- Digits, any two of which may have one underscore between them; `afterDigit` tells whether a
digit comes right before. -/
def digits? (isDigit : Char → Bool) (afterDigit : Bool) : List Char → Option (List Char)
  | [] => if afterDigit then some [] else none
  | c :: rest =>
    if isDigit c then (digits? isDigit true rest).map (c :: ·)
    else if c = '_' && afterDigit then digits? isDigit false rest
    else none

def natOfDigits (base : Nat) (digits : List Char) : Nat :=
  digits.foldl (fun n c => base * n + (Text.hexValue? c).getD 0) 0

def isDigitOf (base : Nat) (c : Char) : Bool := (Text.hexValue? c).any (· < base)

/-- The value of a whole number without its sign. A decimal one has no needless zero in front. -/
def magnitude? (signed : Bool) : List Char → Option Nat
  | '0' :: 'x' :: rest => if signed then none else read 16 rest
  | '0' :: 'o' :: rest => if signed then none else read 8 rest
  | '0' :: 'b' :: rest => if signed then none else read 2 rest
  | ['0'] => some 0
  | '0' :: _ => none
  | text => read 10 text
where
  read (base : Nat) (text : List Char) : Option Nat :=
    (digits? (isDigitOf base) false text).map (natOfDigits base)

/-- A whole number of 64 bits. -/
def integer? (word : List Char) : Option Int :=
  let value? : Option Int := match word with
    | '+' :: rest => (magnitude? true rest).map Int.ofNat
    | '-' :: rest => (magnitude? true rest).map fun n => -(n : Int)
    | rest => (magnitude? false rest).map Int.ofNat
  value?.filter fun n => Int64.minValue.toInt ≤ n && n ≤ Int64.maxValue.toInt

/-- The double next to `digits · 10 ^ exponent`. What lies far beyond all of them is told by its
first digit's place alone. -/
def scaled (digits : Nat) (exponent : Int) : Float :=
  let leading := exponent + (Text.decimal digits).length
  if digits = 0 ∨ leading < -400 then 0.0
  else if 400 < leading then 1.0 / 0.0
  else Float.ofScientific digits (exponent < 0) exponent.natAbs

/-- The digits of a fraction or an exponent, which may begin with zeros. -/
def decimals? (text : List Char) : Option (List Char) := digits? (isDigitOf 10) false text

/-- An exponent with its letter; it is zero when left out. -/
def exponent? : List Char → Option Int
  | [] => some 0
  | letter :: text =>
    if letter = 'e' || letter = 'E' then
      match text with
      | '-' :: rest => (decimals? rest).map fun digits => -(natOfDigits 10 digits : Int)
      | '+' :: rest => (decimals? rest).map fun digits => (natOfDigits 10 digits : Int)
      | rest => (decimals? rest).map fun digits => (natOfDigits 10 digits : Int)
    else none

/-- A double without its sign: the digits of a whole number, and a fraction or an exponent or
both. -/
def unsignedFloat? (text : List Char) : Option Float :=
  let isPart (c : Char) : Bool := isDigitOf 10 c || c = '_'
  if text = "inf".toList then some (1.0 / 0.0)
  else if text = "nan".toList then some (0.0 / 0.0)
  else do
    let whole ← magnitude? true (text.takeWhile isPart)
    match text.dropWhile isPart with
    | [] => none
    | '.' :: rest =>
      let fraction ← decimals? (rest.takeWhile isPart)
      let exponent ← exponent? (rest.dropWhile isPart)
      return scaled (whole * Nat.pow 10 fraction.length + natOfDigits 10 fraction)
        (exponent - fraction.length)
    | rest => return scaled whole (← exponent? rest)

/-- A double. Digits that amount to more than any double are refused after no sign or a plus sign
only. -/
def float? (word : List Char) : Option Float :=
  match word with
  | '-' :: rest => (unsignedFloat? rest).map fun x => -x
  | '+' :: rest => (unsignedFloat? rest).filter fun x => !x.isInf || rest = "inf".toList
  | rest => (unsignedFloat? rest).filter fun x => !x.isInf || rest = "inf".toList

end ParseScope.Toml
