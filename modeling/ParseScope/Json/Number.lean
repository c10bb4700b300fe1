import ParseScope.Decimal.Shortest
import ParseScope.Json.Fault
import ParseScope.Text.Digits

/-!
Numbers in JSON texts: their written form, and the value it stands for. Whole numbers of 64 bits
stay whole; every other number is a double, of which a document here needs the text alone.
-/
namespace ParseScope.Json

/-- A number as written, without its parts' separators; the digits of a part are as in the text. -/
structure Numeral where
  negative : Bool
  whole : List Char
  fraction : List Char := []
  /-- Whether the text has a fraction or an exponent. -/
  isDecimal : Bool := false
  exponentNegative : Bool := false
  exponent : List Char := []
  deriving DecidableEq, Repr

/-- What a number stands for. -/
inductive Number
  | integer (value : Int)
  | decimal (text : String)
  deriving DecidableEq, Repr

/-- Extends a 64-bit significand by digits while it fits, and gives the digits left over. -/
def extend : Nat → List Char → Nat × List Char
  | significand, [] => (significand, [])
  | significand, c :: rest =>
    let next := 10 * significand + (c.toNat - '0'.toNat)
    if UInt64.size ≤ next then (significand, c :: rest) else extend next rest

/-- Divides by `10 ^ places`, by powers that a double can hold. -/
def shrink (x : Float) (places : Nat) : Float :=
  if places ≤ 308 then x / Float.ofScientific 1 false places
  else if x == 0.0 then x
  else shrink (x / 1e308) (places - 308)
termination_by places
decreasing_by omega

/-- `significand · 10 ^ exponent` as a double; `none` when it is too large. Multiplication and
division are rounded on their own. -/
def scale? (significand : Nat) (exponent : Int) : Option Float :=
  let x := significand.toUInt64.toFloat
  if exponent < 0 then some (shrink x exponent.natAbs)
  else if exponent ≤ 308 then
    let y := x * Float.ofScientific 1 false exponent.toNat
    if y.isInf then none else some y
  else if significand = 0 then some x
  else none

namespace Numeral

/-- The double next to the numeral: of the digits, those count that fit 64 bits. -/
def toFloat? (numeral : Numeral) : Option Float :=
  let (significand, beyond) := extend 0 numeral.whole
  let (significand, unused) := extend significand numeral.fraction
  let used := numeral.fraction.length - unused.length
  let exponent := Text.natOfDecimal numeral.exponent
  let shift : Int := (beyond.length : Int) - used
  if exponent < Nat.pow 2 31 then
    scale? significand (if numeral.exponentNegative then shift - exponent else shift + exponent)
  else if significand = 0 ∨ numeral.exponentNegative then some 0.0
  else none

/-- Whole numbers from -2^63 to 2^64 - 1 are integers, except for a negative zero. -/
def value? (numeral : Numeral) : Option Number :=
  let n := Text.natOfDecimal numeral.whole
  if !numeral.isDecimal && !numeral.negative && n < UInt64.size then some (.integer n)
  else if !numeral.isDecimal && numeral.negative && 0 < n && n ≤ Nat.pow 2 63 then some (.integer (-n))
  else numeral.toFloat?.map fun x => .decimal (Decimal.floatText (if numeral.negative then -x else x))

def value (numeral : Numeral) : Except Fault Number :=
  match numeral.value? with
  | some number => .ok number
  | none => .error .numberOutOfRange

end Numeral

end ParseScope.Json
