import ParseScope.Text.Digits

/-!
Binary floating-point numbers written in decimal with the fewest digits that read back.
-/
namespace ParseScope.Decimal

/-- The number `digits · 10 ^ exponent`. -/
structure Scaled where
  digits : Nat
  exponent : Int
  deriving DecidableEq, Repr

/-- A positive number `significand · 2 ^ exponent` of a binary format. `narrow` tells that the next
number below is only half a unit away, as below a power of two. -/
structure Binary where
  significand : Nat
  exponent : Int
  narrow : Bool
  deriving DecidableEq, Repr

namespace Binary

/-- A nonzero finite double without its sign. -/
def ofFloat (x : Float) : Binary :=
  let bits := x.toBits.toNat
  let fraction := bits % Nat.pow 2 52
  let biased : Nat := bits / Nat.pow 2 52 % Nat.pow 2 11
  if biased = 0 then ⟨fraction, -1074, false⟩
  else ⟨Nat.pow 2 52 + fraction, (biased : Int) - 1075, fraction = 0 && 1 < biased⟩

/-- `units` quarters of the last place of `x`, as a fraction. -/
def quarters (x : Binary) (units : Nat) : Nat × Nat :=
  let exponent := x.exponent - 2
  (units * Nat.pow 2 exponent.toNat, Nat.pow 2 (-exponent).toNat)

/-- Whether `digits · 10 ^ exponent` lies among the numbers that round to `x`; the ends count when
the significand is even. -/
def readsBack (x : Binary) (exponent : Int) (digits : Nat) : Bool :=
  let (low, unit) := x.quarters (4 * x.significand - if x.narrow then 1 else 2)
  let (high, _) := x.quarters (4 * x.significand + 2)
  let value := digits * Nat.pow 10 exponent.toNat * unit
  let scale := Nat.pow 10 (-exponent).toNat
  if x.significand % 2 = 0 then low * scale ≤ value && value ≤ high * scale
  else low * scale < value && value < high * scale

/-- The nearest multiple of `10 ^ exponent` that reads back, a tie going to the even one. Only the
two neighbours of `x` on that grid can be it. -/
def onGrid? (x : Binary) (exponent : Int) : Option Nat :=
  let (value, unit) := x.quarters (4 * x.significand)
  let numerator := value * Nat.pow 10 (-exponent).toNat
  let denominator := unit * Nat.pow 10 exponent.toNat
  let below := numerator / denominator
  let rest := 2 * (numerator % denominator)
  let upFirst := denominator < rest || (denominator = rest && below % 2 = 1)
  let candidates := if upFirst then [below + 1, below] else [below, below + 1]
  candidates.find? fun digits => 0 < digits && x.readsBack exponent digits

/-- The first of the grids from `10 ^ exponent` down that holds a number that reads back, and that
number; `grids` is how many to try. -/
def descend (x : Binary) (exponent : Int) : Nat → Option Scaled
  | 0 => none
  | grids + 1 =>
    match x.onGrid? exponent with
    | some digits => some ⟨digits, exponent⟩
    | none => descend x (exponent - 1) grids

/-- The coarsest grid comes first, so the digits are the fewest; below the last place of the
smallest double every grid holds one. -/
def shortest (x : Binary) : Scaled := (x.descend 309 660).getD ⟨0, 0⟩

end Binary

/-- The way floating-point numbers appear in messages: positional with at least one place when the
first digit stands between the fifth place after the point and the sixteenth before it, otherwise
with a signed exponent. -/
def floatText (x : Float) : String :=
  let bits := x.toBits.toNat
  let sign := if bits / Nat.pow 2 63 = 1 then "-" else ""
  if bits % Nat.pow 2 63 = 0 then sign ++ "0.0"
  else
    let number := (Binary.ofFloat x).shortest
    let digits := Text.decimal number.digits
    let leading := number.exponent + digits.length - 1
    let text :=
      if leading < -5 ∨ 15 < leading then
        let fraction := digits.drop 1
        digits.take 1 ++ (if fraction.isEmpty then [] else '.' :: fraction) ++
          ['e', if leading < 0 then '-' else '+'] ++ Text.decimal leading.natAbs
      else if leading < 0 then
        '0' :: '.' :: List.replicate (leading.natAbs - 1) '0' ++ digits
      else
        let whole := leading.toNat + 1
        let padded := digits ++ List.replicate (whole - digits.length) '0'
        let fraction := padded.drop whole
        padded.take whole ++ '.' :: (if fraction.isEmpty then ['0'] else fraction)
    sign ++ String.ofList text

/-- A floating-point number in positional notation, with a point only before a fraction. -/
def positionalText (x : Float) : String :=
  let bits := x.toBits.toNat
  let sign := if bits / Nat.pow 2 63 = 1 then "-" else ""
  if x.isNaN then "NaN"
  else if x.isInf then sign ++ "inf"
  else if bits % Nat.pow 2 63 = 0 then sign ++ "0"
  else
    let number := (Binary.ofFloat x).shortest
    let digits := Text.decimal number.digits
    let text :=
      if 0 ≤ number.exponent then digits ++ List.replicate number.exponent.toNat '0'
      else
        let places := number.exponent.natAbs
        let padded := List.replicate (places + 1 - digits.length) '0' ++ digits
        let whole := padded.length - places
        padded.take whole ++ '.' :: padded.drop whole
    sign ++ String.ofList text

end ParseScope.Decimal
