/-!
Digits of base 16 and below, and numbers written with them.
-/
namespace ParseScope.Text

/-- The value of a digit, in either letter case. -/
def hexValue? (c : Char) : Option Nat :=
  if '0' ≤ c ∧ c ≤ '9' then some (c.toNat - '0'.toNat)
  else if 'a' ≤ c ∧ c ≤ 'f' then some (c.toNat - 'a'.toNat + 10)
  else if 'A' ≤ c ∧ c ≤ 'F' then some (c.toNat - 'A'.toNat + 10)
  else none

/-- The number that hex digits stand for, the first of them the highest; `none` when one of the
characters is no digit. -/
def natOfHex? (digits : List Char) : Option Nat :=
  digits.foldlM (fun n c => (hexValue? c).map (16 * n + ·)) 0

/-- The number that decimal digits stand for. -/
def natOfDecimal (digits : List Char) : Nat := Nat.ofDigitChars 10 digits 0

/-- The decimal digits of a number, without leading zeros. -/
def decimal (n : Nat) : List Char := Nat.toDigits 10 n

/-- The digits of a number in base 16, without leading zeros. -/
def hex (n : Nat) : List Char := Nat.toDigits 16 n

theorem natOfDecimal_decimal (n : Nat) : natOfDecimal (decimal n) = n :=
  Nat.ofDigitChars_toDigits (by decide) (by decide)

end ParseScope.Text
