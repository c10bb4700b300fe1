import ParseScope.Text.Digits
import ParseScope.Toml.Text

/-!
Dates and times in TOML texts, each read as the text it is shown as.
-/
namespace ParseScope.Toml

/-- A number of two digits within bounds. -/
def twoDigits (low high : Nat) : List Char → Scan Nat
  | a :: b :: rest =>
    let n := Text.natOfDecimal [a, b]
    if a.isDigit && b.isDigit && low ≤ n && n ≤ high then some (n, rest) else none
  | _ => none

/-- The text after a character. -/
def after? (c : Char) : List Char → Option (List Char)
  | first :: rest => if first = c then some rest else none
  | [] => none

/-- A number with two digits. -/
def padded (n : Nat) : List Char := if n < 10 then '0' :: Text.decimal n else Text.decimal n

def daysOf (year month : Nat) : Nat :=
  if month = 2 then
    if year % 4 = 0 ∧ (year % 100 ≠ 0 ∨ year % 400 = 0) then 29 else 28
  else if month = 4 ∨ month = 6 ∨ month = 9 ∨ month = 11 then 30
  else 31

/-- A day of a year of four digits. -/
def date (text : List Char) : Option (List Char × List Char) := do
  let year := text.takeWhile Char.isDigit
  if year.length ≠ 4 then none
  let rest ← after? '-' (text.dropWhile Char.isDigit)
  let (month, rest) ← twoDigits 1 12 rest
  let rest ← after? '-' rest
  let (day, rest) ← twoDigits 1 (daysOf (Text.natOfDecimal year) month) rest
  return (year ++ '-' :: padded month ++ '-' :: padded day, rest)

/-- The shown part of a fraction of a second: nine digits at most, and no zeros at the end. -/
def shownFraction (digits : List Char) : List Char :=
  let kept := ((digits.take 9).reverse.dropWhile (· = '0')).reverse
  if kept.isEmpty then [] else '.' :: kept

/-- A time of day, in which a minute may have a leap second. -/
def time (text : List Char) : Option (List Char × List Char) := do
  let (hour, rest) ← twoDigits 0 23 text
  let rest ← after? ':' rest
  let (minute, rest) ← twoDigits 0 59 rest
  let rest ← after? ':' rest
  let (second, rest) ← twoDigits 0 60 rest
  let shown := padded hour ++ ':' :: padded minute ++ ':' :: padded second
  match after? '.' rest with
  | none => return (shown, rest)
  | some fraction =>
    let digits := fraction.takeWhile Char.isDigit
    -- A point without digits is no part of the time.
    if digits.isEmpty then return (shown, rest)
    else return (shown ++ shownFraction digits, fraction.dropWhile Char.isDigit)

/-- How far a time is from universal time. -/
def offset (text : List Char) : Option (List Char × List Char) :=
  match text with
  | [] => none
  | sign :: rest =>
    if sign = 'Z' || sign = 'z' then some (['Z'], rest)
    else if sign = '+' || sign = '-' then do
      let (hours, rest) ← twoDigits 0 23 rest
      let rest ← after? ':' rest
      let (minutes, rest) ← twoDigits 0 59 rest
      let shownSign := if hours = 0 ∧ minutes = 0 then '+' else sign
      return (shownSign :: padded hours ++ ':' :: padded minutes, rest)
    else none

/-- A time, and after a date how far it is from universal time. -/
def timeOfDate (text : List Char) : Option (List Char × List Char) := do
  let (shown, rest) ← time text
  match offset rest with
  | some (far, rest) => return (shown ++ far, rest)
  | none => return (shown, rest)

/-- A date, a time, or both. A blank may stand between the two, but one that no time follows is not
part of the date. -/
def dateTime (text : List Char) : Option (List Char × List Char) :=
  match date text with
  | none => time text
  | some (day, rest) =>
    let timed :=
      match rest with
      | 'T' :: rest | 't' :: rest | ' ' :: rest => timeOfDate rest
      | _ => none
    match timed with
    | some (shown, rest) => some (day ++ 'T' :: shown, rest)
    | none => some (day, rest)

end ParseScope.Toml
