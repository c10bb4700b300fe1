import ParseScope.Settings.Value
import ParseScope.Text.Basic
import ParseScope.Text.Classes
import ParseScope.Text.Digits

/-!
Paths to settings, such as `trace.indent`.
-/
namespace ParseScope.Settings

inductive Step
  | key (name : String)
  | index (place : Int)
  deriving DecidableEq, Repr

abbrev Path := List Step

namespace Path

/-- The characters of the keys in a path. -/
def isKeyChar (c : Char) : Bool := c.isAlphanum || c = ' ' || c = '_' || c = '-'

/-- An index of 64 bits between its brackets, with blanks around it and a minus sign if it counts
from the end. -/
def index? (text : List Char) : Option Int :=
  let text := Text.trimEnd Text.isBlank (text.dropWhile Text.isBlank)
  let (negative, digits) := match text with
    | '-' :: rest => (true, rest)
    | rest => (false, rest)
  let size := Text.natOfDecimal digits
  if digits.isEmpty || !digits.all Char.isDigit then none
  else
    let place : Int := if negative then -size else size
    if Int64.minValue.toInt ≤ place && place ≤ Int64.maxValue.toInt then some place else none

/-- The steps after the first key. -/
def continue? : List Char → Option Path
  | [] => some []
  | '.' :: rest =>
    let name := rest.takeWhile isKeyChar
    have := Text.length_dropWhile_le isKeyChar rest
    if name.isEmpty then none
    else (continue? (rest.dropWhile isKeyChar)).map (.key (String.ofList name) :: ·)
  | '[' :: rest =>
    have := Text.length_dropWhile_le (· ≠ ']') rest
    match index? (rest.takeWhile (· ≠ ']')) with
    | none => none
    | some place =>
      if (rest.dropWhile (· ≠ ']')).isEmpty then none
      else (continue? (rest.dropWhile (· ≠ ']')).tail).map (.index place :: ·)
  | _ => none
termination_by text => text.length
decreasing_by all_goals simp_all <;> omega

/-- The steps of a written path. Every key has at least one character. -/
def parse? (text : String) : Option Path := continue? ('.' :: text.toList)

/-- Puts a value at a path. What is no table before a key becomes one, and what is no list before an
index becomes one. -/
def assign (value : Value) : Path → Value → Value
  | [], _ => value
  | [.key name], root => .table (merge name value root.entries)
  | .key name :: rest, root =>
    let name := name.toLower
    let child := (lookup name root.entries).getD .null
    .table (Settings.assign name (assign value rest child) root.entries)
  | .index place :: rest, root => .list (changeAt place (assign value rest) root.items)

end Path

end ParseScope.Settings
