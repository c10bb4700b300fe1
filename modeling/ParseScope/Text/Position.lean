import ParseScope.Text.Basic

/-!
Lines and columns. Both are counted from 1, and only a line feed ends a line.
-/
namespace ParseScope.Text

structure Position where
  line : Nat
  column : Nat
  deriving DecidableEq, Repr

/-- The position after `c`, when `c` stands at `p`. -/
def Position.advance (p : Position) (c : Char) : Position :=
  if c = '\n' then ⟨p.line + 1, 1⟩ else ⟨p.line, p.column + 1⟩

/-- The position of a character offset; offsets past the end have the position of the end. -/
def positionAt (text : List Char) (offset : Nat) : Position :=
  (text.take offset).foldl Position.advance ⟨1, 1⟩

/-- The offset right after the `breaks`-th line feed, or the length if there are fewer. -/
def lineStart : List Char → Nat → Nat
  | _, 0 => 0
  | [], _ + 1 => 0
  | c :: rest, breaks + 1 => lineStart rest (if c = '\n' then breaks else breaks + 1) + 1

/-- The offset of a line and column. A zero reads as 1, a column past the end of its line counts
on, and the result is cut to the text. -/
def offsetOf (text : List Char) (p : Position) : Nat :=
  min (lineStart text (p.line - 1) + (p.column - 1)) text.length

/-- Whether the start of the line and the column add up to more than 64 bits hold. -/
def overflows (text : List Char) (p : Position) : Bool :=
  UInt64.size ≤ lineStart text (p.line - 1) + max p.column 1

/-- The offset of a line and column in sums of 64 bits, which start over from 0. -/
def wrappedOffsetOf (text : List Char) (p : Position) : Nat :=
  min ((lineStart text (p.line - 1) + (p.column - 1)) % UInt64.size) text.length

theorem wrappedOffsetOf_eq (text : List Char) (p : Position) (fits : overflows text p = false) :
    wrappedOffsetOf text p = offsetOf text p := by
  have small : lineStart text (p.line - 1) + max p.column 1 < UInt64.size := by
    simpa [overflows] using fits
  rw [wrappedOffsetOf, offsetOf, Nat.mod_eq_of_lt (by omega)]

end ParseScope.Text
