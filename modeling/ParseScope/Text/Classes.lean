import ParseScope.Text.Unicode.Alphabetic
import ParseScope.Text.Unicode.Graphic
import ParseScope.Text.Unicode.Number
import ParseScope.Text.Unicode.Word

/-!
Classes of characters: blanks, white space, the characters of tokens and of rule names, and those
that quoted text shows as themselves.
-/
namespace ParseScope.Text

/-- Whether a code point lies in one of the ranges, which are in ascending order. -/
def inRanges (code : Nat) : List (Nat × Nat) → Bool
  | [] => false
  | (low, high) :: rest =>
    if code < low then false
    else if code ≤ high then true
    else inRanges code rest

/-- A space or a tab. -/
def isBlank (c : Char) : Bool := c = ' ' || c = '\t'

/-- A line feed or a carriage return. -/
def isLineBreak (c : Char) : Bool := c = '\n' || c = '\r'

/-- The Unicode property White_Space. -/
def isWhiteSpace (c : Char) : Bool :=
  inRanges c.toNat
    [ (0x9, 0xd), (0x20, 0x20), (0x85, 0x85), (0xa0, 0xa0), (0x1680, 0x1680), (0x2000, 0x200a),
      (0x2028, 0x2029), (0x202f, 0x202f), (0x205f, 0x205f), (0x3000, 0x3000)]

/-- The characters of identifier-like tokens: letters, numbers, `_` and `$`. -/
def isTokenPart (c : Char) : Bool :=
  inRanges c.toNat Unicode.alphabetic || inRanges c.toNat Unicode.number || c = '_' || c = '$'

/-- The characters of words, and so of rule names: letters, marks, decimal digits, connector
punctuation and joiners. -/
def isWordPart (c : Char) : Bool := inRanges c.toNat Unicode.word

/-- Whether quoted text shows the character as itself. -/
def isGraphic (c : Char) : Bool := inRanges c.toNat Unicode.graphic

end ParseScope.Text
