/-!
Byte indexes into the UTF-8 form of a text.
-/
namespace ParseScope.Text

/-- The number of bytes of the UTF-8 form. -/
def byteLength : List Char → Nat
  | [] => 0
  | c :: rest => c.utf8Size + byteLength rest

/-- The character offset of a byte index: `none` inside a character, the length past the end. -/
def offsetOfByte? : List Char → Nat → Option Nat
  | _, 0 => some 0
  | [], _ + 1 => some 0
  | c :: rest, byte + 1 =>
    if byte + 1 < c.utf8Size then none
    else (offsetOfByte? rest (byte + 1 - c.utf8Size)).map (· + 1)

end ParseScope.Text
