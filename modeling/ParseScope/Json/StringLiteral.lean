import ParseScope.Json.Fault
import ParseScope.Text.Bytes
import ParseScope.Text.Digits

/-!
String literals in JSON texts. A literal is first cut into its units, which is all that skipping
it takes; pairing the surrogates among them gives its text.
-/
namespace ParseScope.Json

/-- A character of a literal: written as itself or by a short escape, or by its four hex digits,
which may be half of a surrogate pair. -/
inductive LiteralUnit
  | char (c : Char)
  | hex (code : Nat)
  deriving DecidableEq, Repr

/-- How a literal ends: by its quote, or by what is wrong with it. -/
inductive LiteralEnd
  | closed
  | cut
  | control
  | badEscape
  | badHex
  deriving DecidableEq, Repr

def LiteralEnd.fault? : LiteralEnd → Option Fault
  | closed => none
  | cut => some .cutString
  | control => some .controlCharacter
  | badEscape | badHex => some .badEscape

/-- A literal without its opening quote, and the text after it. -/
structure Literal where
  units : List LiteralUnit
  ending : LiteralEnd
  rest : List Char
  deriving DecidableEq, Repr

def Literal.push (unit : LiteralUnit) (literal : Literal) : Literal :=
  { literal with units := unit :: literal.units }

/-- The character of a short escape. -/
def escaped? (c : Char) : Option Char :=
  if c = '"' || c = '\\' || c = '/' then some c
  else if c = 'b' then some '\x08'
  else if c = 'f' then some '\x0c'
  else if c = 'n' then some '\n'
  else if c = 'r' then some '\r'
  else if c = 't' then some '\t'
  else none

/-- Reads a literal after its opening quote. -/
def Literal.scan : List Char → Literal
  | [] => ⟨[], .cut, []⟩
  | '"' :: rest => ⟨[], .closed, rest⟩
  | '\\' :: 'u' :: a :: b :: c :: d :: rest =>
    match Text.natOfHex? [a, b, c, d] with
    | some code => (scan rest).push (.hex code)
    | none => ⟨[], .badHex, []⟩
  | '\\' :: 'u' :: rest => ⟨[], if 4 ≤ Text.byteLength rest then .badHex else .cut, []⟩
  | '\\' :: c :: rest =>
    match escaped? c with
    | some c => (scan rest).push (.char c)
    | none => ⟨[], .badEscape, []⟩
  | ['\\'] => ⟨[], .cut, []⟩
  | c :: rest => if c.toNat < 0x20 then ⟨[], .control, []⟩ else (scan rest).push (.char c)

theorem Literal.length_rest_scan (text : List Char) : (scan text).rest.length ≤ text.length := by
  fun_induction scan text <;> simp_all [push] <;> omega

def isLeadingSurrogate (code : Nat) : Bool := 0xd800 ≤ code && code ≤ 0xdbff

def isTrailingSurrogate (code : Nat) : Bool := 0xdc00 ≤ code && code ≤ 0xdfff

/-- What is wrong when a leading surrogate is the last unit: its partner had to be the next. -/
def LiteralEnd.faultAfterSurrogate : LiteralEnd → Fault
  | cut => .cutString
  | badHex => .badEscape
  | closed | control | badEscape => .cutSurrogate

/-- The characters of the units, each surrogate pair being one. -/
def decodeUnits (ending : LiteralEnd) : List LiteralUnit → Except Fault (List Char)
  | [] =>
    match ending.fault? with
    | some fault => .error fault
    | none => .ok []
  | .char c :: rest => (decodeUnits ending rest).map (c :: ·)
  | .hex code :: rest =>
    if isTrailingSurrogate code then .error .loneSurrogate
    else if isLeadingSurrogate code then
      match rest with
      | .hex partner :: rest =>
        if isTrailingSurrogate partner then
          let c := Char.ofNat (0x10000 + 0x400 * (code - 0xd800) + (partner - 0xdc00))
          (decodeUnits ending rest).map (c :: ·)
        else .error .loneSurrogate
      | .char _ :: _ => .error .cutSurrogate
      | [] => .error ending.faultAfterSurrogate
    else (decodeUnits ending rest).map (Char.ofNat code :: ·)

/-- The text of a literal. -/
def Literal.text (literal : Literal) : Except Fault String :=
  (decodeUnits literal.ending literal.units).map String.ofList

end ParseScope.Json
