import ParseScope.Text.Basic
import ParseScope.Text.Classes
import ParseScope.Text.Digits

/-!
The small parts of TOML texts: blanks, comments, line ends and strings.
-/
namespace ParseScope.Toml

open Text (isBlank)

def skipBlanks (text : List Char) : List Char := text.dropWhile isBlank

/-- A character that may stand in a comment or a string: no control character but the tab. -/
def isPlain (c : Char) : Bool := c = '\t' || (0x20 ≤ c.toNat && c.toNat ≠ 0x7f)

/-- The text after a line end. -/
def lineEnd? : List Char → Option (List Char)
  | '\n' :: rest => some rest
  | '\r' :: '\n' :: rest => some rest
  | _ => none

/-- Skips a comment, up to the line end. -/
def skipComment : List Char → List Char
  | '#' :: rest => rest.dropWhile isPlain
  | text => text

/-- Skips what may follow a statement on its line, and the line end. -/
def finishLine? (text : List Char) : Option (List Char) :=
  match skipComment (skipBlanks text) with
  | [] => some []
  | rest => lineEnd? rest

/-- Skips blanks, comments and line ends inside a list; `commented` tells that a comment runs. -/
def skipLines (commented : Bool) : List Char → List Char
  | [] => []
  | '\n' :: rest => skipLines false rest
  | '\r' :: '\n' :: rest => skipLines false rest
  | c :: rest =>
    if commented then if isPlain c then skipLines true rest else c :: rest
    else if c = '#' then skipLines true rest
    else if isBlank c then skipLines false rest
    else c :: rest

/-- A piece of text read as a value, and the text after it. -/
abbrev Scan (α : Type) := Option (α × List Char)

def push (c : Char) (scan : Scan (List Char)) : Scan (List Char) :=
  scan.map fun (text, rest) => (c :: text, rest)

def escaped? : Char → Option Char
  | 'b' => some '\x08'
  | 't' => some '\t'
  | 'n' => some '\n'
  | 'f' => some '\x0c'
  | 'r' => some '\r'
  | '"' => some '"'
  | '\\' => some '\\'
  | _ => none

/-- The character of some hex digits, unless they name none. -/
def charOfHex? (digits : List Char) : Option Char := do
  let code ← Text.natOfHex? digits
  if code < 0xd800 ∨ (0xdfff < code ∧ code < 0x110000) then return Char.ofNat code
  else none

/-- A string in double quotes, after the first of them. -/
def basicString : List Char → Scan (List Char)
  | [] => none
  | '"' :: rest => some ([], rest)
  | '\\' :: 'u' :: a :: b :: c :: d :: rest =>
    (charOfHex? [a, b, c, d]).bind fun c => push c (basicString rest)
  | '\\' :: 'U' :: a :: b :: c :: d :: e :: f :: g :: h :: rest =>
    (charOfHex? [a, b, c, d, e, f, g, h]).bind fun c => push c (basicString rest)
  | '\\' :: c :: rest => (escaped? c).bind fun c => push c (basicString rest)
  | c :: rest => if isPlain c then push c (basicString rest) else none

/-- A string in single quotes, after the first of them. -/
def literalString : List Char → Scan (List Char)
  | [] => none
  | '\'' :: rest => some ([], rest)
  | c :: rest => if isPlain c then push c (literalString rest) else none

/-- What a backslash at the end of a line leaves out: first the blanks up to the line end, then all
white space. -/
inductive Omission
  | none
  | toLineEnd
  | whiteSpace
  deriving DecidableEq

/-- A string in three double quotes, after them. Two quotes more may stand before the last three. -/
def basicText (omission : Omission) : List Char → Scan (List Char)
  | [] => Option.none
  | '\n' :: rest =>
    match omission with
    | .none => push '\n' (basicText .none rest)
    | _ => basicText .whiteSpace rest
  | '\r' :: '\n' :: rest =>
    match omission with
    | .none => push '\n' (basicText .none rest)
    | _ => basicText .whiteSpace rest
  | ' ' :: rest =>
    if omission = .none then push ' ' (basicText .none rest) else basicText omission rest
  | '\t' :: rest =>
    if omission = .none then push '\t' (basicText .none rest) else basicText omission rest
  | c :: rest =>
    if omission = .toLineEnd then Option.none
    else
      match c, rest with
      | '"', '"' :: '"' :: '"' :: '"' :: rest => some (['"', '"'], rest)
      | '"', '"' :: '"' :: '"' :: rest => some (['"'], rest)
      | '"', '"' :: '"' :: rest => some ([], rest)
      | '\\', 'u' :: a :: b :: c :: d :: rest =>
        (charOfHex? [a, b, c, d]).bind fun c => push c (basicText .none rest)
      | '\\', 'U' :: a :: b :: c :: d :: e :: f :: g :: h :: rest =>
        (charOfHex? [a, b, c, d, e, f, g, h]).bind fun c => push c (basicText .none rest)
      | '\\', c :: rest =>
        if isBlank c || c = '\n' || c = '\r' then basicText .toLineEnd (c :: rest)
        else (escaped? c).bind fun c => push c (basicText .none rest)
      | c, rest => if isPlain c && c ≠ '\\' then push c (basicText .none rest) else Option.none

/-- A string in three single quotes, after them. Two quotes more may stand before the last three. -/
def literalText : List Char → Scan (List Char)
  | [] => none
  | '\'' :: '\'' :: '\'' :: '\'' :: '\'' :: rest => some (['\'', '\''], rest)
  | '\'' :: '\'' :: '\'' :: '\'' :: rest => some (['\''], rest)
  | '\'' :: '\'' :: '\'' :: rest => some ([], rest)
  | '\n' :: rest => push '\n' (literalText rest)
  | '\r' :: '\n' :: rest => push '\n' (literalText rest)
  | c :: rest => if isPlain c then push c (literalText rest) else none

/-- Without a line end right at the front. -/
def dropLineEnd (text : List Char) : List Char := (lineEnd? text).getD text

/-- A string of any of the four kinds. -/
def string : List Char → Scan String
  | '"' :: '"' :: '"' :: rest => finish (basicText .none (dropLineEnd rest))
  | '\'' :: '\'' :: '\'' :: rest => finish (literalText (dropLineEnd rest))
  | '"' :: rest => finish (basicString rest)
  | '\'' :: rest => finish (literalString rest)
  | _ => none
where
  finish (scan : Scan (List Char)) : Scan String :=
    scan.map fun (text, rest) => (String.ofList text, rest)

end ParseScope.Toml
