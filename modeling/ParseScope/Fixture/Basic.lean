import ParseScope.NameMap
import ParseScope.Text.Basic
import ParseScope.Text.Classes
import ParseScope.Text.Quoted
import ParseScope.Disk

/-!
Example fixtures: a header of fields, a grammar and an input, each set off by a line that begins
with `---`. Grammar and input are kept as they are, line endings included.
-/
namespace ParseScope

structure Fixture where
  title : String
  highlighted : Bool
  grammar : String
  input : String
  /-- The fields apart from the title and the highlighting. -/
  fields : NameMap String

/-- The parts that a separator must come before. -/
inductive Section
  | grammar
  | input
  deriving DecidableEq, Repr

def Section.name : Section → String
  | grammar => "grammar"
  | input => "input"

/-- What is wrong with a fixture's text; lines are counted from 1. -/
inductive FormatError
  | missingSeparator (before : Section)
  | missingTitle
  | invalidField (line : Nat) (text : String)
  deriving DecidableEq, Repr

def FormatError.message : FormatError → String
  | missingSeparator before =>
    s!"fixture is missing the '---' separator before the {before.name}"
  | missingTitle => "fixture has no 'title' field"
  | invalidField line text =>
    s!"line {line}: expected 'key: value' header field, found {Text.quoted text}"

namespace Fixture

def isSeparator (line : List Char) : Bool := ['-', '-', '-'].isPrefixOf line

/-- A line without the line-break characters at its end. -/
def withoutBreak (line : List Char) : List Char := Text.trimEnd Text.isLineBreak line

/-- A line of the header that says nothing: white space only, or a comment. -/
def isSilent (line : List Char) : Bool := line.all Text.isWhiteSpace || line.head? = some '#'

def isKeyChar (c : Char) : Bool := c.isAlphanum || c = '_'

/-- The key and the value of a field: the value stands after the first colon, without blanks around
it. -/
def field? (line : List Char) : Option (String × String) :=
  let key := line.takeWhile isKeyChar
  match line.dropWhile isKeyChar with
  | ':' :: rest =>
    if key.isEmpty then none
    else
      let value := Text.trimEnd Text.isBlank (rest.dropWhile Text.isBlank)
      some (String.ofList key, String.ofList value)
  | _ => none

/-- The fields of header lines, the first of which has number `number`; the first line that is
neither silent nor a field is refused. -/
def headerFields : Nat → List (List Char) → Except FormatError (List (String × String))
  | _, [] => .ok []
  | number, line :: rest =>
    let line := withoutBreak line
    if isSilent line then headerFields (number + 1) rest
    else
      match field? line with
      | none => .error (.invalidField number (String.ofList line))
      | some field => (headerFields (number + 1) rest).map (field :: ·)

/-- What the fields say; of a repeated key the last counts. -/
structure Header where
  title : Option String := none
  highlighted : Bool := false
  fields : NameMap String := .empty

def Header.add (header : Header) (field : String × String) : Header :=
  if field.1 = "title" then { header with title := some field.2 }
  else if field.1 = "highlighted" then { header with highlighted := field.2 = "true" }
  else { header with fields := header.fields.insert field.1 field.2 }

/-- The lines before the first separator, and those after it when there is one. -/
def splitAtSeparator (lines : List (List Char)) : List (List Char) × Option (List (List Char)) :=
  (lines.takeWhile (!isSeparator ·),
    match lines.dropWhile (!isSeparator ·) with
    | [] => none
    | _ :: rest => some rest)

/-- The fixture of a text. -/
def parse (source : String) : Except FormatError Fixture := do
  let (headerLines, afterHeader) := splitAtSeparator (Text.terminatedLines source.toList)
  let fields ← headerFields 1 headerLines
  let some afterHeader := afterHeader | throw (.missingSeparator .grammar)
  let (grammar, afterGrammar) := splitAtSeparator afterHeader
  let some input := afterGrammar | throw (.missingSeparator .input)
  let header := fields.foldl Header.add {}
  let some title := header.title | throw .missingTitle
  return { title, highlighted := header.highlighted
           grammar := String.ofList grammar.flatten
           input := String.ofList input.flatten
           fields := header.fields }

end Fixture

end ParseScope
