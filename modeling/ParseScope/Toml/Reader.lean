import ParseScope.Toml.Date
import ParseScope.Toml.Number
import ParseScope.Toml.Table

/-!
TOML texts read as tables. A date or a time is read as the text it is shown as.
-/
namespace ParseScope.Toml

open Settings (Value)

def isBareKeyChar (c : Char) : Bool := c.isAlphanum || c = '_' || c = '-'

/-- A key without dots. -/
def simpleKey (text : List Char) : Option (String × List Char) :=
  match text with
  | '"' :: rest => (basicString rest).map fun (key, rest) => (String.ofList key, rest)
  | '\'' :: rest => (literalString rest).map fun (key, rest) => (String.ofList key, rest)
  | _ =>
    let key := text.takeWhile isBareKeyChar
    if key.isEmpty then none else some (String.ofList key, text.dropWhile isBareKeyChar)

/-- The greatest number of parts of a dotted key, and of lists and tables inside one another. -/
def maxDepth : Nat := 79

/-- The parts of a dotted key and the text after it, at most `parts` of them. -/
def dottedKey : (parts : Nat) → List Char → Option (List String × List Char)
  | 0, _ => none
  | parts + 1, text => do
    let (key, rest) ← simpleKey (skipBlanks text)
    match skipBlanks rest with
    | '.' :: more => do
      let (keys, rest) ← dottedKey parts more
      return (key :: keys, rest)
    | rest => return ([key], rest)

/-- A word or a number. -/
def wordValue (text : List Char) : Option (Value × List Char) :=
  let isWordPart (c : Char) : Bool := c.isAlphanum || "_+-.:".toList.contains c
  let word := text.takeWhile isWordPart
  let rest := text.dropWhile isWordPart
  if word = "true".toList then some (.bool true, rest)
  else if word = "false".toList then some (.bool false, rest)
  else
    match integer? word with
    | some n => some (.integer n, rest)
    | none => (float? word).map fun x => (.float x, rest)

/-- A value that is no string, list or table. -/
def plainValue (text : List Char) : Option (Value × List Char) :=
  match dateTime text with
  | some (shown, rest) => some (.string (String.ofList shown), rest)
  | none => wordValue text

mutual

/-- A value that may open `levels` lists and tables inside one another. Every nested call has
consumed text, so `fuel` need not exceed the text's length. -/
def value (levels fuel : Nat) (text : List Char) : Option (Value × List Char) :=
  match fuel with
  | 0 => none
  | fuel + 1 =>
    match text with
    | '[' :: rest =>
      if levels = 0 then none
      else do
        let (items, rest) ← items (levels - 1) fuel (skipLines false rest)
        return (.list items, rest)
    | '\x7b' :: rest =>
      if levels = 0 then none
      else
        match skipBlanks rest with
        | '\x7d' :: rest => some (.table [], rest)
        | rest => do
          let (entries, rest) ← members (levels - 1) fuel [] rest
          return (.table (finishAll entries), rest)
    | c :: _ =>
      if c = '"' || c = '\'' then (string text).map fun (text, rest) => (.string text, rest)
      else plainValue text
    | [] => none

/-- The items of a list, and the text after its bracket. -/
def items (levels fuel : Nat) (text : List Char) : Option (List Value × List Char) :=
  match fuel with
  | 0 => none
  | fuel + 1 =>
    match text with
    | ']' :: rest => some ([], rest)
    | _ => do
      let (first, rest) ← value levels fuel text
      match skipLines false rest with
      | ',' :: rest => do
        let (others, rest) ← items levels fuel (skipLines false rest)
        return (first :: others, rest)
      | ']' :: rest => return ([first], rest)
      | _ => none

/-- The entries of a table written as one value, and the text after its bracket. -/
def members (levels fuel : Nat) (entries : Entries) (text : List Char) :
    Option (Entries × List Char) :=
  match fuel with
  | 0 => none
  | fuel + 1 => do
    let (keys, rest) ← dottedKey maxDepth text
    let '=' :: rest := rest | none
    let (value, rest) ← value levels fuel (skipBlanks rest)
    let entries ← set value true keys entries
    match skipBlanks rest with
    | ',' :: rest => members levels fuel entries rest
    | '\x7d' :: rest => return (entries, rest)
    | _ => none

end

/-- A table being built, and the header under which lines stand now. -/
structure Build where
  root : Entries := []
  header : List String := []

/-- Reads a header after its opening bracket, up to its closing one. -/
def headerKey (text : List Char) : Option (List String × List Char) := do
  let (keys, rest) ← dottedKey maxDepth text
  let ']' :: rest := rest | none
  return (keys, rest)

/-- Takes one statement, of which there must be one, and gives the text after it. -/
def statement (build : Build) (text : List Char) : Option (Build × List Char) :=
  match text with
  | '[' :: '[' :: rest => do
    let (keys, rest) ← headerKey rest
    let ']' :: rest := rest | none
    let root ← within (extend (keys.getLastD "")) keys.dropLast build.root
    return (⟨root, keys⟩, rest)
  | '[' :: rest => do
    let (keys, rest) ← headerKey rest
    let root ← within (define (keys.getLastD "")) keys.dropLast build.root
    return (⟨root, keys⟩, rest)
  | _ => do
    let (keys, rest) ← dottedKey maxDepth text
    let '=' :: rest := rest | none
    let (value, rest) ← value maxDepth (text.length + 1) (skipBlanks rest)
    let root ← within (set value true keys) build.header build.root
    return ({ build with root }, rest)

/-- Reads at most `count` lines. -/
def readLines : (count : Nat) → Build → List Char → Option Build
  | _, build, [] => some build
  | 0, _, _ => none
  | count + 1, build, text =>
    match finishLine? text with
    | some rest => readLines count build rest
    | none => do
      let (build, rest) ← statement build (skipBlanks text)
      readLines count build (← finishLine? rest)

/-- The table of a text; every line takes up at least one character. -/
def read? (text : List Char) : Option (List (String × Value)) :=
  (readLines text.length {} text).map fun build => finishAll build.root

end ParseScope.Toml
