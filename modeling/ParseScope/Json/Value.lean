import ParseScope.Text.Digits

/-!
JSON values and their two written forms, the compact and the indented one.
-/
namespace ParseScope.Json

/-- A value to be written; the members of an object keep their order. -/
inductive Value
  | null
  | bool (value : Bool)
  | integer (value : Int)
  | string (value : String)
  | list (items : List Value)
  | object (members : List (String × Value))

namespace Value

def ofNat (n : Nat) : Value := integer n

/-- An optional value, null when absent. -/
def ofOption {α : Type} (write : α → Value) : Option α → Value
  | none => null
  | some value => write value

/-- A character inside a string literal. -/
def escapeChar (c : Char) : List Char :=
  if c = '"' || c = '\\' then ['\\', c]
  else if c = '\n' then ['\\', 'n']
  else if c = '\r' then ['\\', 'r']
  else if c = '\t' then ['\\', 't']
  else if c = '\x08' then ['\\', 'b']
  else if c = '\x0c' then ['\\', 'f']
  else if c.toNat < 0x20 then
    ['\\', 'u', '0', '0', Nat.digitChar (c.toNat / 16), Nat.digitChar (c.toNat % 16)]
  else [c]

def literal (text : String) : List Char := '"' :: text.toList.flatMap escapeChar ++ ['"']

def nullText : List Char := ['n', 'u', 'l', 'l']

def boolText : Bool → List Char
  | true => ['t', 'r', 'u', 'e']
  | false => ['f', 'a', 'l', 's', 'e']

def integerText : Int → List Char
  | .ofNat n => Text.decimal n
  | .negSucc n => '-' :: Text.decimal (n + 1)

mutual

/-- Without any white space. -/
def compact : Value → List Char
  | null => nullText
  | bool value => boolText value
  | integer value => integerText value
  | string value => literal value
  | list [] => ['[', ']']
  | list (first :: rest) => '[' :: (first.compact ++ compactItems rest) ++ [']']
  | object [] => ['\x7b', '\x7d']
  | object ((name, first) :: rest) =>
    '\x7b' :: (literal name ++ ':' :: (first.compact ++ compactMembers rest)) ++ ['\x7d']

def compactItems : List Value → List Char
  | [] => []
  | item :: rest => ',' :: (item.compact ++ compactItems rest)

def compactMembers : List (String × Value) → List Char
  | [] => []
  | (name, value) :: rest =>
    ',' :: (literal name ++ ':' :: (value.compact ++ compactMembers rest))

end

def newline (depth : Nat) : List Char := '\n' :: List.replicate (2 * depth) ' '

mutual

/-- A line for each item and member, indented by two spaces for each level. -/
def indented (depth : Nat) : Value → List Char
  | null => nullText
  | bool value => boolText value
  | integer value => integerText value
  | string value => literal value
  | list [] => ['[', ']']
  | list (first :: rest) =>
    '[' :: (newline (depth + 1) ++ first.indented (depth + 1) ++ indentedItems (depth + 1) rest)
      ++ newline depth ++ [']']
  | object [] => ['\x7b', '\x7d']
  | object ((name, first) :: rest) =>
    '\x7b' :: (newline (depth + 1) ++ literal name ++ ':' :: ' ' :: first.indented (depth + 1)
      ++ indentedMembers (depth + 1) rest) ++ newline depth ++ ['\x7d']

def indentedItems (depth : Nat) : List Value → List Char
  | [] => []
  | item :: rest => ',' :: (newline depth ++ item.indented depth ++ indentedItems depth rest)

def indentedMembers (depth : Nat) : List (String × Value) → List Char
  | [] => []
  | (name, value) :: rest =>
    ',' :: (newline depth ++ literal name ++ ':' :: ' ' :: value.indented depth
      ++ indentedMembers depth rest)

end

def render (value : Value) : String := String.ofList value.compact

def renderIndented (value : Value) : String := String.ofList (value.indented 0)

end Value

end ParseScope.Json
