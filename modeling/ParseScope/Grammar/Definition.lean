import ParseScope.Span
import ParseScope.Text.Basic
import ParseScope.Text.Classes

/-!
Rule definitions in the text of a grammar. A line defines a rule when it begins, after blanks, with
the rule's name, followed by blanks and `=`.
-/
namespace ParseScope.Grammar

/-- Whether blanks and then `=` come next. -/
def definesNext (text : List Char) : Bool := (text.dropWhile Text.isBlank).head? = some '='

/-- The name that a line defines, with the number of blanks before it. -/
def definedName? (line : List Char) : Option (Nat × List Char) :=
  let blanks := line.takeWhile Text.isBlank
  let afterBlanks := line.dropWhile Text.isBlank
  let name := afterBlanks.takeWhile Text.isWordPart
  if !name.isEmpty && definesNext (afterBlanks.dropWhile Text.isWordPart) then
    some (blanks.length, name)
  else none

/-- The definitions on lines the first of which begins at `offset`. -/
def definitionsFrom : Nat → List (List Char) → List Labelled
  | _, [] => []
  | offset, line :: rest =>
    let more := definitionsFrom (offset + line.length + 1) rest
    match definedName? line with
    | none => more
    | some (blanks, name) =>
      let first := offset + blanks
      ⟨⟨first, first + name.length - 1⟩, String.ofList name⟩ :: more

/-- Every rule definition of a grammar in text order; a repeated one is repeated. -/
def definitions (grammar : String) : List Labelled :=
  definitionsFrom 0 (Text.lines grammar.toList)

/-- Whether the text begins with a definition of `rule`, letter by letter. -/
def beginsDefinition (rule text : List Char) : Bool :=
  rule.isPrefixOf text && definesNext (text.drop rule.length)

/-- The greatest number of blanks, at most `blanks`, after which the definition of `rule`
begins. -/
def indentOf? (rule text : List Char) : Nat → Option Nat
  | 0 => if beginsDefinition rule text then some 0 else none
  | blanks + 1 =>
    if beginsDefinition rule (text.drop (blanks + 1)) then some (blanks + 1)
    else indentOf? rule text blanks

/-- Where the name stands when a line that begins here defines `rule`. The name may hold blanks and
line feeds of its own. -/
def definitionAt? (rule text : List Char) : Option Nat :=
  indentOf? rule text (text.takeWhile Text.isBlank).length

/-- The offset of the first definition of `rule`; `lineBegins` tells whether a line begins at the
head of the text, and `offset` is where that is. -/
def findFrom? (rule : List Char) : Nat → Bool → List Char → Option Nat
  | _, _, [] => none
  | offset, lineBegins, c :: rest =>
    match (if lineBegins then definitionAt? rule (c :: rest) else none) with
    | some blanks => some (offset + blanks)
    | none => findFrom? rule (offset + 1) (c = '\n') rest

/-- The span of a rule's name in its first definition. -/
def search? (grammar rule : String) : Option Span :=
  (findFrom? rule.toList 0 true grammar.toList).map fun first =>
    ⟨first, first + rule.toList.length - 1⟩

/-- The patterns that rules are looked for with. One that grows too large with its name does not
compile. -/
class Patterns where
  compiles : (rule : String) → Bool

/-- The span of a rule's name in its first definition. There is none for an empty name, and none for
a name whose pattern does not compile. -/
def find? [Patterns] (grammar rule : String) : Option Span :=
  if rule.isEmpty || !Patterns.compiles rule then none else search? grammar rule

theorem find?_eq_search? [Patterns] (grammar rule : String) (named : rule ≠ "")
    (compiles : Patterns.compiles rule = true) : find? grammar rule = search? grammar rule := by
  simp [find?, named, compiles]

theorem find?_eq_none [Patterns] (grammar rule : String)
    (refused : Patterns.compiles rule = false) : find? grammar rule = none := by
  simp [find?, refused]

end ParseScope.Grammar
