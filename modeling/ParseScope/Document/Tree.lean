import ParseScope.Document.Reader
import ParseScope.Json.Value
import ParseScope.Tree.Basic

/-!
Trees as documents: a leaf is a list of its label and text, an inner node a list of its label and
the list of its children, of which there is at least one.
-/
namespace ParseScope.Tree

open Document
open Json (Items Outline)

mutual

def write : Tree → Json.Value
  | leaf label text => .list [.string label, .string text]
  | node label first others => .list [.string label, .list (first.write :: writeAll others)]

def writeAll : List Tree → List Json.Value
  | [] => []
  | tree :: others => tree.write :: writeAll others

end

mutual

/-- The tree that a value stands for. -/
def ofOutline? : Outline → Option Tree
  | .list (.item (.scalar ⟨.ok (.string label), _⟩) (.item body (.done _))) =>
    match body with
    | .scalar ⟨.ok (.string text), _⟩ => some (leaf label text)
    | .list items => (ofItems? items).bind (node? label)
    | _ => none
  | _ => none

/-- The trees that the items of a list stand for. -/
def ofItems? : Items → Option (List Tree)
  | .done _ => some []
  | .item first rest =>
    match ofOutline? first, ofItems? rest with
    | some tree, some trees => some (tree :: trees)
    | _, _ => none

end

/-- The node that a label and a body make. -/
def ofBody (label : String) : Outline → Except ReadError (Option Tree)
  | .scalar ⟨.ok (.string text), _⟩ => .ok (some (leaf label text))
  | .list items =>
    match ofItems? items with
    | some children => .ok (node? label children)
    | none => .error .noBody
  | _ => .error .noBody

/-- Reads a tree. The body is looked at as a whole: a fault in it comes first, and all else that is
wrong with it is one error. An empty list of children is refused last. -/
def read : Reader Tree := fun levels value =>
  match value with
  | .list items =>
    if levels = 0 then .error (.fault .tooDeep)
    else
      match items with
      | .done close => do
        orFault close.listFault?
        throw (.tooShort 0 .node 2)
      | .item label (.done close) => do
        let _ ← readString (levels - 1) label
        orFault close.listFault?
        throw (.tooShort 1 .node 2)
      | .item label (.item body rest) => do
        let label ← readString (levels - 1) label
        orFault (body.fault? (levels - 1))
        let tree ← ofBody label body
        orFault (Shape.endFault? rest)
        match tree with
        | some tree => return tree
        | none => throw (.noChildren label)
  | other => mismatch .node other

end ParseScope.Tree
