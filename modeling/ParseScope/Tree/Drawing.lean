import ParseScope.Text.Basic
import ParseScope.Tree.Basic

/-!
Trees drawn as text, a line for each node, parents before children. The nodes still to be drawn wait
on a stack, so the depth of a tree does not matter.
-/
namespace ParseScope.Tree

/-- How the lines show ancestry: branches to the parent, or a bar for each ancestor. -/
inductive Style
  | connectors
  | bars
  deriving DecidableEq, Repr, Inhabited

/-- What a line shows of its node: the label, and of a leaf its text in quotes. -/
def content : Tree → List Char
  | leaf label text =>
    label.toList ++ ' ' :: '"' :: Text.oneLine text.toList ++ ['"']
  | node label _ _ => label.toList

/-- A node still to be drawn: what its ancestors put before its branch, its depth, and whether it is
a last child. -/
structure Pending where
  node : Tree
  lead : List Char
  depth : Nat
  last : Bool

namespace Pending

/-- What stands before the node on its line. The root stands at the margin. -/
def margin (style : Style) (pending : Pending) : List Char :=
  match style with
  | .connectors =>
    if pending.depth = 0 then []
    else pending.lead ++ (if pending.last then ['└', '─'] else ['├', '─'])
  | .bars => Text.repeated pending.depth ['│', ' ']

def line (style : Style) (pending : Pending) : List Char :=
  pending.margin style ++ pending.node.content

/-- What the node and its ancestors put before the branches of its children. -/
def inner (pending : Pending) : List Char :=
  if pending.depth = 0 then []
  else pending.lead ++ (if pending.last then [' ', ' '] else ['│', ' '])

/-- Siblings in their order; the last of them is a last child. -/
def ofSiblings (lead : List Char) (depth : Nat) : List Tree → List Pending
  | [] => []
  | child :: others => ⟨child, lead, depth, others.isEmpty⟩ :: ofSiblings lead depth others

def children (pending : Pending) : List Pending :=
  ofSiblings pending.inner (pending.depth + 1) pending.node.children

theorem map_node_ofSiblings (lead : List Char) (depth : Nat) (trees : List Tree) :
    (ofSiblings lead depth trees).map (·.node) = trees := by
  induction trees with
  | nil => rfl
  | cons child others ih => rw [ofSiblings, List.map_cons, ih]

theorem map_node_children (pending : Pending) :
    pending.children.map (·.node) = pending.node.children :=
  map_node_ofSiblings _ _ _

end Pending

/-- Draws the node on top of the stack after the lines that are done, and puts its children in its
place. -/
def drawStack (style : Style) (done : List (List Char)) : List Pending → List (List Char)
  | [] => done.reverse
  | pending :: rest => drawStack style (pending.line style :: done) (pending.children ++ rest)
termination_by stack => sizeAll (stack.map (·.node))
decreasing_by
  -- A node counts for itself besides its children.
  have fewer := sizeAll_children pending.node
  rw [List.map_append, sizeAll_append, Pending.map_node_children, List.map_cons, sizeAll]
  omega

/-- The lines of a tree. -/
def lines (tree : Tree) (style : Style) : List (List Char) :=
  drawStack style [] [⟨tree, [], 0, true⟩]

/-- The drawing of a tree: its lines, each ended by a line feed. -/
def draw (tree : Tree) (style : Style) : String :=
  String.ofList ((tree.lines style).flatMap fun line => line ++ ['\n'])

end ParseScope.Tree
