/-!
Parse trees: leaves with their matched text, and inner nodes with at least one child.
-/
namespace ParseScope

/-- An inner node holds its first child apart from the others, so it has at least one. -/
inductive Tree
  | leaf (label text : String)
  | node (label : String) (first : Tree) (others : List Tree)
  deriving Repr, Inhabited

namespace Tree

/-- Induction over trees: what holds of a node may be derived from what holds of its children. -/
@[induction_eliminator]
theorem induct {motive : Tree → Prop} (leaf : ∀ label text, motive (leaf label text))
    (node : ∀ label first others, (∀ child ∈ first :: others, motive child) →
      motive (node label first others)) (tree : Tree) : motive tree :=
  Tree.rec (motive_2 := fun trees => ∀ child ∈ trees, motive child) leaf
    (fun label first others ofFirst ofOthers =>
      node label first others (List.forall_mem_cons.mpr ⟨ofFirst, ofOthers⟩))
    (fun _ member => nomatch member)
    (fun _ _ ofFirst ofOthers => List.forall_mem_cons.mpr ⟨ofFirst, ofOthers⟩) tree

def label : Tree → String
  | leaf label _ => label
  | node label _ _ => label

def children : Tree → List Tree
  | leaf _ _ => []
  | node _ first others => first :: others

@[simp] theorem children_leaf (label text : String) : (leaf label text).children = [] := rfl

@[simp] theorem children_node (label : String) (first : Tree) (others : List Tree) :
    (node label first others).children = first :: others := rfl

mutual

/-- The number of nodes. -/
def size : Tree → Nat
  | leaf _ _ => 1
  | node _ first others => first.size + sizeAll others + 1

def sizeAll : List Tree → Nat
  | [] => 0
  | tree :: others => tree.size + sizeAll others

end

theorem sizeAll_children (tree : Tree) : sizeAll tree.children + 1 = tree.size := by
  cases tree with
  | leaf label text => rfl
  | node label first others => rfl

theorem sizeAll_append (trees others : List Tree) :
    sizeAll (trees ++ others) = sizeAll trees + sizeAll others := by
  induction trees with
  | nil => simp [sizeAll]
  | cons tree trees ih => simp only [List.cons_append, sizeAll, ih, Nat.add_assoc]

/-- An inner node; `none` without children. -/
def node? (label : String) : List Tree → Option Tree
  | [] => none
  | first :: others => some (node label first others)

end Tree

end ParseScope
