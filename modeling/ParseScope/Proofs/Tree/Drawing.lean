import ParseScope.Proofs.Tree.Path
import ParseScope.Tree.Drawing

/-!
Drawings by paths. What stands before a node on its line is known from its path alone: two
characters for each step from the root.
-/
namespace ParseScope.Tree

/-- Whether step `k` of a path leads to the last child of the node it starts from. -/
def lastAt (tree : Tree) (path : List Nat) (k : Nat) : Bool :=
  (tree.at? (path.take k)).any fun parent => path[k]? = some (parent.children.length - 1)

/-- What a line shows before the node at a path. In the style with branches the last step is the
branch to the node, and those before it are what its ancestors leave. -/
def margin (tree : Tree) (path : List Nat) : Style → List Char
  | .bars => (List.replicate path.length ['│', ' ']).flatten
  | .connectors =>
    (List.range path.length).flatMap fun k =>
      if k + 1 < path.length then
        if tree.lastAt path k then [' ', ' '] else ['│', ' ']
      else
        if tree.lastAt path k then ['└', '─'] else ['├', '─']

theorem length_margin (tree : Tree) (path : List Nat) (style : Style) :
    (tree.margin path style).length = 2 * path.length := by
  cases style with
  | bars => simp [margin,Nat.mul_comm]
  | connectors =>
    have two (k : Nat) : (if k + 1 < path.length then
        if tree.lastAt path k then [' ',' '] else ['│',' ']
      else if tree.lastAt path k then ['└','─'] else ['├','─']).length = 2 := by
      split <;> split <;> rfl
    simp [margin,List.length_flatMap,two,Nat.mul_comm]

theorem lastAt_zero (tree : Tree) (index : Nat) (path : List Nat)
    (inside : index < tree.children.length) :
    tree.lastAt (index :: path) 0 = decide (index + 1 = tree.children.length) := by
  simp only [lastAt,List.take_zero,at?,Option.any_some,List.getElem?_cons_zero,Option.some.injEq,
    decide_eq_decide]
  omega

theorem lastAt_succ (tree child : Tree) (index : Nat) (path : List Nat) (k : Nat)
    (found : tree.children[index]? = some child) :
    tree.lastAt (index :: path) (k + 1) = child.lastAt path k := by
  simp [lastAt,at?,found]

/-- Before a child stands its branch. -/
theorem margin_singleton (tree : Tree) (index : Nat) (inside : index < tree.children.length) :
    tree.margin [index] .connectors =
      if index + 1 = tree.children.length then ['└','─'] else ['├','─'] := by
  simp [margin,lastAt_zero tree index [] inside]

/-- Before what is below a child stands what the child leaves. -/
theorem margin_cons (tree child : Tree) (index : Nat) (path : List Nat)
    (found : tree.children[index]? = some child) (below : path ≠ []) :
    tree.margin (index :: path) .connectors =
      (if index + 1 = tree.children.length then [' ',' '] else ['│',' ']) ++
        child.margin path .connectors := by
  have inside := (List.getElem?_eq_some_iff.mp found).1
  have first := lastAt_zero tree index path inside
  have others (k : Nat) := lastAt_succ tree child index path k found
  have longer := List.length_pos_iff.mpr below
  simp only [margin,List.length_cons,List.range_succ_eq_map,List.flatMap_cons,List.flatMap_map,
    Nat.add_lt_add_iff_right,others,first]
  simp [longer]

namespace Pending

/-- The line of a place of a waiting node. -/
def lineAt (style : Style) (pending : Pending) (place : Place) : List Char :=
  (match style with
    | .connectors =>
      if place.path = [] then pending.margin .connectors
      else pending.inner ++ pending.node.margin place.path .connectors
    | .bars => (List.replicate (pending.depth + place.path.length) ['│', ' ']).flatten)
    ++ place.node.content

theorem lineAt_root (style : Style) (pending : Pending) :
    pending.lineAt style ⟨[],pending.node⟩ = pending.line style := by
  cases style with
  | connectors => simp [lineAt,line]
  | bars => simp [lineAt,line,margin,Text.repeated_eq_flatten]

/-- A waiting child has the lines that its places have in the parent. -/
theorem lineAt_below (style : Style) (pending : Pending) (child : Tree) (index : Nat)
    (found : pending.node.children[index]? = some child) (place : Place) :
    pending.lineAt style (place.below index) =
      lineAt style ⟨child,pending.inner,pending.depth + 1,index + 1 = pending.node.children.length⟩
        place := by
  obtain ⟨path,node⟩ := place
  cases style with
  | bars => simp [lineAt,Place.below,Nat.add_right_comm,Nat.add_assoc]
  | connectors =>
    cases path with
    | nil =>
      have inside := (List.getElem?_eq_some_iff.mp found).1
      simp [lineAt,Place.below,margin,margin_singleton pending.node index inside]
    | cons next path =>
      have cons := margin_cons pending.node child index (next :: path) found (by simp)
      simp [lineAt,Place.below,inner,cons]

/-- The waiting children from `rest` on have the lines of the places from there on. -/
theorem flatMap_ofSiblings (style : Style) (pending : Pending) (before rest : List Tree)
    (children : pending.node.children = before ++ rest) :
    (ofSiblings pending.inner (pending.depth + 1) rest).flatMap
        (fun child => child.node.places.map (child.lineAt style)) =
      (placesFrom before.length rest).map (pending.lineAt style) := by
  induction rest generalizing before with
  | nil => rfl
  | cons child others ih =>
    have found : pending.node.children[before.length]? = some child := by simp [children]
    have last : others.isEmpty = decide (before.length + 1 = pending.node.children.length) := by
      cases others <;> simp [children]
    have more := ih (before ++ [child]) (by simp [children])
    rw [List.length_append,List.length_singleton] at more
    rw [ofSiblings,List.flatMap_cons,placesFrom,List.map_append,List.map_map,more,last]
    congr 1
    apply List.map_congr_left
    intro place _
    exact (pending.lineAt_below style child before.length found place).symm

/-- A node and its waiting children have the lines of all its places. -/
theorem map_lineAt_places (style : Style) (pending : Pending) :
    pending.node.places.map (pending.lineAt style) = pending.line style ::
      pending.children.flatMap fun child => child.node.places.map (child.lineAt style) := by
  rw [children,flatMap_ofSiblings style pending [] pending.node.children rfl,← lineAt_root]
  cases pending.node with
  | leaf label text => rfl
  | node label first others => rw [places_node]; rfl

end Pending

/-- From any stack on, what is added to the lines that are done are the lines of the waiting nodes
and of all below them, from the top of the stack to its bottom. -/
theorem drawStack_eq (style : Style) (done : List (List Char)) (stack : List Pending) :
    drawStack style done stack = done.reverse ++
      stack.flatMap fun pending => pending.node.places.map (pending.lineAt style) := by
  fun_induction drawStack style done stack with
  | case1 done => simp
  | case2 done pending rest ih =>
    -- The line of the top is done now, and the lines below it are those of its children.
    rw [ih,List.flatMap_cons,pending.map_lineAt_places style]
    simp

/-- A drawing has a line for each node, in the order of their paths. The line shows the label of the
node, and behind that of a leaf its text in quotes, which no style changes, after a margin known
from the path and of two characters for each of its steps. -/
theorem draw_eq_places (tree : Tree) :
    (∀ path target, ⟨path,target⟩ ∈ tree.places ↔ tree.at? path = some target) ∧
    (tree.places.Pairwise fun a b => a.path < b.path) ∧
    ∀ style,
      (tree.draw style).toList = tree.places.flatMap (fun place =>
        tree.margin place.path style ++
          (match place.node with
            | leaf label text =>
              label.toList ++ [' ', '"'] ++ Text.oneLine text.toList ++ ['"']
            | node label _ _ => label.toList) ++ ['\n']) ∧
      ∀ path, (tree.margin path style).length = 2 * path.length := by
  refine ⟨tree.mem_places_iff,tree.pairwise_places,fun style => ⟨?_,?_⟩⟩
  · have line (place : Place) : Pending.lineAt style ⟨tree,[],0,true⟩ place =
        tree.margin place.path style ++ place.node.content := by
      cases style with
      | bars => simp [Pending.lineAt,margin]
      | connectors =>
        by_cases root : place.path = []
        · simp [Pending.lineAt,Pending.margin,margin,root]
        · simp [Pending.lineAt,Pending.inner,root]
    rw [draw,String.toList_ofList,lines,drawStack_eq]
    simp only [List.reverse_nil,List.nil_append,List.flatMap_singleton,List.flatMap_map,line]
    refine List.flatMap_congr fun place _ => ?_
    obtain ⟨path,target⟩ := place
    cases target with
    | leaf label text => simp [content]
    | node label first others => rfl
  · intro path
    exact tree.length_margin path style

example : (node "a" (node "b" (leaf "c" "1\n") []) [leaf "d" "é"]).draw .connectors =
    "a\n├─b\n│ └─c \"1\\n\"\n└─d \"é\"\n" := by cbv

end ParseScope.Tree
