import Mathlib.Data.List.Lex
import ParseScope.Tree.Basic

/-!
Nodes by their paths from the root. The places of a tree are its nodes in pre-order, and that is the
lexicographic order of their paths.
-/
namespace ParseScope.Tree

/-- The node that child indexes lead to from the root. -/
def at? : Tree → List Nat → Option Tree
  | tree, [] => some tree
  | tree, index :: path => tree.children[index]?.bind fun child => child.at? path

/-- A node of a tree, with the child indexes that lead to it. -/
structure Place where
  path : List Nat
  node : Tree

/-- A place of a child, as a place of the parent. -/
def Place.below (index : Nat) (place : Place) : Place := ⟨index :: place.path, place.node⟩

mutual

/-- The nodes of a tree, each before those below it. -/
def places : Tree → List Place
  | leaf label text => [⟨[], leaf label text⟩]
  | node label first others =>
    ⟨[], node label first others⟩ :: (first.places.map (.below 0) ++ placesFrom 1 others)

/-- The nodes of siblings, the first of which has number `index`. -/
def placesFrom (index : Nat) : List Tree → List Place
  | [] => []
  | child :: others => child.places.map (.below index) ++ placesFrom (index + 1) others

end

theorem places_node (label : String) (first : Tree) (others : List Tree) :
    (node label first others).places =
      ⟨[],node label first others⟩ :: placesFrom 0 (first :: others) := by
  simp only [places,placesFrom]

theorem mem_map_below_iff (index : Nat) (places : List Place) (place : Place) :
    place ∈ places.map (.below index) ↔
      ∃ path, place.path = index :: path ∧ ⟨path,place.node⟩ ∈ places := by
  obtain ⟨path,node⟩ := place
  simp only [List.mem_map,Place.below,Place.mk.injEq]
  constructor
  · rintro ⟨⟨path,node⟩,member,rfl,rfl⟩
    exact ⟨path,rfl,member⟩
  · rintro ⟨path,rfl,member⟩
    exact ⟨⟨path,node⟩,member,rfl,rfl⟩

/-- A place among siblings is one of the sibling that its first index counts to. -/
theorem mem_placesFrom_iff (index : Nat) (children : List Tree) (place : Place) :
    place ∈ placesFrom index children ↔ ∃ count child path, children[count]? = some child ∧
      place.path = (index + count) :: path ∧ ⟨path,place.node⟩ ∈ child.places := by
  induction children generalizing index with
  | nil => simp [placesFrom]
  | cons child others ih =>
    rw [placesFrom,List.mem_append,mem_map_below_iff,ih]
    constructor
    · rintro (⟨path,same,member⟩ | ⟨count,child,path,found,same,member⟩)
      · exact ⟨0,child,path,rfl,same,member⟩
      · exact ⟨count + 1,child,path,found,by rw [same]; congr 1; omega,member⟩
    · rintro ⟨count,found,path,atCount,same,member⟩
      cases count with
      | zero =>
        obtain rfl := Option.some.inj atCount
        exact .inl ⟨path,same,member⟩
      | succ count =>
        exact .inr ⟨count,found,path,atCount,by rw [same]; congr 1; omega,member⟩

/-- The places are the nodes that paths lead to. -/
theorem mem_places_iff (tree : Tree) (path : List Nat) (target : Tree) :
    ⟨path,target⟩ ∈ tree.places ↔ tree.at? path = some target := by
  induction tree generalizing path with
  | leaf label text =>
    cases path with
    | nil => simp [places,at?,eq_comm]
    | cons index path => simp [places,at?]
  | node label first others ih =>
    rw [places_node,List.mem_cons,mem_placesFrom_iff]
    cases path with
    | nil => simp [at?,eq_comm]
    | cons index path =>
      simp only [Place.mk.injEq,reduceCtorEq,false_and,false_or,Nat.zero_add,List.cons.injEq,at?,
        children_node,Option.bind_eq_some_iff]
      constructor
      · rintro ⟨_,child,_,found,⟨rfl,rfl⟩,member⟩
        exact ⟨child,found,(ih child (List.mem_of_getElem? found) _).mp member⟩
      · rintro ⟨child,found,reached⟩
        exact ⟨index,child,path,found,⟨rfl,rfl⟩,
          (ih child (List.mem_of_getElem? found) _).mpr reached⟩

theorem pairwise_placesFrom (index : Nat) (children : List Tree)
    (ascend : ∀ child ∈ children, child.places.Pairwise fun a b => a.path < b.path) :
    (placesFrom index children).Pairwise fun a b => a.path < b.path := by
  induction children generalizing index with
  | nil => exact .nil
  | cons child others ih =>
    obtain ⟨ofChild,ofOthers⟩ := List.forall_mem_cons.mp ascend
    rw [placesFrom,List.pairwise_append]
    refine ⟨?_,ih (index + 1) ofOthers,?_⟩
    · apply List.pairwise_map.mpr
      apply ofChild.imp
      intro a b less
      exact List.cons_lt_cons_iff.mpr (.inr ⟨rfl,less⟩)
    · intro a aMember b bMember
      obtain ⟨aPath,aSame,_⟩ := (mem_map_below_iff _ _ _).mp aMember
      obtain ⟨count,_,bPath,_,bSame,_⟩ := (mem_placesFrom_iff _ _ _).mp bMember
      rw [aSame,bSame]
      exact List.cons_lt_cons_iff.mpr (.inl (by omega))

/-- Along the places, the paths ascend: a parent comes before its children, and all that is below a
child before the next child. -/
theorem pairwise_places (tree : Tree) : tree.places.Pairwise fun a b => a.path < b.path := by
  induction tree with
  | leaf label text => simp [places]
  | node label first others ih =>
    rw [places_node,List.pairwise_cons]
    refine ⟨?_,pairwise_placesFrom 0 (first :: others) ih⟩
    intro place member
    obtain ⟨count,_,path,_,same,_⟩ := (mem_placesFrom_iff _ _ _).mp member
    rw [same]
    exact List.nil_lt_cons _ _

end ParseScope.Tree
