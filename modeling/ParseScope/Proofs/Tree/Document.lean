import Mathlib.Data.Set.List
import ParseScope.Document.Tree
import ParseScope.Proofs.Document.Reader
import ParseScope.Proofs.Json.Regular

/-!
Trees as documents: a value is read as a tree exactly when it belongs to the grammar of trees, and
the tree read from it is the one that is written as that value.
-/
namespace ParseScope

namespace Json

namespace Outline

def ofString (text : String) : Outline := .scalar ⟨.ok (.string text),none⟩

def ofList (items : List Outline) : Outline := .list (items.foldr .item (.done .closed))

theorem eq_ofString (text : String) (broken : Option Fault)
    (regular : Regular (.scalar ⟨.ok (.string text),broken⟩)) :
    .scalar ⟨.ok (.string text),broken⟩ = ofString text := by
  have whole : broken = none := regular (.string text) rfl
  rw [whole,ofString]

end Outline

theorem Close.eq_closed (close : Close) (sound : close.listFault? = none) : close = .closed := by
  cases close with
  | closed => rfl
  | afterComma | cut | cutAfterComma | noSeparator | noKey => exact nomatch sound

end Json

namespace Tree

open Document
open Json (Close Holds Items Outline)

/-- The grammar of the values that stand for trees. -/
inductive IsTree : Outline → Prop
  | leaf (label text : String) : IsTree (.ofList [.ofString label,.ofString text])
  | node (label : String) (children : List Outline) (nonempty : children ≠ [])
      (trees : ∀ child ∈ children, IsTree child) :
      IsTree (.ofList [.ofString label,.ofList children])

/-! ### Written trees -/

theorem outlineItems_writeAll (trees : List Tree) :
    Json.Value.outlineItems (writeAll trees) =
      (trees.map (·.write.outline)).foldr .item (.done .closed) := by
  induction trees with
  | nil => rfl
  | cons tree trees ih => rw [writeAll,Json.Value.outlineItems,ih,List.map_cons,List.foldr_cons]

theorem outline_write_node (label : String) (first : Tree) (others : List Tree) :
    (node label first others).write.outline =
      .ofList [.ofString label,.ofList ((first :: others).map (·.write.outline))] := by
  have children := outlineItems_writeAll (first :: others)
  rw [writeAll] at children
  simp only [write,Json.Value.outline,Json.Value.outlineItems] at children ⊢
  rw [children]
  rfl

theorem isTree_outline_write (tree : Tree) : IsTree tree.write.outline := by
  induction tree with
  | leaf label text => exact .leaf label text
  | node label first others ih =>
    rw [outline_write_node]
    exact .node label _ (by simp) (List.forall_mem_map.mpr ih)

theorem IsTree.exists_write (value : Outline) (isTree : IsTree value) :
    ∃ tree : Tree, tree.write.outline = value := by
  induction isTree with
  | leaf label text => exact ⟨.leaf label text,rfl⟩
  | node label children nonempty trees ih =>
    -- Every child is written for some tree; all of these form one list.
    obtain ⟨written,rfl⟩ : ∃ written : List Tree, written.map (·.write.outline) = children :=
      (Set.range_list_map fun tree : Tree => tree.write.outline).ge ih
    obtain ⟨first,others,rfl⟩ := List.exists_cons_of_ne_nil (mt (congrArg _) nonempty)
    exact ⟨.node label first others,outline_write_node label first others⟩

theorem allHaveWords_writeAll (trees : List Tree) (each : ∀ tree ∈ trees, tree.write.HasWords) :
    Json.Value.AllHaveWords (writeAll trees) := by
  induction trees with
  | nil => trivial
  | cons tree trees ih =>
    obtain ⟨ofTree,ofOthers⟩ := List.forall_mem_cons.mp each
    exact ⟨ofTree,ih ofOthers⟩

theorem hasWords_write (tree : Tree) : tree.write.HasWords := by
  induction tree with
  | leaf label text => exact ⟨trivial,trivial,trivial⟩
  | node label first others ih =>
    exact ⟨trivial,allHaveWords_writeAll (first :: others) ih,trivial⟩

/-! ### Values that are read -/

theorem ofOutline?_eq_some (value : Outline) (tree : Tree) (read : ofOutline? value = some tree) :
    ∃ label broken body close,
      value = .list (.item (.scalar ⟨.ok (.string label),broken⟩) (.item body (.done close))) ∧
      ((∃ text broken, body = .scalar ⟨.ok (.string text),broken⟩ ∧ tree = leaf label text) ∨
        ∃ items first others, body = .list items ∧ ofItems? items = some (first :: others) ∧
          tree = node label first others) := by
  unfold ofOutline? at read
  split at read
  next label broken body close =>
    refine ⟨label,broken,body,close,rfl,?_⟩
    split at read
    next text broken => exact .inl ⟨text,broken,rfl,(Option.some.inj read).symm⟩
    next items =>
      obtain ⟨children,readItems,made⟩ := Option.bind_eq_some_iff.mp read
      cases children with
      | nil => exact nomatch made
      | cons first others =>
        exact .inr ⟨items,first,others,rfl,readItems,(Option.some.inj made).symm⟩
    next => exact nomatch read
  next => exact nomatch read

theorem ofItems?_eq_nil (items : Items) (read : ofItems? items = some []) :
    ∃ close, items = .done close := by
  cases items with
  | done close => exact ⟨close,rfl⟩
  | item first rest =>
    rw [ofItems?] at read
    split at read <;> exact nomatch read

theorem ofItems?_eq_cons (items : Items) (tree : Tree) (others : List Tree)
    (read : ofItems? items = some (tree :: others)) :
    ∃ first rest, items = .item first rest ∧ ofOutline? first = some tree ∧
      ofItems? rest = some others := by
  cases items with
  | done close => exact nomatch read
  | item first rest =>
    rw [ofItems?] at read
    split at read
    next ofFirst ofRest =>
      obtain ⟨rfl,rfl⟩ := List.cons.inj (Option.some.inj read)
      exact ⟨first,rest,rfl,ofFirst,ofRest⟩
    next => exact nomatch read

theorem eq_pair (label : String) (broken : Option Json.Fault) (body : Outline) (close : Close)
    (levels : Nat)
    (regular : Outline.Regular
      (.list (.item (.scalar ⟨.ok (.string label),broken⟩) (.item body (.done close)))))
    (sound : Outline.fault? levels
      (.list (.item (.scalar ⟨.ok (.string label),broken⟩) (.item body (.done close)))) = none) :
    .list (.item (.scalar ⟨.ok (.string label),broken⟩) (.item body (.done close))) =
        Outline.ofList [.ofString label,body] ∧
      body.Regular ∧ body.fault? (levels - 1) = none := by
  obtain ⟨ofLabel,ofBody,_⟩ := regular
  have positive : levels ≠ 0 := by
    rintro rfl
    exact nomatch sound
  rw [Outline.fault?,if_neg positive] at sound
  obtain ⟨_,sound⟩ := Option.or_eq_none_iff.mp sound
  obtain ⟨bodySound,closed⟩ := Option.or_eq_none_iff.mp sound
  rw [Outline.eq_ofString label broken ofLabel,close.eq_closed closed]
  exact ⟨rfl,ofBody,bodySound⟩

/-- A value without a fault that stands for a tree is the one written for that tree. -/
def ReadsBack (tree : Tree) : Prop :=
  ∀ value levels, ofOutline? value = some tree → value.Regular → value.fault? levels = none →
    value = tree.write.outline

theorem items_readBack (trees : List Tree) (each : ∀ tree ∈ trees, tree.ReadsBack) (items : Items)
    (levels : Nat) (read : ofItems? items = some trees) (regular : items.Regular)
    (sound : items.fault? levels = none) : items = Json.Value.outlineItems (writeAll trees) := by
  induction trees generalizing items with
  | nil =>
    obtain ⟨close,rfl⟩ := ofItems?_eq_nil items read
    rw [close.eq_closed sound]
    rfl
  | cons tree others ih =>
    -- A list without a fault has none in its first item and none in the others.
    obtain ⟨first,rest,rfl,ofFirst,ofRest⟩ := ofItems?_eq_cons items tree others read
    obtain ⟨ofTree,ofOthers⟩ := List.forall_mem_cons.mp each
    obtain ⟨firstSound,restSound⟩ := Option.or_eq_none_iff.mp sound
    rw [writeAll,Json.Value.outlineItems,← ofTree first levels ofFirst regular.1 firstSound,
      ← ih ofOthers rest ofRest regular.2 restSound]

theorem readsBack (tree : Tree) : tree.ReadsBack := by
  induction tree with
  | leaf label text =>
    intro value levels read regular sound
    obtain ⟨name,broken,body,close,rfl,⟨text,bodyBroken,rfl,same⟩ | ⟨_,_,_,_,_,other⟩⟩ :=
      ofOutline?_eq_some value _ read
    · obtain ⟨rfl,rfl⟩ := leaf.inj same
      obtain ⟨pair,bodyRegular,_⟩ := eq_pair _ broken _ close levels regular sound
      rw [pair,Outline.eq_ofString _ bodyBroken bodyRegular]
      rfl
    · exact nomatch other
  | node label first others ih =>
    intro value levels read regular sound
    obtain ⟨name,broken,body,close,rfl,⟨_,_,_,other⟩ | ⟨items,_,_,rfl,readItems,same⟩⟩ :=
      ofOutline?_eq_some value _ read
    · exact nomatch other
    · obtain ⟨rfl,rfl,rfl⟩ := node.inj same
      obtain ⟨pair,bodyRegular,bodySound⟩ := eq_pair _ broken _ close levels regular sound
      have positive : levels - 1 ≠ 0 := by
        intro bottom
        rw [bottom] at bodySound
        exact nomatch bodySound
      rw [Outline.fault?,if_neg positive] at bodySound
      rw [pair,items_readBack (first :: others) ih items _ readItems bodyRegular bodySound]
      rfl

theorem ofItems?_writeAll (trees : List Tree)
    (each : ∀ tree ∈ trees, ofOutline? tree.write.outline = some tree) :
    ofItems? (Json.Value.outlineItems (writeAll trees)) = some trees := by
  induction trees with
  | nil => rfl
  | cons tree trees ih =>
    obtain ⟨ofTree,ofOthers⟩ := List.forall_mem_cons.mp each
    rw [writeAll,Json.Value.outlineItems,ofItems?,ofTree,ih ofOthers]

theorem ofOutline?_write (tree : Tree) : ofOutline? tree.write.outline = some tree := by
  induction tree with
  | leaf label text => rfl
  | node label first others ih =>
    have children := ofItems?_writeAll (first :: others) ih
    rw [writeAll] at children
    simp only [write,Json.Value.outline,Json.Value.outlineItems,ofOutline?] at children ⊢
    rw [children]
    rfl

/-! ### Reading -/

theorem ofBody_eq_ok_iff (label : String) (broken : Option Json.Fault) (body : Outline)
    (close : Close) (tree : Tree) :
    ofBody label body = .ok (some tree) ↔
      ofOutline? (.list (.item (.scalar ⟨.ok (.string label),broken⟩) (.item body (.done close)))) =
        some tree := by
  cases body with
  | scalar piece =>
    obtain ⟨value,broken⟩ := piece
    cases value with
    | error fault => simp [ofBody,ofOutline?]
    | ok scalar => cases scalar <;> simp [ofBody,ofOutline?]
  | list items => cases children : ofItems? items <;> simp [ofBody,ofOutline?,children]
  | object members => simp [ofBody,ofOutline?]

theorem read_pair_eq_ok_iff (levels : Nat) (label body : Outline) (rest : Items) (tree : Tree) :
    read levels (.list (.item label (.item body rest))) = .ok tree ↔
      levels ≠ 0 ∧ ∃ name broken, label = .scalar ⟨.ok (.string name),broken⟩ ∧
        body.fault? (levels - 1) = none ∧ ofBody name body = .ok (some tree) ∧
        rest = .done .closed := by
  by_cases bottom : levels = 0
  · simp [read,bottom]
  · simp only [read,bottom,if_false,bind_eq_ok_iff,readString_eq_ok_iff,orFault_eq_ok_iff,
      endFault?_eq_none_iff]
    constructor
    · rintro ⟨name,⟨broken,rfl⟩,_,sound,made,ofBody,_,closed,done⟩
      cases made with
      | none => exact nomatch done
      | some other =>
        obtain rfl := Except.ok.inj done
        exact ⟨bottom,name,broken,rfl,sound,ofBody,closed⟩
    · rintro ⟨_,name,broken,rfl,sound,ofBody,closed⟩
      exact ⟨name,⟨broken,rfl⟩,(),sound,some tree,ofBody,(),closed,rfl⟩

theorem exists_pair_of_read (levels : Nat) (value : Outline) (tree : Tree)
    (accepted : read levels value = .ok tree) :
    ∃ label body rest, value = .list (.item label (.item body rest)) := by
  unfold read at accepted
  split at accepted
  next items =>
    split at accepted
    next => exact nomatch accepted
    next =>
      split at accepted
      next close =>
        obtain ⟨_,_,refused⟩ := (bind_eq_ok_iff _ _ _).mp accepted
        exact nomatch refused
      next label close =>
        obtain ⟨_,_,accepted⟩ := (bind_eq_ok_iff _ _ _).mp accepted
        obtain ⟨_,_,refused⟩ := (bind_eq_ok_iff _ _ _).mp accepted
        exact nomatch refused
      next label body rest => exact ⟨label,body,rest,rfl⟩
  next => exact absurd accepted (mismatch_ne_ok _ _ _)

/-- A value is read as a tree when it stands for that tree and has no fault. -/
theorem read_eq_ok_iff (levels : Nat) (value : Outline) (tree : Tree) :
    read levels value = .ok tree ↔ ofOutline? value = some tree ∧ value.fault? levels = none := by
  constructor
  · intro accepted
    obtain ⟨label,body,rest,rfl⟩ := exists_pair_of_read levels value tree accepted
    obtain ⟨positive,name,broken,rfl,sound,made,rfl⟩ :=
      (read_pair_eq_ok_iff levels label body rest tree).mp accepted
    refine ⟨(ofBody_eq_ok_iff name broken body .closed tree).mp made,?_⟩
    simp [Outline.fault?,Items.fault?,positive,sound,Close.listFault?]
  · rintro ⟨stands,sound⟩
    obtain ⟨name,broken,body,close,rfl,_⟩ := ofOutline?_eq_some value tree stands
    have positive : levels ≠ 0 := by
      rintro rfl
      exact nomatch sound
    simp only [Outline.fault?,Items.fault?,if_neg positive,Option.or_eq_none_iff] at sound
    obtain ⟨_,bodySound,closed⟩ := sound
    exact (read_pair_eq_ok_iff levels _ body (.done close) tree).mpr
      ⟨positive,name,broken,rfl,bodySound,(ofBody_eq_ok_iff name broken body close tree).mpr stands,
        congrArg _ (close.eq_closed closed)⟩

theorem write_ne_null (tree : Tree) : tree.write ≠ .null := by
  cases tree with
  | leaf label text => nofun
  | node label first others => nofun

/-- A written tree is read back if it does not nest too deep, and has no other fault if it does. -/
theorem read_write (tree : Tree) (levels : Nat) :
    read levels tree.write.outline =
      if tree.write.outline.depth ≤ levels then .ok tree else .error (.fault .tooDeep) := by
  split
  next shallow =>
    exact (read_eq_ok_iff levels _ tree).mpr
      ⟨ofOutline?_write tree,tree.write.fault?_outline levels shallow⟩
  next deep =>
    -- The lists of the node open one after the other; the inner one is looked at as a whole.
    cases levels with
    | zero => cases tree <;> rfl
    | succ levels =>
      cases tree with
      | leaf label text => exact absurd (Nat.succ_le_succ (Nat.zero_le levels)) deep
      | node label first others =>
        let body : Json.Value := .list (first.write :: writeAll others)
        have nested : (node label first others).write.outline.depth = body.outline.depth + 1 := by
          simp [write,body,Json.Value.outline,Json.Value.outlineItems,Outline.depth,Items.depth]
        have fault := body.fault?_outline_deep levels (by omega)
        change (orFault (body.outline.fault? levels) >>= fun _ => _) = _
        rw [fault]
        rfl

/-- A document is read as a tree when the value it holds is that of the tree, and nests no deeper
than is allowed. -/
theorem readDocument_eq_ok_iff_holds (text : String) (tree : Tree) :
    readDocument read text = .ok tree ↔
      Holds text tree.write.outline ∧ tree.write.outline.depth ≤ maxLevels := by
  rw [readDocument_eq_ok_iff]
  constructor
  · rintro ⟨value,holds,accepted⟩
    obtain ⟨stands,sound⟩ := (read_eq_ok_iff maxLevels value tree).mp accepted
    have regular := Json.regular_outline text.toList
    rw [holds] at regular
    obtain rfl := tree.readsBack value maxLevels stands regular sound
    exact ⟨holds,Outline.depth_le _ maxLevels sound⟩
  · rintro ⟨holds,shallow⟩
    exact ⟨tree.write.outline,holds,(read_eq_ok_iff maxLevels _ tree).mpr
      ⟨ofOutline?_write tree,tree.write.fault?_outline maxLevels shallow⟩⟩

/-- Trees are read from their own values and no others. A document that holds a value of allowed
depth is read as a tree exactly if the value belongs to the grammar of trees, and the tree is then
written as that value; a tree that is written no deeper is read back. -/
theorem readDocument_isTree :
    (∀ text value, Holds text value → value.depth ≤ maxLevels →
      ((∃ tree, readDocument read text = .ok tree) ↔ IsTree value) ∧
      ∀ tree, readDocument read text = .ok tree → Holds tree.write.render value) ∧
    ∀ tree : Tree, ∃ value, Holds tree.write.render value ∧
      (readDocument read tree.write.render = .ok tree ↔ value.depth ≤ maxLevels) := by
  have written (tree : Tree) : Holds tree.write.render tree.write.outline :=
    Json.holds_render tree.write (hasWords_write tree)
  have own (text : String) (value : Outline) (holds : Holds text value) (tree : Tree)
      (accepted : readDocument read text = .ok tree) : value = tree.write.outline :=
    holds.unique _ _ _ ((readDocument_eq_ok_iff_holds text tree).mp accepted).1
  refine ⟨fun text value holds shallow => ⟨⟨?_,?_⟩,?_⟩,fun tree => ⟨tree.write.outline,written tree,?_⟩⟩
  · rintro ⟨tree,accepted⟩
    rw [own text value holds tree accepted]
    exact isTree_outline_write tree
  · intro isTree
    obtain ⟨tree,rfl⟩ := isTree.exists_write value
    exact ⟨tree,(readDocument_eq_ok_iff_holds text tree).mpr ⟨holds,shallow⟩⟩
  · intro tree accepted
    rw [own text value holds tree accepted]
    exact written tree
  · rw [readDocument_eq_ok_iff_holds]
    exact and_iff_right (written tree)

def sumTree : Tree := node "Sum" (leaf "Digit" "1") [node "Tail" (leaf "Sign" "+") []]

theorem sumTree_read : ∃ tree,
    readDocument read "[\"Sum\",[[\"Digit\",\"1\"],[\"Tail\",[[\"Sign\",\"+\"]]]]]" = .ok tree ∧
      Holds tree.write.render sumTree.write.outline := by
  have text : sumTree.write.render =
      "[\"Sum\",[[\"Digit\",\"1\"],[\"Tail\",[[\"Sign\",\"+\"]]]]]" := by decide
  have holds := Json.holds_render sumTree.write (hasWords_write sumTree)
  obtain ⟨accepts,writes⟩ := readDocument_isTree.1 _ _ holds (by decide)
  obtain ⟨tree,accepted⟩ := accepts.mpr (isTree_outline_write sumTree)
  exact ⟨tree,text ▸ accepted,writes tree accepted⟩

end Tree

end ParseScope
