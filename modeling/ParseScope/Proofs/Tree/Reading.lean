import ParseScope.Proofs.Text.Lines
import ParseScope.Proofs.Text.OneLine
import ParseScope.Proofs.Tree.Drawing

/-!
Drawings read back. A line tells the depth of its node and what is written of it, and these rows,
parents before children, tell the tree. Only texts with the same escapes are not told apart.
-/
namespace ParseScope.Tree

mutual

/-- The tree with the escapes of its texts in place of them. -/
def escaped : Tree → Tree
  | leaf label text => leaf label (String.ofList (Text.oneLine text.toList))
  | node label first others => node label first.escaped (escapedAll others)

def escapedAll : List Tree → List Tree
  | [] => []
  | tree :: others => tree.escaped :: escapedAll others

end

/-- What a margin may show at every second place, so that a label may not begin with it. -/
def leads : List Char := [' ', '│', '├', '└']

/-- A label is not taken for a margin, for a text or for more lines than one. -/
structure PlainLabel (label : String) : Prop where
  begins : ∃ c ∈ label.toList.head?, c ∉ leads
  unbroken : '\n' ∉ label.toList
  unquoted : '"' ∉ label.toList

def Plain (tree : Tree) : Prop := ∀ place ∈ tree.places, PlainLabel place.node.label

/-! ### Lines -/

/-- What a line shows for a step from the root. -/
def pieces : List (List Char) := [[' ', ' '], ['│', ' '], ['├', '─'], ['└', '─']]

inductive IsMargin : Nat → List Char → Prop
  | root : IsMargin 0 []
  | step {depth : Nat} {margin : List Char} (piece : List Char) (known : piece ∈ pieces)
      (inner : IsMargin depth margin) : IsMargin (depth + 1) (piece ++ margin)

/-- The depth of the node of a line, and what is written of the node. -/
def readLine : List Char → Nat × List Char
  | c :: d :: rest =>
    if c ∈ leads then ((readLine rest).1 + 1, (readLine rest).2) else (0, c :: d :: rest)
  | line => (0, line)

theorem mem_pieces {piece : List Char} (known : piece ∈ pieces) :
    ∃ c ∈ leads, ∃ d, piece = [c,d] ∧ '\n' ∉ piece := by
  simp only [pieces,List.mem_cons,List.not_mem_nil,or_false] at known
  rcases known with rfl | rfl | rfl | rfl
  · exact ⟨' ',by decide,' ',rfl,by decide⟩
  · exact ⟨'│',by decide,' ',rfl,by decide⟩
  · exact ⟨'├',by decide,'─',rfl,by decide⟩
  · exact ⟨'└',by decide,'─',rfl,by decide⟩

theorem IsMargin.unbroken {depth : Nat} {margin : List Char} (isMargin : IsMargin depth margin) :
    '\n' ∉ margin := by
  induction isMargin with
  | root => exact List.not_mem_nil
  | step piece known _ ih =>
    obtain ⟨_,_,_,_,unbroken⟩ := mem_pieces known
    exact List.not_mem_append unbroken ih

/-- The margin ends where no lead stands in its turn. -/
theorem IsMargin.readLine_append {depth : Nat} {margin : List Char}
    (isMargin : IsMargin depth margin) (content : List Char)
    (begins : ∃ c ∈ content.head?, c ∉ leads) : readLine (margin ++ content) = (depth,content) := by
  induction isMargin with
  | root =>
    obtain ⟨c,head,other⟩ := begins
    match content,head with
    | [_],_ => rfl
    | first :: second :: rest,head =>
      obtain rfl := Option.some.inj head
      exact if_neg other
  | step piece known _ ih =>
    obtain ⟨c,lead,d,rfl,_⟩ := mem_pieces known
    simp only [List.cons_append,List.nil_append,readLine,if_pos lead,ih]

theorem isMargin_flatMap {α : Type} (steps : List α) (piece : α → List Char)
    (known : ∀ step ∈ steps, piece step ∈ pieces) :
    IsMargin steps.length (steps.flatMap piece) := by
  induction steps with
  | nil => exact .root
  | cons step steps ih =>
    obtain ⟨first,others⟩ := List.forall_mem_cons.mp known
    exact .step (piece step) first (ih others)

theorem isMargin_margin (tree : Tree) (path : List Nat) (style : Style) :
    IsMargin path.length (tree.margin path style) := by
  cases style with
  | bars =>
    have bars := isMargin_flatMap (List.replicate path.length ['│',' ']) id fun step member => by
      rw [List.eq_of_mem_replicate member]
      decide
    rw [List.length_replicate,← List.flatten_eq_flatMap] at bars
    exact bars
  | connectors =>
    have branches := isMargin_flatMap (List.range path.length) (fun k =>
      if k + 1 < path.length then if tree.lastAt path k then [' ',' '] else ['│',' ']
      else if tree.lastAt path k then ['└','─'] else ['├','─']) fun k _ => by
        split <;> split <;> decide
    rw [List.length_range] at branches
    exact branches

/-- Every line of a drawing is a margin as long as the path to its node, and the content of the
node. -/
theorem exists_isMargin_lineAt (tree : Tree) (style : Style) (place : Place) :
    ∃ margin, IsMargin place.path.length margin ∧
      Pending.lineAt style ⟨tree,[],0,true⟩ place = margin ++ place.node.content := by
  cases style with
  | bars =>
    refine ⟨_,tree.isMargin_margin place.path .bars,?_⟩
    simp [Pending.lineAt,margin]
  | connectors =>
    by_cases root : place.path = []
    · rw [root]
      exact ⟨[],.root,by simp [Pending.lineAt,Pending.margin,root]⟩
    · refine ⟨_,tree.isMargin_margin place.path .connectors,?_⟩
      simp [Pending.lineAt,Pending.inner,root]

theorem lines_eq_map (tree : Tree) (style : Style) :
    tree.lines style = tree.places.map (Pending.lineAt style ⟨tree,[],0,true⟩) := by
  simp [lines,drawStack_eq]

/-! ### Contents -/

theorem content_begins (tree : Tree) (plain : PlainLabel tree.label) :
    ∃ c ∈ tree.content.head?, c ∉ leads := by
  obtain ⟨c,head,other⟩ := plain.begins
  refine ⟨c,?_,other⟩
  cases tree with
  | leaf label text =>
    rw [content,List.append_assoc]
    exact List.mem_head?_append_of_mem_head? head
  | node label first others => exact head

theorem content_unbroken (tree : Tree) (plain : PlainLabel tree.label) : '\n' ∉ tree.content := by
  cases tree with
  | leaf label text =>
    have unbroken : '\n' ∉ label.toList := plain.unbroken
    simp [content,Text.feed_not_mem_oneLine,unbroken]
  | node label first others => exact plain.unbroken

/-! ### Rows -/

/-- The depths and contents of the nodes, parents before children, when the root has this depth. -/
def rows (depth : Nat) (tree : Tree) : List (Nat × List Char) :=
  tree.places.map fun place => (depth + place.path.length, place.node.content)

/-- A drawing of a tree tells its rows. -/
theorem map_readLine_lines (tree : Tree) (style : Style) (plain : tree.Plain) :
    (tree.lines style).map readLine = tree.rows 0 := by
  rw [lines_eq_map,List.map_map,rows]
  apply List.map_congr_left
  intro place member
  obtain ⟨margin,isMargin,line⟩ := exists_isMargin_lineAt tree style place
  rw [Function.comp_apply,line,Nat.zero_add]
  exact isMargin.readLine_append _ (content_begins place.node (plain place member))

/-- A drawing keeps its lines apart. -/
theorem lines_toList_draw (tree : Tree) (style : Style) (plain : tree.Plain) :
    Text.lines (tree.draw style).toList = tree.lines style ++ [[]] := by
  rw [draw,String.toList_ofList]
  apply Text.lines_flatMap
  rw [lines_eq_map,List.forall_mem_map]
  intro place member
  obtain ⟨margin,isMargin,line⟩ := exists_isMargin_lineAt tree style place
  rw [line]
  exact List.not_mem_append isMargin.unbroken (content_unbroken place.node (plain place member))

theorem map_placesFrom (depth index : Nat) (children : List Tree) :
    (placesFrom index children).map
        (fun place => (depth + place.path.length,place.node.content)) =
      children.flatMap (rows (depth + 1)) := by
  induction children generalizing index with
  | nil => rfl
  | cons child others ih =>
    rw [placesFrom,List.map_append,List.map_map,ih,List.flatMap_cons]
    congr 1
    apply List.map_congr_left
    intro place _
    simp only [Function.comp_apply,Place.below,List.length_cons,Prod.mk.injEq,and_true]
    omega

theorem rows_leaf (depth : Nat) (label text : String) :
    (leaf label text).rows depth = [(depth,(leaf label text).content)] := rfl

theorem rows_node (depth : Nat) (label : String) (first : Tree) (others : List Tree) :
    (node label first others).rows depth =
      (depth,label.toList) :: (first :: others).flatMap (rows (depth + 1)) := by
  rw [rows,places_node,List.map_cons,map_placesFrom]
  rfl

/-- The root comes first. -/
theorem exists_rows_cons (depth : Nat) (tree : Tree) :
    ∃ below, tree.rows depth = (depth,tree.content) :: below := by
  cases tree with
  | leaf label text => exact ⟨[],rfl⟩
  | node label first others => exact ⟨_,rows_node depth label first others⟩

theorem Plain.root {tree : Tree} (plain : tree.Plain) : PlainLabel tree.label := by
  cases tree with
  | leaf label text => exact plain ⟨[],_⟩ (by simp [places])
  | node label first others => exact plain ⟨[],_⟩ (by simp [places])

theorem Plain.child {label : String} {first : Tree} {others : List Tree}
    (plain : (node label first others).Plain) (child : Tree) (member : child ∈ first :: others) :
    child.Plain := by
  intro place inside
  obtain ⟨index,found⟩ := List.mem_iff_getElem?.mp member
  apply plain (place.below index)
  rw [places_node]
  apply List.mem_cons_of_mem
  exact (mem_placesFrom_iff 0 _ _).mpr ⟨index,child,place.path,found,by simp [Place.below],inside⟩

/-! ### Trees -/

theorem append_stop_injective {stop : Char} (front other rest behind : List Char)
    (free : stop ∉ front) (otherFree : stop ∉ other)
    (same : front ++ stop :: rest = other ++ stop :: behind) : front = other ∧ rest = behind := by
  induction front generalizing other with
  | nil =>
    cases other with
    | nil => exact ⟨rfl,(List.cons.inj same).2⟩
    | cons d other =>
      obtain ⟨rfl,_⟩ := List.cons.inj same
      exact absurd (List.mem_cons_self ..) otherFree
  | cons c front ih =>
    cases other with
    | nil =>
      obtain ⟨rfl,_⟩ := List.cons.inj same
      exact absurd (List.mem_cons_self ..) free
    | cons d other =>
      obtain ⟨rfl,tails⟩ := List.cons.inj same
      obtain ⟨rfl,rests⟩ := ih other (mt (List.mem_cons_of_mem _) free)
        (mt (List.mem_cons_of_mem _) otherFree) tails
      exact ⟨rfl,rests⟩

/-- The first quote of a content ends the label of a leaf. -/
theorem content_leaf_injective {label other text otherText : String} (plain : PlainLabel label)
    (otherPlain : PlainLabel other)
    (same : (leaf label text).content = (leaf other otherText).content) :
    label = other ∧ Text.oneLine text.toList = Text.oneLine otherText.toList := by
  have free {label : String} (plain : PlainLabel label) : '"' ∉ label.toList ++ [' '] := by
    simpa using plain.unquoted
  have split (label text : String) : (leaf label text).content =
      (label.toList ++ [' ']) ++ '"' :: (Text.oneLine text.toList ++ ['"']) := by
    simp [content]
  rw [split,split] at same
  obtain ⟨labels,texts⟩ := append_stop_injective _ _ _ _ (free plain) (free otherPlain) same
  exact ⟨String.toList_inj.mp (List.append_cancel_right labels),List.append_cancel_right texts⟩

theorem content_leaf_ne {label text other : String} (plain : PlainLabel other) :
    (leaf label text).content ≠ other.toList := by
  intro same
  have quoted : '"' ∈ (leaf label text).content := by simp [content]
  rw [same] at quoted
  exact plain.unquoted quoted

/-- The rows that follow do not belong to a node at this depth. -/
def Ends (depth : Nat) (rest : List (Nat × List Char)) : Prop := ∀ row ∈ rest.head?, row.1 ≤ depth

theorem ends_siblings {depth : Nat} {rest : List (Nat × List Char)} (trees : List Tree)
    (ends : Ends depth rest) : Ends (depth + 1) (trees.flatMap (rows (depth + 1)) ++ rest) := by
  cases trees with
  | nil => exact fun row head => Nat.le_succ_of_le (ends row head)
  | cons tree others =>
    obtain ⟨below,rows⟩ := exists_rows_cons (depth + 1) tree
    rw [List.flatMap_cons,rows]
    rintro row head
    obtain rfl := Option.some.inj head
    exact Nat.le_refl _

/-- No rows of siblings begin where those of a node at this depth end. -/
theorem Ends.ne_siblings {depth : Nat} {rest behind : List (Nat × List Char)}
    (ends : Ends depth rest) (tree : Tree) (others : List Tree) :
    rest ≠ (tree :: others).flatMap (rows (depth + 1)) ++ behind := by
  rintro rfl
  obtain ⟨below,rows⟩ := exists_rows_cons (depth + 1) tree
  rw [List.flatMap_cons,rows] at ends
  exact Nat.not_succ_le_self depth (ends _ rfl)

/-- The rows of a tree tell it, and where they end, up to the escapes of its texts. -/
def Told (tree : Tree) : Prop :=
  ∀ (other : Tree) (depth : Nat) (rest behind : List (Nat × List Char)), other.Plain →
    Ends depth rest → Ends depth behind → tree.rows depth ++ rest = other.rows depth ++ behind →
    tree.escaped = other.escaped ∧ rest = behind

theorem told_siblings (trees others : List Tree) (depth : Nat) (rest behind : List (Nat × List Char))
    (told : ∀ tree ∈ trees, tree.Told) (plain : ∀ other ∈ others, other.Plain)
    (ends : Ends depth rest) (endsBehind : Ends depth behind)
    (same : trees.flatMap (rows (depth + 1)) ++ rest =
      others.flatMap (rows (depth + 1)) ++ behind) :
    escapedAll trees = escapedAll others ∧ rest = behind := by
  induction trees generalizing others with
  | nil =>
    cases others with
    | nil => exact ⟨rfl,same⟩
    | cons other others => exact absurd same (ends.ne_siblings other others)
  | cons tree trees ih =>
    cases others with
    | nil => exact absurd same.symm (endsBehind.ne_siblings tree trees)
    | cons other others =>
      obtain ⟨toldTree,told⟩ := List.forall_mem_cons.mp told
      obtain ⟨plainOther,plain⟩ := List.forall_mem_cons.mp plain
      rw [List.flatMap_cons,List.flatMap_cons,List.append_assoc,List.append_assoc] at same
      obtain ⟨first,siblings⟩ := toldTree other (depth + 1) _ _ plainOther
        (ends_siblings trees ends) (ends_siblings others endsBehind) same
      obtain ⟨more,rests⟩ := ih others told plain siblings
      exact ⟨by rw [escapedAll,escapedAll,first,more],rests⟩

theorem told (tree : Tree) (plain : tree.Plain) : tree.Told := by
  induction tree with
  | leaf label text =>
    intro other depth rest behind otherPlain _ _ same
    cases other with
    | leaf otherLabel otherText =>
      rw [rows_leaf,rows_leaf] at same
      obtain ⟨root,rests⟩ := List.cons.inj same
      obtain ⟨labels,texts⟩ := content_leaf_injective plain.root otherPlain.root (Prod.mk.inj root).2
      exact ⟨congrArg₂ leaf labels (congrArg String.ofList texts),rests⟩
    | node otherLabel first others =>
      rw [rows_leaf,rows_node] at same
      obtain ⟨root,_⟩ := List.cons.inj same
      exact absurd (Prod.mk.inj root).2 (content_leaf_ne otherPlain.root)
  | node label first others ih =>
    intro other depth rest behind otherPlain ends endsBehind same
    cases other with
    | leaf otherLabel otherText =>
      rw [rows_node,rows_leaf] at same
      obtain ⟨root,_⟩ := List.cons.inj same
      exact absurd (Prod.mk.inj root).2.symm (content_leaf_ne plain.root)
    | node otherLabel otherFirst otherOthers =>
      rw [rows_node,rows_node] at same
      obtain ⟨root,below⟩ := List.cons.inj same
      obtain rfl := String.toList_inj.mp (Prod.mk.inj root).2
      obtain ⟨children,rests⟩ := told_siblings (first :: others) (otherFirst :: otherOthers) depth
        rest behind (fun child member => ih child member (plain.child child member))
        otherPlain.child ends endsBehind below
      obtain ⟨firsts,more⟩ := List.cons.inj children
      exact ⟨by rw [escaped,escaped,firsts,more],rests⟩

/-- Trees that are drawn alike in some style differ at most in texts with the same escapes. Their
labels are such that none is taken for part of a margin, a text or another line. -/
theorem escaped_eq_of_draw_eq (tree other : Tree) (style : Style) (plain : tree.Plain)
    (otherPlain : other.Plain) (alike : tree.draw style = other.draw style) :
    tree.escaped = other.escaped := by
  have lines : tree.lines style = other.lines style := by
    have lines := congrArg (fun drawing => Text.lines drawing.toList) alike
    rw [lines_toList_draw tree style plain,lines_toList_draw other style otherPlain] at lines
    exact List.append_cancel_right lines
  have rows : tree.rows 0 = other.rows 0 := by
    rw [← map_readLine_lines tree style plain,← map_readLine_lines other style otherPlain,lines]
  exact (tree.told plain other 0 [] [] otherPlain nofun nofun (by rw [rows])).1

/-- Both print as

```text
sum
├─group
│ └─num "1\n└─x "2""
└─op "+"
```
-/
theorem carriageReturn_drawn_alike :
    let first := node "sum" (node "group" (leaf "num" "1\r\n└─x \"2\"") []) [leaf "op" "+"]
    let second := node "sum" (node "group" (leaf "num" "1\n└─x \"2\"") []) [leaf "op" "+"]
    first.Plain ∧ second.Plain ∧ first ≠ second ∧
      first.draw .connectors = second.draw .connectors ∧ first.escaped = second.escaped := by
  have plain (text : String) :
      (node "sum" (node "group" (leaf "num" text) []) [leaf "op" "+"]).Plain := by
    have sum : PlainLabel "sum" := ⟨⟨'s',rfl,by decide⟩,by decide,by decide⟩
    have group : PlainLabel "group" := ⟨⟨'g',rfl,by decide⟩,by decide,by decide⟩
    have num : PlainLabel "num" := ⟨⟨'n',rfl,by decide⟩,by decide,by decide⟩
    have op : PlainLabel "op" := ⟨⟨'o',rfl,by decide⟩,by decide,by decide⟩
    simp [Plain,places,placesFrom,Place.below,label,sum,group,num,op]
  intro first second
  have alike : first.draw .connectors = second.draw .connectors := by decide +kernel
  exact ⟨plain _,plain _,by simp [first,second],alike,
    escaped_eq_of_draw_eq first second .connectors (plain _) (plain _) alike⟩

end ParseScope.Tree
