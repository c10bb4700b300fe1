import ParseScope.Json.Outline
import ParseScope.Proofs.Json.Token

/-!
Written values are read back: the outline of the compact text of a value is the value itself, part
by part. It has no fault for a reader that may open as many containers as the value nests.
-/
namespace ParseScope.Json

/-! ### Depth -/

mutual

/-- The greatest number of lists and objects of a value that are open at once. -/
def Outline.depth : Outline → Nat
  | .scalar _ => 0
  | .list items => items.depth + 1
  | .object members => members.depth + 1

def Items.depth : Items → Nat
  | .done _ => 0
  | .item first rest => max first.depth rest.depth

def Members.depth : Members → Nat
  | .done _ => 0
  | .member _ value rest => max value.depth rest.depth

end

mutual

/-- A value without a fault does not nest too deep. -/
theorem Outline.depth_le (value : Outline) (levels : Nat) (sound : value.fault? levels = none) :
    value.depth ≤ levels := by
  match value with
  | .scalar piece => exact Nat.zero_le levels
  | .list items =>
    by_cases bottom : levels = 0
    · simp [Outline.fault?,bottom] at sound
    · rw [Outline.fault?,if_neg bottom] at sound
      have inside := Items.depth_le items (levels - 1) sound
      rw [Outline.depth]
      omega
  | .object members =>
    by_cases bottom : levels = 0
    · simp [Outline.fault?,bottom] at sound
    · rw [Outline.fault?,if_neg bottom] at sound
      have inside := Members.depth_le members (levels - 1) sound
      rw [Outline.depth]
      omega

theorem Items.depth_le (items : Items) (levels : Nat) (sound : items.fault? levels = none) :
    items.depth ≤ levels := by
  match items with
  | .done close => exact Nat.zero_le levels
  | .item first rest =>
    obtain ⟨ofFirst,ofRest⟩ := Option.or_eq_none_iff.mp sound
    exact Nat.max_le.mpr ⟨Outline.depth_le first levels ofFirst,Items.depth_le rest levels ofRest⟩

theorem Members.depth_le (members : Members) (levels : Nat)
    (sound : members.fault? levels = none) : members.depth ≤ levels := by
  match members with
  | .done close => exact Nat.zero_le levels
  | .member (.error fault) value rest => simp [Members.fault?] at sound
  | .member (.ok name) value rest =>
    obtain ⟨ofValue,ofRest⟩ := Option.or_eq_none_iff.mp sound
    exact Nat.max_le.mpr ⟨Outline.depth_le value levels ofValue,Members.depth_le rest levels ofRest⟩

end

/-! ### Written values -/

namespace Value

mutual

/-- A value as the outline of a text that holds it. -/
def outline : Value → Outline
  | null => .scalar ⟨.ok .null, none⟩
  | bool value => .scalar ⟨.ok (.bool value), none⟩
  | integer value => .scalar ⟨.ok (.number (.integer value)), none⟩
  | string value => .scalar ⟨.ok (.string value), none⟩
  | list items => .list (outlineItems items)
  | object members => .object (outlineMembers members)

def outlineItems : List Value → Items
  | [] => .done .closed
  | item :: rest => .item item.outline (outlineItems rest)

def outlineMembers : List (String × Value) → Members
  | [] => .done .closed
  | (name, value) :: rest => .member (.ok name) value.outline (outlineMembers rest)

end

mutual

/-- A written value has no fault but its depth. -/
theorem fault?_outline (value : Value) (levels : Nat) (shallow : value.outline.depth ≤ levels) :
    value.outline.fault? levels = none := by
  match value with
  | null | bool _ | integer _ | string _ => rfl
  | list items =>
    rw [Value.outline,Outline.depth] at shallow
    have positive : levels ≠ 0 := by omega
    rw [Value.outline,Outline.fault?,if_neg positive]
    exact fault?_outlineItems items (levels - 1) (by omega)
  | object members =>
    rw [Value.outline,Outline.depth] at shallow
    have positive : levels ≠ 0 := by omega
    rw [Value.outline,Outline.fault?,if_neg positive]
    exact fault?_outlineMembers members (levels - 1) (by omega)

theorem fault?_outlineItems (items : List Value) (levels : Nat)
    (shallow : (outlineItems items).depth ≤ levels) :
    (outlineItems items).fault? levels = none := by
  match items with
  | [] => rfl
  | item :: rest =>
    obtain ⟨ofItem,ofRest⟩ := Nat.max_le.mp shallow
    exact Option.or_eq_none_iff.mpr
      ⟨fault?_outline item levels ofItem,fault?_outlineItems rest levels ofRest⟩

theorem fault?_outlineMembers (members : List (String × Value)) (levels : Nat)
    (shallow : (outlineMembers members).depth ≤ levels) :
    (outlineMembers members).fault? levels = none := by
  match members with
  | [] => rfl
  | (name,value) :: rest =>
    obtain ⟨ofValue,ofRest⟩ := Nat.max_le.mp shallow
    exact Option.or_eq_none_iff.mpr
      ⟨fault?_outline value levels ofValue,fault?_outlineMembers rest levels ofRest⟩

end

mutual

/-- A written value that nests deeper than is allowed has no other fault before that. -/
theorem fault?_outline_deep (value : Value) (levels : Nat) (deep : levels < value.outline.depth) :
    value.outline.fault? levels = some .tooDeep := by
  match value with
  | null | bool _ | integer _ | string _ => exact absurd deep (Nat.not_lt_zero levels)
  | list items =>
    rw [Value.outline,Outline.depth] at deep
    rw [Value.outline,Outline.fault?]
    split
    next => rfl
    next => exact fault?_outlineItems_deep items (levels - 1) (by omega)
  | object members =>
    rw [Value.outline,Outline.depth] at deep
    rw [Value.outline,Outline.fault?]
    split
    next => rfl
    next => exact fault?_outlineMembers_deep members (levels - 1) (by omega)

theorem fault?_outlineItems_deep (items : List Value) (levels : Nat)
    (deep : levels < (outlineItems items).depth) :
    (outlineItems items).fault? levels = some .tooDeep := by
  match items with
  | [] => exact absurd deep (Nat.not_lt_zero levels)
  | item :: rest =>
    rw [outlineItems,Items.depth] at deep
    rw [outlineItems,Items.fault?]
    by_cases ofItem : item.outline.depth ≤ levels
    · have ofRest : levels < (outlineItems rest).depth := by omega
      rw [fault?_outline item levels ofItem,Option.none_or]
      exact fault?_outlineItems_deep rest levels ofRest
    · rw [fault?_outline_deep item levels (Nat.lt_of_not_le ofItem),Option.some_or]

theorem fault?_outlineMembers_deep (members : List (String × Value)) (levels : Nat)
    (deep : levels < (outlineMembers members).depth) :
    (outlineMembers members).fault? levels = some .tooDeep := by
  match members with
  | [] => exact absurd deep (Nat.not_lt_zero levels)
  | (name,value) :: rest =>
    rw [outlineMembers,Members.depth] at deep
    simp only [outlineMembers,Members.fault?]
    by_cases ofValue : value.outline.depth ≤ levels
    · have ofRest : levels < (outlineMembers rest).depth := by omega
      rw [fault?_outline value levels ofValue,Option.none_or]
      exact fault?_outlineMembers_deep rest levels ofRest
    · rw [fault?_outline_deep value levels (Nat.lt_of_not_le ofValue),Option.some_or]

end

theorem depth_outlineItems_le_iff (items : List Value) (levels : Nat) :
    (outlineItems items).depth ≤ levels ↔ ∀ item ∈ items, item.outline.depth ≤ levels := by
  induction items with
  | nil => simp [outlineItems,Items.depth]
  | cons item rest ih => rw [outlineItems,Items.depth,Nat.max_le,ih,List.forall_mem_cons]

theorem depth_outlineMembers_le_iff (members : List (String × Value)) (levels : Nat) :
    (outlineMembers members).depth ≤ levels ↔
      ∀ member ∈ members, member.2.outline.depth ≤ levels := by
  induction members with
  | nil => simp [outlineMembers,Members.depth]
  | cons member rest ih => rw [outlineMembers,Members.depth,Nat.max_le,ih,List.forall_mem_cons]

/-- A list of scalars opens no container but itself. -/
theorem depth_list_le {α : Type} (write : α → Value)
    (flat : ∀ item, (write item).outline.depth = 0) (items : List α) :
    (list (items.map write)).outline.depth ≤ 1 := by
  rw [Value.outline,Outline.depth]
  apply Nat.succ_le_succ
  rw [depth_outlineItems_le_iff _ 0,List.forall_mem_map]
  exact fun item _ => Nat.le_of_eq (flat item)

mutual

/-- Whether all integers in a value are read as such; others would be read as doubles. -/
def HasWords : Value → Prop
  | null | bool _ | string _ => True
  | integer value => IsWord value
  | list items => AllHaveWords items
  | object members => MembersHaveWords members

def AllHaveWords : List Value → Prop
  | [] => True
  | item :: rest => item.HasWords ∧ AllHaveWords rest

def MembersHaveWords : List (String × Value) → Prop
  | [] => True
  | (_, value) :: rest => value.HasWords ∧ MembersHaveWords rest

end

theorem allHaveWords_iff (items : List Value) :
    AllHaveWords items ↔ ∀ item ∈ items, item.HasWords := by
  induction items with
  | nil => simp [AllHaveWords]
  | cons item rest ih => rw [AllHaveWords,ih,List.forall_mem_cons]

theorem hasWords_list {α : Type} (write : α → Value) (words : ∀ item, (write item).HasWords)
    (items : List α) : (list (items.map write)).HasWords := by
  rw [HasWords,allHaveWords_iff,List.forall_mem_map]
  exact fun item _ => words item

theorem membersHaveWords_iff (members : List (String × Value)) :
    MembersHaveWords members ↔ ∀ member ∈ members, member.2.HasWords := by
  induction members with
  | nil => simp [MembersHaveWords]
  | cons member rest ih => rw [MembersHaveWords,ih,List.forall_mem_cons]

end Value

/-! ### Reading what was written -/

/-- A context in which a value comes next. -/
inductive Due : Context → Prop
  | whole : Due []
  | firstItem (items : List Outline) (outer : Context) : Due (.list items .first :: outer)
  | nextItem (items : List Outline) (outer : Context) : Due (.list items .next :: outer)
  | member (members : List (Except Fault String × Outline)) (key : Except Fault String)
      (outer : Context) : Due (.member members key true :: outer)

namespace State

/-- Where a value is due, any token but a closing bracket is taken as its beginning. -/
theorem step_due (context : Context) (due : Due context) (token : Token)
    (opens : token ≠ .closeList) : step (.inside context) token = value context token := by
  cases due with
  | whole => rfl
  | firstItem items outer =>
    cases token with
    | closeList => exact absurd rfl opens
    | openList | openObject | closeObject | comma | colon | string | scalar | stray => rfl
  | nextItem items outer =>
    cases token with
    | closeList => exact absurd rfl opens
    | openList | openObject | closeObject | comma | colon | string | scalar | stray => rfl
  | member members key outer => rfl

theorem step_scalar (context : Context) (due : Due context) (scalar : Scalar) :
    step (.inside context) (.scalar ⟨.ok scalar,none⟩) =
      resume (.scalar ⟨.ok scalar,none⟩) context := by
  rw [step_due context due _ (by simp)]
  rfl

theorem step_string (context : Context) (due : Due context) (text : String) :
    step (.inside context) (.string ⟨.ok text,none⟩) =
      resume (.scalar ⟨.ok (.string text),none⟩) context := by
  rw [step_due context due _ (by simp)]
  rfl

theorem step_openList (context : Context) (due : Due context) :
    step (.inside context) .openList = .inside (.list [] .first :: context) :=
  step_due context due _ (by simp)

theorem step_openObject (context : Context) (due : Due context) :
    step (.inside context) .openObject = .inside (.object [] .first :: context) :=
  step_due context due _ (by simp)

end State

/-- The state after all tokens of a text. -/
def run (state : State) (text : List Char) : State := (tokens text).foldl State.step state

theorem run_of_tokens (state : State) (text rest : List Char) (token : Token)
    (first : tokens text = token :: tokens rest) :
    run state text = run (state.step token) rest := by
  rw [run,first]
  rfl

section Punctuation

variable (context : Context) (rest : List Char)

theorem run_openList (due : Due context) :
    run (.inside context) ('[' :: rest) = run (.inside (.list [] .first :: context)) rest := by
  rw [run_of_tokens _ _ rest _ (tokens_openList rest),State.step_openList context due]

theorem run_closeList_first :
    run (.inside (.list [] .first :: context)) (']' :: rest) =
      run (State.resume (.list (.done .closed)) context) rest :=
  run_of_tokens _ _ rest _ (tokens_closeList rest)

theorem run_comma_item (items : List Outline) :
    run (.inside (.list items .separator :: context)) (',' :: rest) =
      run (.inside (.list items .next :: context)) rest :=
  run_of_tokens _ _ rest _ (tokens_comma rest)

theorem run_closeList (items : List Outline) :
    run (.inside (.list items .separator :: context)) (']' :: rest) =
      run (State.resume (.list (.ofReversed items .closed)) context) rest :=
  run_of_tokens _ _ rest _ (tokens_closeList rest)

theorem run_openObject (due : Due context) :
    run (.inside context) ('\x7b' :: rest) = run (.inside (.object [] .first :: context)) rest := by
  rw [run_of_tokens _ _ rest _ (tokens_openObject rest),State.step_openObject context due]

theorem run_closeObject_first :
    run (.inside (.object [] .first :: context)) ('\x7d' :: rest) =
      run (State.resume (.object (.done .closed)) context) rest :=
  run_of_tokens _ _ rest _ (tokens_closeObject rest)

theorem run_comma_member (members : List (Except Fault String × Outline)) :
    run (.inside (.object members .separator :: context)) (',' :: rest) =
      run (.inside (.object members .next :: context)) rest :=
  run_of_tokens _ _ rest _ (tokens_comma rest)

theorem run_closeObject (members : List (Except Fault String × Outline)) :
    run (.inside (.object members .separator :: context)) ('\x7d' :: rest) =
      run (State.resume (.object (.ofReversed members .closed)) context) rest :=
  run_of_tokens _ _ rest _ (tokens_closeObject rest)

/-- The key of a member, with its colon. -/
theorem run_key (members : List (Except Fault String × Outline)) (phase : Phase)
    (awaits : phase ≠ .separator) (name : String) :
    run (.inside (.object members phase :: context)) (Value.literal name ++ ':' :: rest) =
      run (.inside (.member members (.ok name) true :: context)) rest := by
  rw [run_of_tokens _ _ _ _ (tokens_literal name (':' :: rest))]
  cases phase with
  | separator => exact absurd rfl awaits
  | first => exact run_of_tokens _ _ rest _ (tokens_colon rest)
  | next => exact run_of_tokens _ _ rest _ (tokens_colon rest)

end Punctuation

theorem ends_compactItems (items : List Value) (rest : List Char) :
    Ends (Value.compactItems items ++ ']' :: rest) := by
  cases items with
  | nil => exact .closeList rest
  | cons item others =>
    rw [Value.compactItems]
    exact .comma _

theorem ends_compactMembers (members : List (String × Value)) (rest : List Char) :
    Ends (Value.compactMembers members ++ '\x7d' :: rest) := by
  cases members with
  | nil => exact .closeObject rest
  | cons member others =>
    rw [Value.compactMembers]
    exact .comma _

/-- Items read before others stand before them. -/
def Items.after (before : List Outline) (items : Items) : Items :=
  before.foldl (fun rest item => .item item rest) items

/-- Members read before others stand before them. -/
def Members.after (before : List (Except Fault String × Outline)) (members : Members) : Members :=
  before.foldl (fun rest (key, value) => .member key value rest) members

open Value State in
mutual

/-- Reading a written value where one is due goes on after its outline. -/
theorem run_compact (value : Value) (words : value.HasWords) (context : Context)
    (due : Due context) (rest : List Char) (ends : Ends rest) :
    run (.inside context) (value.compact ++ rest) = run (resume value.outline context) rest := by
  match value with
  | .null =>
    rw [compact,run_of_tokens _ _ rest _ (tokens_null rest),step_scalar context due,
      Value.outline]
  | .bool value =>
    rw [compact,run_of_tokens _ _ rest _ (tokens_bool value rest),step_scalar context due,
      Value.outline]
  | .integer value =>
    rw [compact,run_of_tokens _ _ rest _ (tokens_integer value rest words ends),
      step_scalar context due,Value.outline]
  | .string value =>
    rw [compact,run_of_tokens _ _ rest _ (tokens_literal value rest),step_string context due,
      Value.outline]
  | .list [] =>
    rw [compact,List.cons_append,List.cons_append,run_openList context _ due,run_closeList_first]
    rfl
  | .list (first :: others) =>
    -- The first item is followed by a comma or the bracket, so a number in it ends there.
    simp only [compact,List.cons_append,List.append_assoc,List.nil_append]
    rw [run_openList context _ due,run_compact first words.1 (.list [] .first :: context)
      (.firstItem [] context) _ (ends_compactItems others rest)]
    exact run_compactItems others words.2 context [first.outline] rest
  | .object [] =>
    rw [compact,List.cons_append,List.cons_append,run_openObject context _ due,
      run_closeObject_first]
    rfl
  | .object ((name,first) :: others) =>
    simp only [compact,List.cons_append,List.append_assoc,List.nil_append]
    rw [run_openObject context _ due,run_key context _ [] .first (by simp) name,
      run_compact first words.1 (.member [] (.ok name) true :: context)
        (.member [] (.ok name) context) _ (ends_compactMembers others rest)]
    exact run_compactMembers others words.2 context [(.ok name,first.outline)] rest

/-- After an item, the others are read up to the bracket. -/
theorem run_compactItems (items : List Value) (words : AllHaveWords items) (context : Context)
    (before : List Outline) (rest : List Char) :
    run (.inside (.list before .separator :: context)) (compactItems items ++ ']' :: rest) =
      run (resume (.list (.after before (outlineItems items))) context) rest := by
  match items with
  | [] => exact run_closeList context rest before
  | item :: others =>
    rw [compactItems,List.cons_append,List.append_assoc,run_comma_item,
      run_compact item words.1 (.list before .next :: context) (.nextItem before context) _
        (ends_compactItems others rest)]
    exact run_compactItems others words.2 context (item.outline :: before) rest

/-- After a member, the others are read up to the bracket. -/
theorem run_compactMembers (members : List (String × Value)) (words : MembersHaveWords members)
    (context : Context) (before : List (Except Fault String × Outline)) (rest : List Char) :
    run (.inside (.object before .separator :: context))
        (compactMembers members ++ '\x7d' :: rest) =
      run (resume (.object (.after before (outlineMembers members))) context) rest := by
  match members with
  | [] => exact run_closeObject context rest before
  | (name,value) :: others =>
    simp only [compactMembers,List.cons_append,List.append_assoc]
    rw [run_comma_member,run_key context _ before .next (by simp) name,
      run_compact value words.1 (.member before (.ok name) true :: context)
        (.member before (.ok name) context) _ (ends_compactMembers others rest)]
    exact run_compactMembers others words.2 context ((.ok name,value.outline) :: before) rest

end

/-- The compact text of a value is a document of that value. -/
theorem outline_compact (value : Value) (words : value.HasWords) :
    outline value.compact = (value.outline,false) := by
  have read := run_compact value words [] .whole [] .atEnd
  rw [List.append_nil] at read
  have whole : run (.inside []) value.compact = .whole value.outline false := by
    rw [read]
    simp [run,State.resume]
  rw [outline,← run,whole]
  rfl

/-- The text is a single value, and nothing follows it. -/
def Holds (text : String) (value : Outline) : Prop := outline text.toList = (value,false)

theorem holds_render (value : Value) (words : value.HasWords) :
    Holds value.render value.outline := by
  rw [Holds,Value.render,String.toList_ofList,outline_compact value words]

theorem Holds.unique (text : String) (value other : Outline) (first : Holds text value)
    (second : Holds text other) : value = other :=
  congrArg Prod.fst (first.symm.trans second)

end ParseScope.Json
