import ParseScope.Json.Outline
import ParseScope.Proofs.Except

/-!
What can be read can be skipped. In the outline of a text, a scalar that has a value is not broken,
so that values which read alike are equal.
-/
namespace ParseScope.Json

/-- A piece with a value is whole. -/
def Piece.Regular {α : Type} (piece : Piece α) : Prop :=
  ∀ value, piece.value = .ok value → piece.broken = none

def Token.Regular : Token → Prop
  | string piece => piece.Regular
  | scalar piece => piece.Regular
  | _ => True

mutual

def Outline.Regular : Outline → Prop
  | .scalar piece => piece.Regular
  | .list items => items.Regular
  | .object members => members.Regular

def Items.Regular : Items → Prop
  | .done _ => True
  | .item first rest => first.Regular ∧ rest.Regular

def Members.Regular : Members → Prop
  | .done _ => True
  | .member _ value rest => value.Regular ∧ rest.Regular

end

namespace Piece

theorem regular_whole {α : Type} (value : Except Fault α) : Regular ⟨value,none⟩ := fun _ _ => rfl

theorem regular_error {α : Type} (fault : Fault) (broken : Option Fault) :
    Regular (α := α) ⟨.error fault,broken⟩ := fun _ read => nomatch read

theorem Regular.map {α β : Type} (f : α → β) (piece : Piece α) (regular : piece.Regular) :
    Regular ⟨piece.value.map f,piece.broken⟩ := by
  intro value read
  cases original : piece.value with
  | error fault => simp [original,Except.map] at read
  | ok result => exact regular result original

end Piece

/-! ### Tokens -/

/-- A literal that does not end well has no text. -/
theorem decodeUnits_ne_ok (ending : LiteralEnd) (fault : Fault) (bad : ending.fault? = some fault)
    (units : List LiteralUnit) (text : List Char) : decodeUnits ending units ≠ .ok text := by
  intro read
  fun_induction decodeUnits ending units generalizing text with
  | case1 | case4 | case6 | case7 | case8 => exact absurd read (by simp)
  | case2 closed => simp [bad] at closed
  | case3 c rest ih | case9 code rest _ _ ih =>
    obtain ⟨others,read,_⟩ := (map_eq_ok_iff _ _ _).mp read
    exact ih others read
  | case5 code _ _ partner rest _ c ih =>
    obtain ⟨others,read,_⟩ := (map_eq_ok_iff _ _ _).mp read
    exact ih others read

theorem regular_stringToken (text : List Char) : (stringToken text).1.Regular := by
  rw [stringToken]
  cases ending : (Literal.scan text).ending.fault? with
  | none => exact Piece.regular_whole _
  | some fault =>
    intro value read
    obtain ⟨characters,read,_⟩ := (map_eq_ok_iff _ _ _).mp read
    exact absurd read (decodeUnits_ne_ok _ fault ending _ characters)

theorem regular_word (value : Scalar) (ending text : List Char) :
    (word value ending text).1.Regular := by
  unfold word
  split
  · exact Piece.regular_whole _
  · exact Piece.regular_error _ _

theorem regular_exponent (numeral : Numeral) (text : List Char) :
    (exponent numeral text).1.Regular := by
  unfold exponent
  split
  next negative body _ =>
    simp only
    split
    · exact Piece.regular_error _ _
    · exact Piece.regular_whole _

theorem regular_exponent? (numeral : Numeral) (text : List Char) :
    (exponent? numeral text).1.Regular := by
  unfold exponent?
  split
  · split
    · exact regular_exponent _ _
    · exact Piece.regular_whole _
  · exact Piece.regular_whole _

theorem regular_fraction? (numeral : Numeral) (text : List Char) :
    (fraction? numeral text).1.Regular := by
  unfold fraction?
  split
  · simp only
    split
    · exact Piece.regular_error _ _
    · exact regular_exponent? _ _
  · exact regular_exponent? _ _

theorem regular_number (negative : Bool) (text : List Char) :
    (number negative text).1.Regular := by
  unfold number
  split
  · split
    · exact Piece.regular_error _ _
    · exact regular_fraction? _ _
  · simp only
    split
    · exact Piece.regular_error _ _
    · exact regular_fraction? _ _

theorem regular_scanToken (c : Char) (rest : List Char) : (scanToken c rest).1.Regular := by
  have either {p : Prop} [Decidable p] {a b : Scan} (first : a.1.Regular) (second : b.1.Regular) :
      (if p then a else b).1.Regular := by
    split
    · exact first
    · exact second
  unfold scanToken
  iterate 6 refine either trivial ?_
  refine either (regular_stringToken _) ?_
  iterate 3 refine either (regular_word _ _ _) ?_
  exact either (regular_number _ _) (either (regular_number _ _) trivial)

theorem regular_tokens (text : List Char) : ∀ token ∈ tokens text, token.Regular := by
  fun_induction tokens text with
  | case1 => simp
  | case2 c rest _ ih => exact ih
  | case3 c rest _ token scan =>
    have regular := regular_scanToken c rest
    rw [scan] at regular
    simpa using regular
  | case4 c rest _ token more scan _ ih =>
    have regular := regular_scanToken c rest
    rw [scan] at regular
    exact List.forall_mem_cons.mpr ⟨regular,ih⟩

/-! ### States -/

def Frame.Regular : Frame → Prop
  | .list items _ => ∀ item ∈ items, item.Regular
  | .object members _ => ∀ member ∈ members, member.2.Regular
  | .member members _ _ => ∀ member ∈ members, member.2.Regular

def State.Regular : State → Prop
  | .inside context => ∀ frame ∈ context, frame.Regular
  | .whole outline _ => outline.Regular

theorem Items.regular_ofReversed (items : List Outline) (close : Close)
    (regular : ∀ item ∈ items, item.Regular) : (Items.ofReversed items close).Regular := by
  have before (rest : Items) (ofRest : rest.Regular) :
      (items.foldl (fun rest item => .item item rest) rest).Regular := by
    induction items generalizing rest with
    | nil => exact ofRest
    | cons item items ih =>
      obtain ⟨first,others⟩ := List.forall_mem_cons.mp regular
      exact ih others (.item item rest) ⟨first,ofRest⟩
  exact before (.done close) trivial

theorem Members.regular_ofReversed (members : List (Except Fault String × Outline)) (close : Close)
    (regular : ∀ member ∈ members, member.2.Regular) :
    (Members.ofReversed members close).Regular := by
  have before (rest : Members) (ofRest : rest.Regular) :
      (members.foldl (fun rest member => .member member.1 member.2 rest) rest).Regular := by
    induction members generalizing rest with
    | nil => exact ofRest
    | cons member members ih =>
      obtain ⟨first,others⟩ := List.forall_mem_cons.mp regular
      exact ih others (.member member.1 member.2 rest) ⟨first,ofRest⟩
  exact before (.done close) trivial

namespace State

theorem regular_wrap (context : Context) (outline : Outline)
    (frames : ∀ frame ∈ context, frame.Regular) (regular : outline.Regular) :
    (wrap context outline).Regular := by
  induction context generalizing outline with
  | nil => exact regular
  | cons frame outer ih =>
    obtain ⟨ofFrame,ofOuter⟩ := List.forall_mem_cons.mp frames
    cases frame with
    | list items phase =>
      exact ih _ ofOuter (Items.regular_ofReversed _ _ (List.forall_mem_cons.mpr ⟨regular,ofFrame⟩))
    | object members phase => exact ih _ ofOuter (Members.regular_ofReversed _ _ ofFrame)
    | member members key colon =>
      exact ih _ ofOuter
        (Members.regular_ofReversed _ _ (List.forall_mem_cons.mpr ⟨regular,ofFrame⟩))

theorem regular_resume (context : Context) (outline : Outline)
    (frames : ∀ frame ∈ context, frame.Regular) (regular : outline.Regular) :
    (resume outline context).Regular := by
  cases context with
  | nil => exact regular
  | cons frame outer =>
    obtain ⟨ofFrame,ofOuter⟩ := List.forall_mem_cons.mp frames
    cases frame with
    | list items phase =>
      exact List.forall_mem_cons.mpr ⟨List.forall_mem_cons.mpr ⟨regular,ofFrame⟩,ofOuter⟩
    | object members phase => exact List.forall_mem_cons.mpr ⟨ofFrame,ofOuter⟩
    | member members key colon =>
      exact List.forall_mem_cons.mpr ⟨List.forall_mem_cons.mpr ⟨regular,ofFrame⟩,ofOuter⟩

theorem regular_broken (fault : Fault) : (Outline.broken fault).Regular :=
  Piece.regular_error _ _

theorem regular_scalar (context : Context) (piece : Piece Scalar)
    (frames : ∀ frame ∈ context, frame.Regular) (regular : piece.Regular) :
    (scalar context piece).Regular := by
  rw [scalar]
  split
  · exact regular_wrap context _ frames regular
  · exact regular_resume context _ frames regular

theorem regular_value (context : Context) (token : Token)
    (frames : ∀ frame ∈ context, frame.Regular) (regular : token.Regular) :
    (value context token).Regular := by
  have stray : (breakAt context (.broken .noValue)).Regular :=
    regular_wrap context _ frames (regular_broken _)
  cases token with
  | openList => exact List.forall_mem_cons.mpr ⟨by simp [Frame.Regular],frames⟩
  | openObject => exact List.forall_mem_cons.mpr ⟨by simp [Frame.Regular],frames⟩
  | string piece => exact regular_scalar context _ frames (Piece.Regular.map _ piece regular)
  | scalar piece => exact regular_scalar context piece frames regular
  | closeList | closeObject | comma | colon | stray => exact stray

theorem regular_key (members : List (Except Fault String × Outline)) (outer : Context)
    (token : Token) (ofMembers : ∀ member ∈ members, member.2.Regular)
    (ofOuter : ∀ frame ∈ outer, frame.Regular) : (key members outer token).Regular := by
  have stray : (breakAt outer (.object (.ofReversed members .noKey))).Regular :=
    regular_wrap outer _ ofOuter (Members.regular_ofReversed _ _ ofMembers)
  cases token with
  | string piece =>
    have frames (colon : Bool) :
        ∀ frame ∈ Frame.member members piece.value colon :: outer, frame.Regular :=
      List.forall_mem_cons.mpr ⟨ofMembers,ofOuter⟩
    rw [key]
    split
    · exact regular_wrap _ _ (frames false) (regular_broken _)
    · exact frames false
  | openList | closeList | openObject | closeObject | comma | colon | scalar | stray => exact stray

theorem regular_step_list (items : List Outline) (phase : Phase) (outer : Context) (token : Token)
    (ofItems : ∀ item ∈ items, item.Regular) (ofOuter : ∀ frame ∈ outer, frame.Regular)
    (ofToken : token.Regular) : (step (.inside (.list items phase :: outer)) token).Regular := by
  have frames (phase : Phase) : ∀ frame ∈ Frame.list items phase :: outer, frame.Regular :=
    List.forall_mem_cons.mpr ⟨ofItems,ofOuter⟩
  have list (close : Close) : (Outline.list (.ofReversed items close)).Regular :=
    Items.regular_ofReversed items close ofItems
  cases phase with
  | first =>
    cases token with
    | closeList => exact regular_resume outer (.list (.done .closed)) ofOuter trivial
    | openList | openObject | closeObject | comma | colon | string | scalar | stray =>
      exact regular_value _ _ (frames .first) ofToken
  | next =>
    cases token with
    | closeList => exact regular_wrap outer _ ofOuter (list .afterComma)
    | openList | openObject | closeObject | comma | colon | string | scalar | stray =>
      exact regular_value _ _ (frames .next) ofToken
  | separator =>
    cases token with
    | comma => exact frames .next
    | closeList => exact regular_resume outer _ ofOuter (list .closed)
    | openList | openObject | closeObject | colon | string | scalar | stray =>
      exact regular_wrap outer _ ofOuter (list .noSeparator)

/-- Where a key is due, any token but a closing brace is taken as the key. -/
theorem step_key (members : List (Except Fault String × Outline)) (phase : Phase) (outer : Context)
    (token : Token) (awaits : phase ≠ .separator) (opens : token ≠ .closeObject) :
    step (.inside (.object members phase :: outer)) token = key members outer token := by
  cases phase with
  | separator => exact absurd rfl awaits
  | first =>
    cases token with
    | closeObject => exact absurd rfl opens
    | openList | closeList | openObject | comma | colon | string | scalar | stray => rfl
  | next =>
    cases token with
    | closeObject => exact absurd rfl opens
    | openList | closeList | openObject | comma | colon | string | scalar | stray => rfl

theorem regular_step_object (members : List (Except Fault String × Outline)) (phase : Phase)
    (outer : Context) (token : Token) (ofMembers : ∀ member ∈ members, member.2.Regular)
    (ofOuter : ∀ frame ∈ outer, frame.Regular) :
    (step (.inside (.object members phase :: outer)) token).Regular := by
  have object (close : Close) : (Outline.object (.ofReversed members close)).Regular :=
    Members.regular_ofReversed members close ofMembers
  cases phase with
  | first =>
    by_cases closes : token = .closeObject
    · subst closes
      exact regular_resume outer (.object (.done .closed)) ofOuter trivial
    · rw [step_key members .first outer token (by simp) closes]
      exact regular_key members outer token ofMembers ofOuter
  | next =>
    by_cases closes : token = .closeObject
    · subst closes
      exact regular_wrap outer _ ofOuter (object .afterComma)
    · rw [step_key members .next outer token (by simp) closes]
      exact regular_key members outer token ofMembers ofOuter
  | separator =>
    cases token with
    | comma => exact List.forall_mem_cons.mpr ⟨ofMembers,ofOuter⟩
    | closeObject => exact regular_resume outer _ ofOuter (object .closed)
    | openList | closeList | openObject | colon | string | scalar | stray =>
      exact regular_wrap outer _ ofOuter (object .noSeparator)

theorem regular_step_member (members : List (Except Fault String × Outline))
    (key : Except Fault String) (colon : Bool) (outer : Context) (token : Token)
    (ofMembers : ∀ member ∈ members, member.2.Regular) (ofOuter : ∀ frame ∈ outer, frame.Regular)
    (ofToken : token.Regular) :
    (step (.inside (.member members key colon :: outer)) token).Regular := by
  have frames (colon : Bool) : ∀ frame ∈ Frame.member members key colon :: outer, frame.Regular :=
    List.forall_mem_cons.mpr ⟨ofMembers,ofOuter⟩
  cases colon with
  | true => exact regular_value _ _ (frames true) ofToken
  | false =>
    cases token with
    | colon => exact frames true
    | openList | closeList | openObject | closeObject | comma | string | scalar | stray =>
      exact regular_wrap _ _ (frames false) (regular_broken _)

theorem regular_step (state : State) (token : Token) (ofState : state.Regular)
    (ofToken : token.Regular) : (state.step token).Regular := by
  cases state with
  | whole outline more => exact ofState
  | inside context =>
    cases context with
    | nil => exact regular_value [] token ofState ofToken
    | cons frame outer =>
      obtain ⟨ofFrame,ofOuter⟩ := List.forall_mem_cons.mp ofState
      cases frame with
      | list items phase => exact regular_step_list items phase outer token ofFrame ofOuter ofToken
      | object members phase =>
        exact regular_step_object members phase outer token ofFrame ofOuter
      | member members key colon =>
        exact regular_step_member members key colon outer token ofFrame ofOuter ofToken

theorem regular_foldl_step (tokens : List Token) (state : State) (ofState : state.Regular)
    (ofTokens : ∀ token ∈ tokens, token.Regular) : (tokens.foldl step state).Regular := by
  induction tokens generalizing state with
  | nil => exact ofState
  | cons token tokens ih =>
    obtain ⟨first,others⟩ := List.forall_mem_cons.mp ofTokens
    exact ih (state.step token) (regular_step state token ofState first) others

theorem regular_finish (state : State) (ofState : state.Regular) : state.finish.1.Regular := by
  cases state with
  | whole outline more => exact ofState
  | inside context =>
    cases context with
    | nil => exact regular_broken .cutValue
    | cons frame outer =>
      obtain ⟨ofFrame,ofOuter⟩ := List.forall_mem_cons.mp ofState
      cases frame with
      | list items phase =>
        have list (close : Close) : (wrap outer (.list (.ofReversed items close))).Regular :=
          regular_wrap outer _ ofOuter (Items.regular_ofReversed items close ofFrame)
        cases phase with
        | next => exact list .cutAfterComma
        | first | separator => exact list .cut
      | object members phase =>
        have object (close : Close) : (wrap outer (.object (.ofReversed members close))).Regular :=
          regular_wrap outer _ ofOuter (Members.regular_ofReversed members close ofFrame)
        cases phase with
        | next => exact object .cutAfterComma
        | first | separator => exact object .cut
      | member members key colon =>
        cases colon with
        | true => exact regular_wrap _ _ ofState (regular_broken .cutValue)
        | false => exact regular_wrap _ _ ofState (regular_broken .cutObject)

end State

/-- In the outline of a text, what has a value is whole. -/
theorem regular_outline (text : List Char) : (outline text).1.Regular :=
  State.regular_finish _ (State.regular_foldl_step _ _ (by simp [State.Regular])
    (regular_tokens text))

end ParseScope.Json
