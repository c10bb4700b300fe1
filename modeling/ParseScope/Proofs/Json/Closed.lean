import ParseScope.Proofs.Json.Outline
import ParseScope.Proofs.Json.Regular

/-!
Where a text breaks, none of its open containers is closed. So when the outermost container ends
with its bracket, everything inside it is well formed.
-/
namespace ParseScope.Json

def Items.close : Items → Close
  | .done close => close
  | .item _ rest => rest.close

def Members.close : Members → Close
  | .done close => close
  | .member _ _ rest => rest.close

/-- The value is a whole scalar or ends with its bracket. -/
def Outline.Closed : Outline → Prop
  | .scalar piece => piece.broken = none
  | .list items => items.close = .closed
  | .object members => members.close = .closed

/-- Members that all have a name, closed by their bracket. -/
def Members.ofList (members : List (String × Outline)) : Members :=
  members.foldr (fun (name,value) rest => .member (.ok name) value rest) (.done .closed)

theorem Members.ofList_cons (member : String × Outline) (members : List (String × Outline)) :
    ofList (member :: members) = .member (.ok member.1) member.2 (ofList members) := rfl

@[simp] theorem Members.close_ofList (members : List (String × Outline)) :
    (ofList members).close = .closed := by
  induction members with
  | nil => rfl
  | cons member members ih => exact ih

theorem Members.skipFault?_ofList (members : List (String × Outline))
    (sound : (ofList members).skipFault? = none) :
    ∀ member ∈ members, member.2.skipFault? = none := by
  induction members with
  | nil => simp
  | cons member members ih =>
    obtain ⟨first,others⟩ := Option.or_eq_none_iff.mp sound
    exact List.forall_mem_cons.mpr ⟨first,ih others⟩

/-! ### Containers in reading -/

@[simp] theorem Items.close_ofReversed (items : List Outline) (close : Close) :
    (ofReversed items close).close = close := by
  have before (rest : Items) :
      (items.foldl (fun rest item => .item item rest) rest).close = rest.close := by
    induction items generalizing rest with
    | nil => rfl
    | cons item items ih => exact ih (.item item rest)
  exact before (.done close)

@[simp] theorem Members.close_ofReversed (members : List (Except Fault String × Outline))
    (close : Close) : (ofReversed members close).close = close := by
  have before (rest : Members) :
      (members.foldl (fun rest member => .member member.1 member.2 rest) rest).close =
        rest.close := by
    induction members generalizing rest with
    | nil => rfl
    | cons member members ih => exact ih (.member member.1 member.2 rest)
  exact before (.done close)

theorem Items.skipFault?_ofReversed (items : List Outline)
    (sound : ∀ item ∈ items, item.skipFault? = none) :
    (ofReversed items .closed).skipFault? = none := by
  have before (rest : Items) (ofRest : rest.skipFault? = none) :
      (items.foldl (fun rest item => .item item rest) rest).skipFault? = none := by
    induction items generalizing rest with
    | nil => exact ofRest
    | cons item items ih =>
      obtain ⟨first,others⟩ := List.forall_mem_cons.mp sound
      exact ih others (.item item rest) (Option.or_eq_none_iff.mpr ⟨first,ofRest⟩)
  exact before (.done .closed) rfl

theorem Members.skipFault?_ofReversed (members : List (Except Fault String × Outline))
    (sound : ∀ member ∈ members, member.2.skipFault? = none) :
    (ofReversed members .closed).skipFault? = none := by
  have before (rest : Members) (ofRest : rest.skipFault? = none) :
      (members.foldl (fun rest member => .member member.1 member.2 rest) rest).skipFault? =
        none := by
    induction members generalizing rest with
    | nil => exact ofRest
    | cons member members ih =>
      obtain ⟨first,others⟩ := List.forall_mem_cons.mp sound
      exact ih others (.member member.1 member.2 rest) (Option.or_eq_none_iff.mpr ⟨first,ofRest⟩)
  exact before (.done .closed) rfl

/-- What is complete in an open container is well formed. -/
def Frame.Sound : Frame → Prop
  | .list items _ => ∀ item ∈ items, item.skipFault? = none
  | .object members _ => ∀ member ∈ members, member.2.skipFault? = none
  | .member members _ _ => ∀ member ∈ members, member.2.skipFault? = none

/-- What is complete is well formed; of the whole value its end tells whether it is. -/
def State.Sound : State → Prop
  | .inside context => ∀ frame ∈ context, frame.Sound
  | .whole outline _ => outline.Closed → outline.skipFault? = none

namespace State

/-- No container around an open one is closed. -/
theorem not_closed_wrap (context : Context) (outline : Outline) (opened : ¬ outline.Closed) :
    ¬ (wrap context outline).Closed := by
  induction context generalizing outline with
  | nil => exact opened
  | cons frame outer ih =>
    cases frame with
    | list | object | member => exact ih _ (by simp [Outline.Closed])

theorem sound_breakAt (context : Context) (outline : Outline) (opened : ¬ outline.Closed) :
    (breakAt context outline).Sound :=
  fun closed => absurd closed (not_closed_wrap context outline opened)

theorem not_closed_broken (fault : Fault) : ¬ (Outline.broken fault).Closed := nofun

theorem not_closed_list (items : List Outline) (close : Close) (opened : close ≠ .closed) :
    ¬ (Outline.list (.ofReversed items close)).Closed := by
  simpa [Outline.Closed] using opened

theorem not_closed_object (members : List (Except Fault String × Outline)) (close : Close)
    (opened : close ≠ .closed) : ¬ (Outline.object (.ofReversed members close)).Closed := by
  simpa [Outline.Closed] using opened

theorem sound_resume (context : Context) (outline : Outline)
    (frames : ∀ frame ∈ context, frame.Sound) (sound : outline.skipFault? = none) :
    (resume outline context).Sound := by
  cases context with
  | nil => exact fun _ => sound
  | cons frame outer =>
    obtain ⟨ofFrame,ofOuter⟩ := List.forall_mem_cons.mp frames
    cases frame with
    | list items phase =>
      exact List.forall_mem_cons.mpr ⟨List.forall_mem_cons.mpr ⟨sound,ofFrame⟩,ofOuter⟩
    | object members phase => exact List.forall_mem_cons.mpr ⟨ofFrame,ofOuter⟩
    | member members key colon =>
      exact List.forall_mem_cons.mpr ⟨List.forall_mem_cons.mpr ⟨sound,ofFrame⟩,ofOuter⟩

theorem sound_scalar (context : Context) (piece : Piece Scalar)
    (frames : ∀ frame ∈ context, frame.Sound) : (scalar context piece).Sound := by
  rw [scalar]
  split
  · next broken => exact sound_breakAt context _ (Option.isSome_iff_ne_none.mp broken)
  · next whole => exact sound_resume context _ frames (by simpa [Outline.skipFault?] using whole)

theorem sound_value (context : Context) (token : Token)
    (frames : ∀ frame ∈ context, frame.Sound) : (value context token).Sound := by
  cases token with
  | openList | openObject => exact List.forall_mem_cons.mpr ⟨by simp [Frame.Sound],frames⟩
  | string piece => exact sound_scalar context _ frames
  | scalar piece => exact sound_scalar context piece frames
  | closeList | closeObject | comma | colon | stray =>
    exact sound_breakAt context _ (not_closed_broken .noValue)

theorem sound_key (members : List (Except Fault String × Outline)) (outer : Context) (token : Token)
    (ofMembers : ∀ member ∈ members, member.2.skipFault? = none)
    (ofOuter : ∀ frame ∈ outer, frame.Sound) : (key members outer token).Sound := by
  cases token with
  | string piece =>
    rw [key]
    split
    · next fault _ => exact sound_breakAt _ _ (not_closed_broken fault)
    · exact List.forall_mem_cons.mpr ⟨ofMembers,ofOuter⟩
  | openList | closeList | openObject | closeObject | comma | colon | scalar | stray =>
    exact sound_breakAt outer _ (not_closed_object members .noKey (by simp))

theorem sound_step_list (items : List Outline) (phase : Phase) (outer : Context) (token : Token)
    (ofItems : ∀ item ∈ items, item.skipFault? = none) (ofOuter : ∀ frame ∈ outer, frame.Sound) :
    (step (.inside (.list items phase :: outer)) token).Sound := by
  have frames (phase : Phase) : ∀ frame ∈ Frame.list items phase :: outer, frame.Sound :=
    List.forall_mem_cons.mpr ⟨ofItems,ofOuter⟩
  cases phase with
  | first =>
    by_cases closes : token = .closeList
    · subst closes
      exact sound_resume outer (.list (.done .closed)) ofOuter rfl
    · rw [step_due _ (.firstItem items outer) token closes]
      exact sound_value _ token (frames .first)
  | next =>
    by_cases closes : token = .closeList
    · subst closes
      exact sound_breakAt outer _ (not_closed_list items .afterComma (by simp))
    · rw [step_due _ (.nextItem items outer) token closes]
      exact sound_value _ token (frames .next)
  | separator =>
    cases token with
    | comma => exact frames .next
    | closeList => exact sound_resume outer _ ofOuter (Items.skipFault?_ofReversed items ofItems)
    | openList | openObject | closeObject | colon | string | scalar | stray =>
      exact sound_breakAt outer _ (not_closed_list items .noSeparator (by simp))

theorem sound_step_object (members : List (Except Fault String × Outline)) (phase : Phase)
    (outer : Context) (token : Token) (ofMembers : ∀ member ∈ members, member.2.skipFault? = none)
    (ofOuter : ∀ frame ∈ outer, frame.Sound) :
    (step (.inside (.object members phase :: outer)) token).Sound := by
  cases phase with
  | first =>
    by_cases closes : token = .closeObject
    · subst closes
      exact sound_resume outer (.object (.done .closed)) ofOuter rfl
    · rw [step_key members .first outer token (by simp) closes]
      exact sound_key members outer token ofMembers ofOuter
  | next =>
    by_cases closes : token = .closeObject
    · subst closes
      exact sound_breakAt outer _ (not_closed_object members .afterComma (by simp))
    · rw [step_key members .next outer token (by simp) closes]
      exact sound_key members outer token ofMembers ofOuter
  | separator =>
    cases token with
    | comma => exact List.forall_mem_cons.mpr ⟨ofMembers,ofOuter⟩
    | closeObject =>
      exact sound_resume outer _ ofOuter (Members.skipFault?_ofReversed members ofMembers)
    | openList | closeList | openObject | colon | string | scalar | stray =>
      exact sound_breakAt outer _ (not_closed_object members .noSeparator (by simp))

theorem sound_step (state : State) (token : Token) (sound : state.Sound) :
    (state.step token).Sound := by
  cases state with
  | whole outline more => exact sound
  | inside context =>
    cases context with
    | nil => exact sound_value [] token sound
    | cons frame outer =>
      obtain ⟨ofFrame,ofOuter⟩ := List.forall_mem_cons.mp sound
      cases frame with
      | list items phase => exact sound_step_list items phase outer token ofFrame ofOuter
      | object members phase => exact sound_step_object members phase outer token ofFrame ofOuter
      | member members key colon =>
        cases colon with
        | true => exact sound_value _ token sound
        | false =>
          cases token with
          | colon => exact List.forall_mem_cons.mpr ⟨ofFrame,ofOuter⟩
          | openList | closeList | openObject | closeObject | comma | string | scalar | stray =>
            exact sound_breakAt _ _ (not_closed_broken .noColon)

theorem sound_foldl_step (tokens : List Token) (state : State) (sound : state.Sound) :
    (tokens.foldl step state).Sound := by
  induction tokens generalizing state with
  | nil => exact sound
  | cons token tokens ih => exact ih (state.step token) (sound_step state token sound)

/-- A text that ends too early leaves its outermost container open. -/
theorem not_closed_finish (context : Context) : ¬ (finish (.inside context)).1.Closed := by
  cases context with
  | nil => exact not_closed_broken .cutValue
  | cons frame outer =>
    cases frame with
    | list items phase =>
      cases phase with
      | next => exact not_closed_wrap outer _ (not_closed_list items .cutAfterComma (by simp))
      | first | separator => exact not_closed_wrap outer _ (not_closed_list items .cut (by simp))
    | object members phase =>
      cases phase with
      | next => exact not_closed_wrap outer _ (not_closed_object members .cutAfterComma (by simp))
      | first | separator =>
        exact not_closed_wrap outer _ (not_closed_object members .cut (by simp))
    | member members key colon =>
      cases colon with
      | true => exact not_closed_wrap _ _ (not_closed_broken .cutValue)
      | false => exact not_closed_wrap _ _ (not_closed_broken .cutObject)

theorem sound_finish (state : State) (sound : state.Sound) (closed : state.finish.1.Closed) :
    state.finish.1.skipFault? = none := by
  cases state with
  | whole outline more => exact sound closed
  | inside context => exact absurd closed (not_closed_finish context)

end State

/-- A text is well formed when its outermost value is closed. -/
theorem skipFault?_of_closed (text : List Char) (closed : (outline text).1.Closed) :
    (outline text).1.skipFault? = none :=
  State.sound_finish _ (State.sound_foldl_step (tokens text) (.inside []) (by simp [State.Sound]))
    closed

/-- The members of a document are well formed. -/
theorem Holds.skipFault?_member (text : String) (members : List (String × Outline))
    (holds : Holds text (.object (.ofList members))) :
    ∀ member ∈ members, member.2.skipFault? = none := by
  have sound := skipFault?_of_closed text.toList
  rw [holds] at sound
  exact Members.skipFault?_ofList members (sound (Members.close_ofList members))

end ParseScope.Json
