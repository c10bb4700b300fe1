import ParseScope.Json.Token

/-!
The outline of a JSON text: its values in text order, as far as the text is well formed. What breaks
the text stands in the outline where it was met, so a reader that walks the outline in order meets
the first problem first, be it one of form or one of its own. How much of a broken place matters
depends on the reader: `Outline.fault?` is the first fault for a reader that uses every value,
`Outline.skipFault?` for one that skips them all.
-/
namespace ParseScope.Json

/-- How a list or an object ends after its last part. -/
inductive Close
  | closed
  /-- The bracket follows a comma. -/
  | afterComma
  /-- The text ends where a separator or the bracket is due. -/
  | cut
  /-- The text ends after a comma. -/
  | cutAfterComma
  /-- Something else stands where a separator or the bracket is due. -/
  | noSeparator
  /-- Something else stands where a key is due. -/
  | noKey
  deriving DecidableEq, Repr

mutual

inductive Outline
  | scalar (piece : Piece Scalar)
  | list (items : Items)
  | object (members : Members)

/-- The items of a list, and how it ends. -/
inductive Items
  | done (close : Close)
  | item (first : Outline) (rest : Items)

/-- The members of an object in text order, repeated keys included, and how it ends. -/
inductive Members
  | done (close : Close)
  | member (key : Except Fault String) (value : Outline) (rest : Members)

end

instance : Inhabited Outline := ⟨.scalar ⟨.ok .null, none⟩⟩

/-- A value that is broken however it is used. -/
def Outline.broken (fault : Fault) : Outline := .scalar (.fail fault)

/-! ### From tokens -/

/-- Where a container that is still open stands: before its first part, after a comma, or after a
part. -/
inductive Phase
  | first
  | next
  | separator
  deriving DecidableEq, Repr

/-- A container that is still open, with its parts so far, the latest first. -/
inductive Frame
  | list (items : List Outline) (phase : Phase)
  | object (members : List (Except Fault String × Outline)) (phase : Phase)
  /-- An object after a key; `colon` tells whether the colon was seen. -/
  | member (members : List (Except Fault String × Outline)) (key : Except Fault String)
      (colon : Bool)

/-- Containers that are still open, innermost first. -/
abbrev Context := List Frame

def Items.ofReversed (items : List Outline) (close : Close) : Items :=
  items.foldl (fun rest item => .item item rest) (.done close)

def Members.ofReversed (members : List (Except Fault String × Outline)) (close : Close) :
    Members :=
  members.foldl (fun rest (key, value) => .member key value rest) (.done close)

/-- The outline of a text that breaks at `outline`, inside `context`. -/
def wrap : Context → Outline → Outline
  | [], outline => outline
  | .list items _ :: outer, outline => wrap outer (.list (.ofReversed (outline :: items) .cut))
  | .object members _ :: outer, _ => wrap outer (.object (.ofReversed members .cut))
  | .member members key _ :: outer, outline =>
    wrap outer (.object (.ofReversed ((key, outline) :: members) .cut))

/-- The state of reading tokens: values still open, or the outline of the whole text, with a mark
whether more text follows it. -/
inductive State
  | inside (context : Context)
  | whole (outline : Outline) (more : Bool)

namespace State

/-- After a whole value inside `context`. -/
def resume (outline : Outline) : Context → State
  | [] => .whole outline false
  | .list items _ :: outer => .inside (.list (outline :: items) .separator :: outer)
  | .object members _ :: outer => .inside (.object members .separator :: outer)
  | .member members key _ :: outer =>
    .inside (.object ((key, outline) :: members) .separator :: outer)

/-- The text breaks at `outline`. -/
def breakAt (context : Context) (outline : Outline) : State := .whole (wrap context outline) false

def scalar (context : Context) (piece : Piece Scalar) : State :=
  if piece.broken.isSome then breakAt context (.scalar piece) else resume (.scalar piece) context

/-- A token where a value is due. -/
def value (context : Context) : Token → State
  | .openList => .inside (.list [] .first :: context)
  | .openObject => .inside (.object [] .first :: context)
  | .string piece => scalar context ⟨piece.value.map .string, piece.broken⟩
  | .scalar piece => scalar context piece
  | _ => breakAt context (.broken .noValue)

/-- A token where a key is due. -/
def key (members : List (Except Fault String × Outline)) (outer : Context) : Token → State
  | .string piece =>
    match piece.broken with
    | some fault => breakAt (.member members piece.value false :: outer) (.broken fault)
    | none => .inside (.member members piece.value false :: outer)
  | _ => breakAt outer (.object (.ofReversed members .noKey))

def step (state : State) (token : Token) : State :=
  match state with
  | .whole outline _ => .whole outline true
  | .inside [] => value [] token
  | .inside (.list items phase :: outer) =>
    match phase, token with
    | .first, .closeList => resume (.list (.done .closed)) outer
    | .first, token => value (.list items .first :: outer) token
    | .next, .closeList => breakAt outer (.list (.ofReversed items .afterComma))
    | .next, token => value (.list items .next :: outer) token
    | .separator, .comma => .inside (.list items .next :: outer)
    | .separator, .closeList => resume (.list (.ofReversed items .closed)) outer
    | .separator, _ => breakAt outer (.list (.ofReversed items .noSeparator))
  | .inside (.object members phase :: outer) =>
    match phase, token with
    | .first, .closeObject => resume (.object (.done .closed)) outer
    | .first, token => key members outer token
    | .next, .closeObject => breakAt outer (.object (.ofReversed members .afterComma))
    | .next, token => key members outer token
    | .separator, .comma => .inside (.object members .next :: outer)
    | .separator, .closeObject => resume (.object (.ofReversed members .closed)) outer
    | .separator, _ => breakAt outer (.object (.ofReversed members .noSeparator))
  | .inside (.member members key colon :: outer) =>
    match colon, token with
    | false, .colon => .inside (.member members key true :: outer)
    | false, _ => breakAt (.member members key false :: outer) (.broken .noColon)
    | true, token => value (.member members key true :: outer) token

/-- What is missing when the text ends. -/
def finish : State → Outline × Bool
  | .whole outline more => (outline, more)
  | .inside [] => (.broken .cutValue, false)
  | .inside (.list items .next :: outer) =>
    (wrap outer (.list (.ofReversed items .cutAfterComma)), false)
  | .inside (.list items _ :: outer) => (wrap outer (.list (.ofReversed items .cut)), false)
  | .inside (.object members .next :: outer) =>
    (wrap outer (.object (.ofReversed members .cutAfterComma)), false)
  | .inside (.object members _ :: outer) =>
    (wrap outer (.object (.ofReversed members .cut)), false)
  | .inside (.member members key true :: outer) =>
    (wrap (.member members key true :: outer) (.broken .cutValue), false)
  | .inside (.member members key false :: outer) =>
    (wrap (.member members key false :: outer) (.broken .cutObject), false)

end State

/-- The outline of a text, and whether text follows its value. -/
def outline (text : List Char) : Outline × Bool :=
  ((tokens text).foldl State.step (.inside [])).finish

/-! ### Faults -/

/-- What is wrong with the end of a list that is used. -/
def Close.listFault? : Close → Option Fault
  | closed => none
  | afterComma => some .trailingComma
  | cut => some .cutList
  | cutAfterComma => some .cutValue
  | noSeparator | noKey => some .noListSeparator

/-- What is wrong with the end of an object that is used. -/
def Close.objectFault? : Close → Option Fault
  | closed => none
  | afterComma => some .trailingComma
  | cut => some .cutObject
  | cutAfterComma => some .cutValue
  | noSeparator => some .noObjectSeparator
  | noKey => some .noKey

/-- What is wrong with the end of a list that is skipped: after a comma only a value is looked
for. -/
def Close.listSkipFault? : Close → Option Fault
  | afterComma => some .noValue
  | close => close.listFault?

/-- What is wrong with the end of an object that is skipped: after a comma only a key is looked
for. -/
def Close.objectSkipFault? : Close → Option Fault
  | afterComma => some .noKey
  | cutAfterComma => some .cutObject
  | close => close.objectFault?

/-- What is wrong with the end of a list of which no more items are wanted. -/
def Close.endFault? : Close → Option Fault
  | closed => none
  | afterComma => some .trailingComma
  | cut => some .cutList
  | cutAfterComma | noSeparator | noKey => some .trailingText

mutual

/-- The first fault for a reader that uses every value and opens at most `levels` containers inside
one another. -/
def Outline.fault? (levels : Nat) : Outline → Option Fault
  | .scalar piece =>
    match piece.value with
    | .error fault => some fault
    | .ok _ => none
  | .list items => if levels = 0 then some .tooDeep else items.fault? (levels - 1)
  | .object members => if levels = 0 then some .tooDeep else members.fault? (levels - 1)

def Items.fault? (levels : Nat) : Items → Option Fault
  | .done close => close.listFault?
  | .item first rest => (first.fault? levels).or (rest.fault? levels)

def Members.fault? (levels : Nat) : Members → Option Fault
  | .done close => close.objectFault?
  | .member key value rest =>
    match key with
    | .error fault => some fault
    | .ok _ => (value.fault? levels).or (rest.fault? levels)

end

mutual

/-- The first fault for a reader that skips every value. -/
def Outline.skipFault? : Outline → Option Fault
  | .scalar piece => piece.broken
  | .list items => items.skipFault?
  | .object members => members.skipFault?

def Items.skipFault? : Items → Option Fault
  | .done close => close.listSkipFault?
  | .item first rest => first.skipFault?.or rest.skipFault?

def Members.skipFault? : Members → Option Fault
  | .done close => close.objectSkipFault?
  | .member _ value rest => value.skipFault?.or rest.skipFault?

end

end ParseScope.Json
