import ParseScope.Json.Outline
import ParseScope.Text.Quoted

/-!
Readers of documents: what a value must be, and the first problem of one that is not. A record is
read from an object, whose members may come in any order, or from a list of its members in the
order of their declaration.
-/
namespace ParseScope.Document

open Json (Close Fault Items Members Outline Scalar)

/-- What stands where something else is wanted. -/
inductive Found
  | scalar (value : Scalar)
  | list
  | object
  deriving DecidableEq, Repr

def Found.text : Found → String
  | scalar .null => "null"
  | scalar (.bool value) => s!"boolean `{value}`"
  | scalar (.number (.integer value)) => s!"integer `{value}`"
  | scalar (.number (.decimal text)) => s!"floating point `{text}`"
  | scalar (.string value) => "string " ++ Text.quoted value
  | list => "sequence"
  | object => "map"

/-- What is wanted of a value. -/
inductive Wanted
  | string
  | int64
  | size
  | list
  | attempt
  | compileError
  | node
  deriving DecidableEq, Repr

def Wanted.text : Wanted → String
  | string => "a string"
  | int64 => "i64"
  | size => "usize"
  | list => "a sequence"
  | attempt => "struct ParseAttempt"
  | compileError => "struct GrammarCompileError"
  | node => "tuple struct RawNode"

inductive ReadError
  | fault (fault : Fault)
  | wrongType (found : Found) (wanted : Wanted)
  | outOfRange (value : Int) (wanted : Wanted)
  | tooShort (length : Nat) (wanted : Wanted) (full : Nat)
  | duplicateMember (name : String)
  | missingMember (name : String)
  /-- The body of a tree node is neither a text nor a list of nodes. -/
  | noBody
  | noChildren (label : String)
  deriving DecidableEq, Repr

namespace ReadError

def message : ReadError → String
  | fault cause => cause.message
  | wrongType found wanted => s!"invalid type: {found.text}, expected {wanted.text}"
  | outOfRange value wanted => s!"invalid value: integer `{value}`, expected {wanted.text}"
  | tooShort length wanted full =>
    s!"invalid length {length}, expected {wanted.text} with {full} elements"
  | duplicateMember name => s!"duplicate field `{name}`"
  | missingMember name => s!"missing field `{name}`"
  | noBody => "data did not match any variant of untagged enum RawBody"
  | noChildren label => s!"node '{label}' has an empty child list"

end ReadError

/-- Reads a value that may open `levels` containers inside one another. -/
abbrev Reader (α : Type) := (levels : Nat) → Outline → Except ReadError α

/-- The greatest number of containers that may be open at once. -/
def maxLevels : Nat := 127

def orFault (fault : Option Fault) : Except ReadError Unit :=
  match fault with
  | some fault => .error (.fault fault)
  | none => .ok ()

/-- Refuses a value of another type; a value that is broken is reported as such. -/
def mismatch {α : Type} (wanted : Wanted) : Outline → Except ReadError α
  | .scalar ⟨.error fault, _⟩ => .error (.fault fault)
  | .scalar ⟨.ok value, _⟩ => .error (.wrongType (.scalar value) wanted)
  | .list _ => .error (.wrongType .list wanted)
  | .object _ => .error (.wrongType .object wanted)

def readString : Reader String := fun _ value =>
  match value with
  | .scalar ⟨.ok (.string text), _⟩ => .ok text
  | other => mismatch .string other

def readInt64 : Reader Int64 := fun _ value =>
  match value with
  | .scalar ⟨.ok (.number (.integer n)), _⟩ =>
    if Int64.minValue.toInt ≤ n ∧ n ≤ Int64.maxValue.toInt then .ok (Int64.ofInt n)
    else .error (.outOfRange n .int64)
  | other => mismatch .int64 other

def readSize : Reader UInt64 := fun _ value =>
  match value with
  | .scalar ⟨.ok (.number (.integer n)), _⟩ =>
    if 0 ≤ n ∧ n < UInt64.size then .ok (UInt64.ofNat n.toNat) else .error (.outOfRange n .size)
  | other => mismatch .size other

/-- Reads a value that may be null. -/
def readOption {α : Type} (read : Reader α) : Reader (Option α) := fun levels value =>
  match value with
  | .scalar ⟨.ok .null, _⟩ => .ok none
  | other => (read levels other).map some

def readItems {α : Type} (read : Reader α) (levels : Nat) : Items → Except ReadError (List α)
  | .done close => do
    orFault close.listFault?
    return []
  | .item first rest => do
    let value ← read levels first
    return value :: (← readItems read levels rest)

def readList {α : Type} (read : Reader α) : Reader (List α) := fun levels value =>
  match value with
  | .list items =>
    if levels = 0 then .error (.fault .tooDeep) else readItems read (levels - 1) items
  | other => mismatch .list other

/-- A member of a record `σ` that is being filled in. -/
structure Member (σ : Type) where
  name : String
  required : Bool
  isSet : σ → Bool
  /-- Reads the member's value into a change of the record. -/
  read : Reader (σ → σ)

/-- The member kept in a slot of the record, which stays empty until the member is read. -/
def Member.of {σ α : Type} (name : String) (required : Bool) (slot : σ → Option α)
    (read : Reader α) (set : Option α → σ → σ) : Member σ where
  name := name
  required := required
  isSet := fun record => (slot record).isSome
  read := fun levels value => (read levels value).map fun result => set (some result)

/-- A record, by its members in the order of their declaration. -/
structure Shape (σ : Type) where
  wanted : Wanted
  empty : σ
  members : List (Member σ)

namespace Shape

variable {σ : Type}

def find? (shape : Shape σ) (name : String) : Option (Member σ) :=
  shape.members.find? (·.name = name)

/-- The required member that was not read, if there is one. -/
def missing? (shape : Shape σ) (record : σ) : Option (Member σ) :=
  shape.members.find? fun member => member.required && !member.isSet record

/-- Fills a record from the members of an object. Unknown members are skipped. -/
def readMembers (shape : Shape σ) (levels : Nat) : σ → Members → Except ReadError σ
  | record, .done close => do
    orFault close.objectFault?
    match shape.missing? record with
    | some member => throw (.missingMember member.name)
    | none => return record
  | record, .member key value rest =>
    match key with
    | .error fault => .error (.fault fault)
    | .ok name =>
      match shape.find? name with
      | none => do
        orFault value.skipFault?
        shape.readMembers levels record rest
      | some member => do
        if member.isSet record then
          throw (.duplicateMember name)
        let change ← member.read levels value
        shape.readMembers levels (change record) rest

/-- What is wrong with the end of a list of which no more items are wanted. -/
def endFault? : Items → Option Fault
  | .item _ _ => some .trailingText
  | .done close => close.endFault?

/-- Fills a record from a list of its members; those at the end that are not required may be
absent. `index` counts the members read. -/
def readPositions (shape : Shape σ) (levels index : Nat) :
    List (Member σ) → σ → Items → Except ReadError σ
  | [], record, items => do
    orFault (endFault? items)
    return record
  | member :: others, record, .done close => do
    orFault close.listFault?
    if member.required then
      throw (.tooShort index shape.wanted shape.members.length)
    shape.readPositions levels (index + 1) others record (.done close)
  | member :: others, record, .item first rest => do
    let change ← member.read levels first
    shape.readPositions levels (index + 1) others (change record) rest

def read (shape : Shape σ) : Reader σ := fun levels value =>
  match value with
  | .list items =>
    if levels = 0 then .error (.fault .tooDeep)
    else shape.readPositions (levels - 1) 0 shape.members shape.empty items
  | .object members =>
    if levels = 0 then .error (.fault .tooDeep)
    else shape.readMembers (levels - 1) shape.empty members
  | other => mismatch shape.wanted other

end Shape

/-- Reads a whole document, which must be a single value. -/
def readDocument {α : Type} (read : Reader α) (text : String) : Except ReadError α := do
  let (value, more) := Json.outline text.toList
  let result ← read maxLevels value
  if more then
    throw (.fault .trailingText)
  return result

end ParseScope.Document
