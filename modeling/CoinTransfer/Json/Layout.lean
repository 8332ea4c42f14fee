import CoinTransfer.Json.Typed

/-!
# CoinTransfer.Json.Layout

Records in JSON.  A record is written as an object with its fields in order, and
may be read from an object, in any order and with other fields in between, or
from a list of its fields in order.  A layout says which fields a record has;
while it is read, a draft holds the fields that have been seen.
-/

namespace CoinTransfer.Json

/-- A field of a record whose drafts are of type `δ`. -/
structure Field (δ : Type) where
  name : String
  /-- Whether the draft has the field. -/
  present : δ → Bool
  read : δ → Reader δ

/-- The field of a name with the place that its value has in a draft. -/
def field {δ β : Type} (name : String) (get : δ → Option β) (put : δ → β → δ)
    (value : Reader β) : Field δ where
  name := name
  present draft := (get draft).isSome
  read draft := return put draft (← value)

/-- How a record of type `α` is read through drafts of type `δ`. -/
structure Layout (δ α : Type) where
  /-- What the record is called in errors. -/
  label : String
  fields : List (Field δ)
  /-- Whether a list may end before the last field. -/
  mayBeShort : Bool
  blank : δ
  /-- The record of a draft, or the first field it lacks. -/
  finish : δ → Except Error α

namespace Layout

variable {δ α : Type}

/-! ## From a list -/

/-- Reads fields from a list that has had `count` elements. -/
def elements (layout : Layout δ α) (count : Nat) (draft : δ) : List (Field δ) → Reader δ
  | [] => return draft
  | f :: rest => do
    if ← moreElements (count == 0) then layout.elements (count + 1) (← f.read draft) rest
    else if layout.mayBeShort then return draft
    else throw (.wrongLength count s!"{layout.label} with {layout.fields.length} elements")

/-- Reads a record from the elements of a list. -/
def fromList (layout : Layout δ α) : Reader α := do
  let draft ← layout.elements 0 layout.blank layout.fields
  let value ← layout.finish draft
  endList
  return value

/-! ## From an object -/

/-- Whether an object goes on; the comma before a field that is not the first is
taken, and so is the quote of the key. -/
def moreFields (first : Bool) : Reader Bool := do
  match ← peekToken? with
  | none => throw .endInObject
  | some '\x7d' =>
    advance
    return false
  | some c =>
    unless first do
      if c ≠ ',' then throw .expectedObjectEnd
      advance
    match ← peekToken? with
    | some '"' =>
      advance
      return true
    | some '\x7d' => throw .trailingComma
    | some _ => throw .keyNotText
    | none => throw .endInValue

/-- Reads the field of a key into a draft; a field that the record does not have
is passed over. -/
def readField (layout : Layout δ α) (draft : δ) (key : String) : Reader δ := do
  match layout.fields.find? (·.name == key) with
  | none =>
    colon
    skipValue
    return draft
  | some f =>
    if f.present draft then throw (.duplicateField key)
    colon
    f.read draft

/-- One step through an object. -/
def fieldStep (layout : Layout δ α) : Bool × δ → Reader ((Bool × δ) ⊕ δ)
  | (first, draft) => do
    if ← moreFields first then return .inl (false, ← layout.readField draft (← textBody))
    else return .inr draft

/-- Reads a record from the fields of an object. -/
def fromObject (layout : Layout δ α) : Reader α := do
  layout.finish (← loop layout.fieldStep (true, layout.blank))

def read (layout : Layout δ α) : Reader α := do
  match ← peekValue with
  | '[' =>
    advance
    layout.fromList
  | '\x7b' =>
    advance
    layout.fromObject
  | _ => mismatch layout.label

end Layout

/-- A field that a draft has to have. -/
def required {β : Type} (name : String) : Option β → Except Error β
  | some value => .ok value
  | none => .error (.missingField name)

end CoinTransfer.Json
