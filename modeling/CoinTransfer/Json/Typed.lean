import CoinTransfer.Json.Skip

/-!
# CoinTransfer.Json.Typed

Readers of values of a known type: strings, words of sixty-four bits, lists, and
names that choose between variants.  A value of another type is described in the
error; lists and objects are recognized by their first character.
-/

namespace CoinTransfer.Json

/-- Reports that the next value is not of the expected type, unless it has a
fault of its own. -/
def mismatch {α : Type} (expected : String) : Reader α := do
  match ← peekValue with
  | 'n' => advance; word ['u', 'l', 'l']; throw (.wrongType .null expected)
  | 't' => advance; word ['r', 'u', 'e']; throw (.wrongType (.boolean true) expected)
  | 'f' => advance; word ['a', 'l', 's', 'e']; throw (.wrongType (.boolean false) expected)
  | '"' => advance; throw (.wrongType (.text (← textBody)) expected)
  | '[' => throw (.wrongType .sequence expected)
  | '\x7b' => throw (.wrongType .map expected)
  | c =>
    if c = '-' ∨ c.isDigit then throw (.wrongType (← number).found expected)
    else throw .expectedValue

/-! ## Scalars -/

def text : Reader String := do
  match ← peekValue with
  | '"' =>
    advance
    textBody
  | _ => mismatch "a string"

/-- Reads a word of sixty-four bits. -/
def word64 : Reader UInt64 := do
  let c ← peekValue
  if c = '-' ∨ c.isDigit then
    match ← number with
    | .integer value =>
      if 0 ≤ value then return value.toNat.toUInt64
      else throw (.wrongValue (.integer value) "u64")
    | .float => throw (.wrongType .float "u64")
  else mismatch "u64"

def null : Reader Unit := do
  match ← peekValue with
  | 'n' =>
    advance
    word ['u', 'l', 'l']
  | _ => mismatch "unit"

/-! ## Lists -/

/-- Whether a list goes on; the comma before an element that is not the first is
taken. -/
def moreElements (first : Bool) : Reader Bool := do
  match ← peekToken? with
  | none => throw .endInList
  | some ']' => return false
  | some c =>
    if first then return true
    if c ≠ ',' then throw .expectedListEnd
    advance
    match ← peekToken? with
    | some ']' => throw .trailingComma
    | some _ => return true
    | none => throw .endInValue

/-- Takes the end of a list that should hold no more elements. -/
def endList : Reader Unit := do
  match ← peekToken? with
  | some ']' => advance
  | some ',' =>
    advance
    if (← peekToken?) = some ']' then throw .trailingComma else throw .trailingCharacters
  | some _ => throw .trailingCharacters
  | none => throw .endInList

/-- One step through a list; the elements so far come last first. -/
def elementsStep {α : Type} (element : Reader α) (read : List α) : Reader (List α ⊕ List α) := do
  if ← moreElements read.isEmpty then return .inl ((← element) :: read)
  else return .inr read.reverse

/-- Reads a list of any length. -/
def list {α : Type} (element : Reader α) : Reader (List α) := do
  match ← peekValue with
  | '[' =>
    advance
    let elements ← loop (elementsStep element) []
    endList
    return elements
  | _ => mismatch "a sequence"

/-! ## Variants -/

/-- Reads the rest of a name, after its first quote, that is to be one of the
known ones. -/
def variantName (known : List String) : Reader String := do
  let name ← textBody
  if name ∈ known then return name else throw (.unknownVariant name known)

/-- Takes the first quote of the only key of an object.  An object that has no key
lacks a value; one that has another kind of key has a bad key. -/
def onlyKey : Reader Unit := do
  match ← peekToken? with
  | some '"' => advance
  | some '\x7d' => throw .expectedValue
  | some _ => throw .keyNotText
  | none => throw .endInObject

/-- Reads a variant: its bare name, or an object whose only key is the name and
whose value is the content. -/
def variant {α : Type} (known : List String) (bare content : String → Reader α) : Reader α := do
  match ← peekValue with
  | '"' =>
    advance
    bare (← variantName known)
  | '\x7b' =>
    advance
    onlyKey
    let name ← variantName known
    colon
    let value ← content name
    match ← peekToken? with
    | some '\x7d' =>
      advance
      return value
    | some _ => throw .expectedValue
    | none => throw .endInObject
  | _ => throw .expectedValue

end CoinTransfer.Json
