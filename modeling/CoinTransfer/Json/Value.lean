import CoinTransfer.Json.Text
import CoinTransfer.Json.Number

/-!
# CoinTransfer.Json.Value

Values as they are written: strings, natural numbers, lists, and objects with
their fields in order.  The written form has no white space.
-/

namespace CoinTransfer.Json

/-- A value to be written. -/
inductive Value where
  | text (s : String)
  | number (n : Nat)
  | list (elements : List Value)
  | object (fields : List (String × Value))

namespace Value

/-- Texts with commas between them. -/
def commaSeparated : List (List Char) → List Char
  | [] => []
  | [s] => s
  | s :: rest => s ++ ',' :: commaSeparated rest

mutual

/-- The written form of a value. -/
def write : Value → List Char
  | .text s => writeText s
  | .number n => writeNat n
  | .list elements => '[' :: (commaSeparated (writeElements elements) ++ [']'])
  | .object fields => '\x7b' :: (commaSeparated (writeFields fields) ++ ['\x7d'])

/-- The written forms of the elements of a list. -/
def writeElements : List Value → List (List Char)
  | [] => []
  | v :: rest => v.write :: writeElements rest

/-- The written forms of the fields of an object: a key, a colon and a value. -/
def writeFields : List (String × Value) → List (List Char)
  | [] => []
  | (key, v) :: rest => (writeText key ++ ':' :: v.write) :: writeFields rest

end

def render (v : Value) : String := String.ofList v.write

@[simp] theorem writeElements_eq (elements : List Value) :
    writeElements elements = elements.map write := by
  induction elements with
  | nil => rfl
  | cons v rest ih => rw [writeElements, ih]; rfl

@[simp] theorem writeFields_eq (fields : List (String × Value)) :
    writeFields fields = fields.map fun f => writeText f.1 ++ ':' :: f.2.write := by
  induction fields with
  | nil => rfl
  | cons f rest ih => rw [writeFields, ih]; rfl

end Value

end CoinTransfer.Json
