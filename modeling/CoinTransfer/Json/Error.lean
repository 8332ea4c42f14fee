import CoinTransfer.Text.Quoted

/-!
# CoinTransfer.Json.Error

What can be wrong with a JSON document that is read into a type.  A document is
read in one pass from left to right, so its first fault is the one reported, be
it one of syntax, of type or of the value itself.
-/

namespace CoinTransfer.Json

/-- A value that was found where another one was expected. -/
inductive Found where
  | null
  | boolean (value : Bool)
  | integer (value : Int)
  | float
  | text (value : String)
  | sequence
  | map
  /-- The bare name of a variant that has content. -/
  | unitVariant
deriving DecidableEq, Repr

/-- How an error describes a value. -/
def Found.describe : Found → String
  | .null => "null"
  | .boolean value => s!"boolean `{value}`"
  | .integer value => s!"integer `{value}`"
  | .float => "floating point"
  | .text value => s!"string {Text.quote value}"
  | .sequence => "sequence"
  | .map => "map"
  | .unitVariant => "unit variant"

/-- The first fault of a document. -/
inductive Error where
  | endInValue
  | endInList
  | endInObject
  | endInText
  | expectedValue
  /-- A word is none of `null`, `true` and `false`. -/
  | expectedWord
  | expectedColon
  /-- An element of a list is followed by neither a comma nor the end. -/
  | expectedListEnd
  /-- A field of an object is followed by neither a comma nor the end. -/
  | expectedObjectEnd
  | keyNotText
  /-- A comma is followed by the end of a list or an object. -/
  | trailingComma
  | trailingCharacters
  | invalidNumber
  /-- A number is too large for a float. -/
  | numberOutOfRange
  | invalidEscape
  /-- A control character stands unescaped in a string. -/
  | controlCharacter
  | loneSurrogate
  /-- A leading surrogate is not followed by an escape. -/
  | expectedSurrogate
  /-- A value of another type was found. -/
  | wrongType (found : Found) (expected : String)
  /-- A value of the right type is out of bounds. -/
  | wrongValue (found : Found) (expected : String)
  | wrongLength (length : Nat) (expected : String)
  | missingField (name : String)
  | duplicateField (name : String)
  | unknownVariant (name : String) (known : List String)
  /-- The type rejects the value; the text says why. -/
  | rejected (reason : String)
deriving DecidableEq, Repr

/-- The names of variants as an error lists them. -/
def listNames : List String → String
  | [] => "there are no variants"
  | [a] => s!"expected `{a}`"
  | [a, b] => s!"expected `{a}` or `{b}`"
  | names => "expected one of " ++ ", ".intercalate (names.map fun name => s!"`{name}`")

def Error.message : Error → String
  | .endInValue => "EOF while parsing a value"
  | .endInList => "EOF while parsing a list"
  | .endInObject => "EOF while parsing an object"
  | .endInText => "EOF while parsing a string"
  | .expectedValue => "expected value"
  | .expectedWord => "expected ident"
  | .expectedColon => "expected `:`"
  | .expectedListEnd => "expected `,` or `]`"
  | .expectedObjectEnd => "expected `,` or `\x7d`"
  | .keyNotText => "key must be a string"
  | .trailingComma => "trailing comma"
  | .trailingCharacters => "trailing characters"
  | .invalidNumber => "invalid number"
  | .numberOutOfRange => "number out of range"
  | .invalidEscape => "invalid escape"
  | .controlCharacter => "control character (\\u0000-\\u001F) found while parsing a string"
  | .loneSurrogate => "lone leading surrogate in hex escape"
  | .expectedSurrogate => "unexpected end of hex escape"
  | .wrongType found expected => s!"invalid type: {found.describe}, expected {expected}"
  | .wrongValue found expected => s!"invalid value: {found.describe}, expected {expected}"
  | .wrongLength length expected => s!"invalid length {length}, expected {expected}"
  | .missingField name => s!"missing field `{name}`"
  | .duplicateField name => s!"duplicate field `{name}`"
  | .unknownVariant name known => s!"unknown variant `{name}`, {listNames known}"
  | .rejected reason => reason

end CoinTransfer.Json
