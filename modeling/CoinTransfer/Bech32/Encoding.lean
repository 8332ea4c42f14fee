import CoinTransfer.Bech32.Prefix
import CoinTransfer.Bech32.Checksum

/-!
# CoinTransfer.Bech32.Encoding

Bech32 texts: a prefix, the separator `1`, and symbols of which the last six are
a checksum.  The separator is the last `1` of the text, since no symbol is
written so, while a prefix may hold some.  A text is written in lower case and
may be read in either, but not in both.
-/

namespace CoinTransfer.Bech32

/-- Why a text is no Bech32 text. -/
inductive Error where
  /-- There is no separator, what precedes it is no prefix, a character after it
  is no symbol, or letters of both cases occur. -/
  | malformed
  /-- The text is too long to be protected by a checksum, too short to hold one,
  or holds a wrong one. -/
  | badChecksum
deriving DecidableEq, Repr

def Error.message : Error → String
  | .malformed => "parse failed"
  | .badChecksum => "invalid checksum"

/-- Why a text cannot be written. -/
inductive EncodeError where
  /-- The text would be too long to be protected by a checksum. -/
  | tooLong
deriving DecidableEq, Repr

def EncodeError.message : EncodeError → String
  | .tooLong => "encode error"

/-- The greatest length of a text: the checksum tells apart no longer ones. -/
def maxLength : Nat := 1023

/-! ## Writing -/

/-- The characters of a prefix with its data and their checksum. -/
def encodeChars (hrp : Prefix) (data : List Symbol) : List Char :=
  hrp.lowerChars ++ '1' :: (data ++ checksum hrp.lowerChars data).map charOfSymbol

/-- The text of a prefix with its data and their checksum, unless it is too long. -/
def encode (hrp : Prefix) (data : List Symbol) : Except EncodeError String :=
  if (encodeChars hrp data).length ≤ maxLength then .ok (String.ofList (encodeChars hrp data))
  else .error .tooLong

/-- The prefix, the separator, a character for each symbol, and the checksum. -/
theorem length_encodeChars (hrp : Prefix) (data : List Symbol) :
    (encodeChars hrp data).length = hrp.chars.length + 1 + data.length + checksumLength := by
  simp [encodeChars, Prefix.lowerChars]
  omega

/-! ## Reading -/

/-- The parts before and after the last `1`. -/
def splitAtSeparator : List Char → Option (List Char × List Char)
  | [] => none
  | c :: rest =>
      match splitAtSeparator rest with
      | some (front, back) => some (c :: front, back)
      | none => if c = '1' then some ([], rest) else none

def mixesCase (text : List Char) : Bool := text.any Char.isLower && text.any Char.isUpper

/-- The prefix and the symbols of a text, checksum included. -/
def parts? (text : List Char) : Option (Prefix × List Symbol) := do
  let (front, back) ← splitAtSeparator text
  let hrp ← (Prefix.ofChars front).toOption
  let symbols ← back.mapM symbolOfChar?
  guard (¬ mixesCase text)
  return (hrp, symbols)

/-- Whether the length of a text allows a checksum and its symbols end in the
right one. -/
def Verified (text : List Char) (hrp : Prefix) (symbols : List Symbol) : Prop :=
  text.length ≤ maxLength ∧ checksumLength ≤ symbols.length ∧
    residue hrp.lowerChars symbols = 1

instance (text : List Char) (hrp : Prefix) (symbols : List Symbol) :
    Decidable (Verified text hrp symbols) := inferInstanceAs (Decidable (_ ∧ _ ∧ _))

/-- The prefix and the data of a text. -/
def decodeChars (text : List Char) : Except Error (Prefix × List Symbol) :=
  match parts? text with
  | none => .error .malformed
  | some (hrp, symbols) =>
      if Verified text hrp symbols then
        .ok (hrp, symbols.take (symbols.length - checksumLength))
      else .error .badChecksum

/-- The prefix and the data of a text. -/
def decode (text : String) : Except Error (Prefix × List Symbol) := decodeChars text.toList

/-! ## The separator -/

/-- There is nothing to split exactly when there is no separator. -/
theorem splitAtSeparator_eq_none_iff {text : List Char} :
    splitAtSeparator text = none ↔ '1' ∉ text := by
  induction text with
  | nil => simp [splitAtSeparator]
  | cons c rest ih =>
    rw [splitAtSeparator]
    cases hs : splitAtSeparator rest with
    | none =>
      have := ih.1 hs
      by_cases hc : c = '1' <;> grind
    | some parts =>
      have : '1' ∈ rest := Decidable.not_not.1 fun h => by simp [ih.2 h] at hs
      simp [this]

/-- The two parts and the separator make up the text, and the second part holds
no other one. -/
theorem splitAtSeparator_eq_some_iff {text front back : List Char} :
    splitAtSeparator text = some (front, back) ↔ text = front ++ '1' :: back ∧ '1' ∉ back := by
  induction text generalizing front with
  | nil => simp [splitAtSeparator]
  | cons c rest ih =>
    rw [splitAtSeparator]
    cases hs : splitAtSeparator rest with
    | none =>
      have hn := splitAtSeparator_eq_none_iff.1 hs
      cases front with
      | nil => by_cases hc : c = '1' <;> grind
      | cons x front => grind
    | some parts =>
      obtain ⟨f, b⟩ := parts
      cases front with
      | nil => grind [splitAtSeparator_eq_none_iff]
      | cons x front => grind

end CoinTransfer.Bech32
