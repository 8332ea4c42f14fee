import CoinTransfer.Text.Utf8
import CoinTransfer.Text.Quoted

/-!
# CoinTransfer.Hex

Bytes as pairs of hexadecimal digits, most significant digit first.  Writing
uses the lower-case digits; reading takes either case.  The reader works on the
bytes of the text: an odd number of them is reported before anything else, and
then the first byte that is no digit with its position.
-/

namespace CoinTransfer.Hex

/-! ## Writing -/

/-- The two digits of a byte. -/
def ofByte (b : UInt8) : List Char :=
  [Nat.digitChar (b.toNat / 16), Nat.digitChar (b.toNat % 16)]

/-- The digits of a list of bytes. -/
def digits (bytes : List UInt8) : List Char := bytes.flatMap ofByte

/-- The digits of a list of bytes, as text. -/
def encode (bytes : List UInt8) : String := String.ofList (digits bytes)

@[simp] theorem digits_cons (b : UInt8) (bytes : List UInt8) :
    digits (b :: bytes) = ofByte b ++ digits bytes := rfl

@[simp] theorem length_digits (bytes : List UInt8) : (digits bytes).length = 2 * bytes.length := by
  induction bytes with
  | nil => rfl
  | cons b bytes ih => simp [ofByte, ih]; omega

/-! ## Reading -/

/-- Why a text is not a list of bytes in hexadecimal. -/
inductive Error where
  | oddLength
  /-- The byte at this position is no digit. -/
  | badDigit (byte : UInt8) (position : Nat)
deriving DecidableEq, Repr

/-- The wording of an error; a byte is shown as the character of that number. -/
def Error.message : Error → String
  | .oddLength => "Odd number of digits"
  | .badDigit byte position =>
      s!"Invalid character {Text.quoteChar (Char.ofNat byte.toNat)} at position {position}"

/-- The value of the ASCII digit with this code, of either case. -/
def digit? (b : UInt8) : Option UInt8 :=
  if 0x30 ≤ b ∧ b ≤ 0x39 then some (b - 0x30)
  else if 0x41 ≤ b ∧ b ≤ 0x46 then some (b - 0x37)
  else if 0x61 ≤ b ∧ b ≤ 0x66 then some (b - 0x57)
  else none

/-- The value of the digit at a position, or the complaint about it. -/
def digitAt (b : UInt8) (position : Nat) : Except Error UInt8 :=
  match digit? b with
  | some v => .ok v
  | none => .error (.badDigit b position)

/-- Reads digits in pairs, from the position of the first one on. -/
def decodePairs (position : Nat) : List UInt8 → Except Error (List UInt8)
  | [] => .ok []
  | [_] => .error .oddLength
  | high :: low :: rest => do
    let h ← digitAt high position
    let l ← digitAt low (position + 1)
    return (16 * h + l) :: (← decodePairs (position + 2) rest)

/-- Reads the bytes of a text as hexadecimal digits. -/
def decode (text : List Char) : Except Error (List UInt8) :=
  let bytes := Text.utf8 text
  if bytes.length % 2 = 1 then .error .oddLength else decodePairs 0 bytes

/-! ## Read back -/

/-- A written digit is one byte, which is read back. -/
theorem utf8EncodeChar_digitChar : ∀ n < 16,
    String.utf8EncodeChar (Nat.digitChar n) = [(Nat.digitChar n).toUInt8] ∧
      digit? (Nat.digitChar n).toUInt8 = some (UInt8.ofNat n) := by
  decide

/-- The digits of a byte are two bytes, which are read back from any position. -/
theorem decodePairs_ofByte (position : Nat) (b : UInt8) (rest : List UInt8) :
    decodePairs position (Text.utf8 (ofByte b) ++ rest) =
      (decodePairs (position + 2) rest).map (b :: ·) := by
  have hb := b.toNat_lt
  obtain ⟨hh, hv⟩ := utf8EncodeChar_digitChar (b.toNat / 16) (by omega)
  obtain ⟨hl, lv⟩ := utf8EncodeChar_digitChar (b.toNat % 16) (by omega)
  have hsum : 16 * UInt8.ofNat (b.toNat / 16) + UInt8.ofNat (b.toNat % 16) = b := by
    apply UInt8.toNat_inj.1
    simp
    omega
  simp only [ofByte, Text.utf8_cons, Text.utf8_nil, hh, hl, List.append_nil, List.cons_append,
    List.nil_append, decodePairs, digitAt, hv, lv]
  cases decodePairs (position + 2) rest <;>
    simp [bind, Except.bind, Except.map, pure, Except.pure, hsum]

/-- The digits of bytes are read back from any position. -/
theorem decodePairs_digits (position : Nat) (bytes : List UInt8) :
    decodePairs position (Text.utf8 (digits bytes)) = .ok bytes := by
  induction bytes generalizing position with
  | nil => rfl
  | cons b bytes ih => rw [digits_cons, Text.utf8_append, decodePairs_ofByte, ih]; rfl

/-- A byte is written in two bytes. -/
theorem length_utf8_ofByte (b : UInt8) : (Text.utf8 (ofByte b)).length = 2 := by
  have hb := b.toNat_lt
  obtain ⟨hh, -⟩ := utf8EncodeChar_digitChar (b.toNat / 16) (by omega)
  obtain ⟨hl, -⟩ := utf8EncodeChar_digitChar (b.toNat % 16) (by omega)
  simp [ofByte, hh, hl]

/-- So the digits pair up. -/
theorem length_utf8_digits (bytes : List UInt8) :
    (Text.utf8 (digits bytes)).length = 2 * bytes.length := by
  induction bytes with
  | nil => rfl
  | cons b bytes ih => simp [length_utf8_ofByte, ih]; omega

/-- What was written is read back. -/
@[simp] theorem decode_digits (bytes : List UInt8) : decode (digits bytes) = .ok bytes := by
  unfold decode
  rw [if_neg (by rw [length_utf8_digits]; omega), decodePairs_digits]

end CoinTransfer.Hex
