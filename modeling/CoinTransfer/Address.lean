import CoinTransfer.Hex
import CoinTransfer.Sha256
import CoinTransfer.Bech32.Encoding

/-!
# CoinTransfer.Address

Accounts are identified by twenty bytes.  Two addresses are equal if their bytes
are, and they are ordered by them; how an address is written as text is a matter
of the encoding.  The address of a module account follows from its name alone.
-/

namespace CoinTransfer

/-- The identifier of an account. -/
structure Address where
  bytes : List UInt8
  length_bytes : bytes.length = 20
deriving DecidableEq

namespace Address

def size : Nat := 20

@[ext] theorem ext {a b : Address} (h : a.bytes = b.bytes) : a = b := by
  cases a; cases b; cases h; rfl

end Address

/-! ## Errors -/

/-- Why an address cannot be read or written. -/
inductive AddressError where
  /-- The text has no characters, or only blanks. -/
  | empty
  | notBech32 (cause : Bech32.Error)
  | notEncoded (cause : Bech32.EncodeError)
  /-- The prefix to read or write under is no prefix. -/
  | invalidPrefix (text : String)
  /-- The text carries another prefix than the one asked for. -/
  | foreignPrefix (expected got : String)
  /-- The bytes are not twenty. -/
  | wrongLength (got : Nat)
deriving DecidableEq, Repr

def AddressError.message : AddressError → String
  | .empty => "empty address string is not allowed"
  | .notBech32 cause => s!"bech32 decode error: {cause.message}"
  | .notEncoded cause => s!"bech32 encode error: {cause.message}"
  | .invalidPrefix text => s!"invalid bech32 prefix '{text}'"
  | .foreignPrefix expected got => s!"invalid bech32 prefix: expected '{expected}', got '{got}'"
  | .wrongLength got => s!"invalid address length: expected {Address.size} bytes, got {got}"

namespace Address

/-! ## From bytes and from names -/

/-- The address of a list of bytes, if there are twenty. -/
def ofBytes (bytes : List UInt8) : Except AddressError Address :=
  if h : bytes.length = 20 then .ok ⟨bytes, h⟩ else .error (.wrongLength bytes.length)

@[simp] theorem ofBytes_bytes (a : Address) : ofBytes a.bytes = .ok a := by
  simp [ofBytes, a.length_bytes]

theorem ofBytes_eq_ok_iff {bytes : List UInt8} {a : Address} :
    ofBytes bytes = .ok a ↔ a.bytes = bytes := by
  constructor
  · intro h
    unfold ofBytes at h
    split at h <;> cases h
    rfl
  · rintro rfl
    simp

/-- The address of the module account of a name: the first twenty bytes of the
digest of the name, which every node computes alike. -/
def ofModule (name : String) : Address :=
  ⟨(Sha256.digest (Text.utf8 name.toList)).take 20, by simp⟩

/-- The bytes in hexadecimal, in lower case. -/
def hex (a : Address) : String := Hex.encode a.bytes

/-- The address as it is shown in diagnostics. -/
def label (a : Address) : String := s!"AccountAddress({a.hex})"

/-! ## Order -/

instance : Ord Address := ⟨fun a b => compare a.bytes b.bytes⟩

instance : Std.TransOrd Address where
  eq_swap {a b} := Std.OrientedOrd.eq_swap (a := a.bytes) (b := b.bytes)
  isLE_trans {a b c} := Std.TransOrd.isLE_trans (a := a.bytes) (b := b.bytes) (c := c.bytes)

instance : Std.LawfulEqOrd Address where
  compare_self {a} := Std.ReflOrd.compare_self (a := a.bytes)
  eq_of_compare h := ext (Std.LawfulEqOrd.eq_of_compare h)

end Address

end CoinTransfer
