import CoinTransfer.Address

/-!
# CoinTransfer.Address.Binary

The binary form of an address: the number of its bytes as a word of eight bytes,
least significant first, and the bytes.  A reader takes what it needs and leaves
the rest.
-/

namespace CoinTransfer.Address

/-! ## Lengths -/

/-- A number below 2^64 in eight bytes, least significant first. -/
def lengthWord (n : Nat) : List UInt8 := (List.range 8).map fun i => UInt8.ofNat (n >>> (8 * i))

/-- The number that bytes stand for, least significant first. -/
def numberOfBytes : List UInt8 → Nat
  | [] => 0
  | b :: rest => b.toNat + 256 * numberOfBytes rest

@[simp] theorem length_lengthWord (n : Nat) : (lengthWord n).length = 8 := by simp [lengthWord]

/-! ## Writing and reading -/

/-- The binary form of an address. -/
def toBinary (a : Address) : List UInt8 := lengthWord a.bytes.length ++ a.bytes

/-- Why bytes do not begin with the binary form of an address. -/
inductive BinaryError where
  /-- The bytes end before the length or before that many bytes. -/
  | truncated
  | address (cause : AddressError)
deriving DecidableEq, Repr

/-- Reads the address that bytes begin with. -/
def ofBinary (bytes : List UInt8) : Except BinaryError Address :=
  let count := numberOfBytes (bytes.take 8)
  let rest := bytes.drop 8
  if bytes.length < 8 ∨ rest.length < count then .error .truncated
  else (ofBytes (rest.take count)).mapError .address

/-- The address that bytes begin with is read, whatever follows it. -/
theorem ofBinary_toBinary_append (a : Address) (rest : List UInt8) :
    ofBinary (a.toBinary ++ rest) = .ok a := by
  have hn : numberOfBytes (lengthWord 20) = 20 := by decide
  simp only [ofBinary, toBinary, a.length_bytes, List.append_assoc, List.length_append,
    length_lengthWord]
  simp only [List.take_left', List.drop_left', length_lengthWord, hn, List.length_append,
    a.length_bytes]
  rw [if_neg (by omega)]
  simp
  rfl

end CoinTransfer.Address
