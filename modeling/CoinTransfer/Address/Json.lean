import CoinTransfer.Address
import CoinTransfer.Json.Typed
import CoinTransfer.Json.Value

/-!
# CoinTransfer.Address.Json

Addresses in JSON: a string of forty hexadecimal digits, written in lower case
and read in either.
-/

namespace CoinTransfer.Address

def toJson (a : Address) : Json.Value := .text a.hex

/-- The address that hexadecimal digits stand for; the error is the reason why
there is none. -/
def ofHex (text : String) : Except String Address := do
  let bytes ← (Hex.decode text.toList).mapError Hex.Error.message
  (ofBytes bytes).mapError AddressError.message

/-- What was written is read back. -/
@[simp] theorem ofHex_hex (a : Address) : ofHex a.hex = .ok a := by
  have hbytes : Hex.decode a.hex.toList = .ok a.bytes := by simp [hex, Hex.encode]
  rw [ofHex, hbytes]
  show (ofBytes a.bytes).mapError AddressError.message = .ok a
  rw [ofBytes_bytes]
  rfl

def read : Json.Reader Address := do
  match ofHex (← Json.text) with
  | .ok a => return a
  | .error reason => throw (.rejected reason)

end CoinTransfer.Address
