import CoinTransfer.Address
import CoinTransfer.Bech32.Regroup
import CoinTransfer.Text.Characters

/-!
# CoinTransfer.Address.Codec

Addresses as Bech32 text under the prefix of one chain.  A codec holds a prefix
that has been checked, so its reader never fails on account of the prefix.  Its
writer may only fail because a text is too long, which that of an address never is.
-/

namespace CoinTransfer

/-- The reader and writer of addresses under one prefix. -/
structure AddressCodec where
  hrp : Bech32.Prefix
deriving DecidableEq

namespace AddressCodec

/-- The codec of the prefix a text spells. -/
def ofText (text : String) : Except AddressError AddressCodec :=
  match Bech32.Prefix.parse text with
  | .ok hrp => .ok ⟨hrp⟩
  | .error _ => .error (.invalidPrefix text)

/-- Reads an address.  A text of blanks is told apart from other bad texts, and
the prefix is compared before the bytes are counted. -/
def decode (codec : AddressCodec) (text : String) : Except AddressError Address :=
  if text.toList.all Text.isBlank then .error .empty
  else
    match Bech32.decode text with
    | .error cause => .error (.notBech32 cause)
    | .ok (hrp, data) =>
        if hrp.Same codec.hrp then Address.ofBytes (Bech32.bytesOfSymbols data)
        else .error (.foreignPrefix codec.hrp.text hrp.text)

def encode (codec : AddressCodec) (a : Address) : Except AddressError String :=
  (Bech32.encode codec.hrp (Bech32.symbolsOfBytes a.bytes)).mapError .notEncoded

end AddressCodec

namespace Address

/-- Reads an address under the prefix a text spells; a bad prefix is reported
before the address is looked at. -/
def ofBech32 (text hrp : String) : Except AddressError Address := do
  (← AddressCodec.ofText hrp).decode text

/-- Writes an address under the prefix a text spells. -/
def toBech32 (a : Address) (hrp : String) : Except AddressError String := do
  (← AddressCodec.ofText hrp).encode a

end Address

end CoinTransfer
