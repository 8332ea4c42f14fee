import CoinTransfer.Address.Codec
import CoinTransfer.Coins
import CoinTransfer.Config
import CoinTransfer.Keeper

/-!
# CoinTransfer.Teller

A teller makes transfers in one denomination, for addresses under one prefix.  It
holds both in checked form and no state, so one teller can serve any number of
hosts.
-/

namespace CoinTransfer

/-- One denomination and one prefix of addresses. -/
structure Teller where
  denom : String
  codec : AddressCodec
  denom_valid : Denom.Valid denom

/-- Which side of a transfer an address belongs to. -/
inductive Role where
  | sender
  | recipient
deriving DecidableEq, Repr

def Role.name : Role → String
  | .sender => "sender"
  | .recipient => "recipient"

/-- Why a transfer was not made. -/
inductive TransferError where
  /-- An address cannot be read, and the host was not asked. -/
  | invalidAddress (role : Role) (text : String) (cause : AddressError)
  /-- The host refused. -/
  | keeper (cause : KeeperError)
deriving DecidableEq, Repr

/-- The wording of an error; that of a host is passed on. -/
def TransferError.message : TransferError → String
  | .invalidAddress role text cause => s!"invalid {role.name} address '{text}': {cause.message}"
  | .keeper cause => cause.message

namespace Teller

/-- The teller of a configuration that passes its checks. -/
def ofConfig (patterns : Log.Patterns) (c : Config) : Except ConfigError Teller :=
  match h : Denom.problem? c.denom with
  | some problem => .error (.invalidDenom c.denom problem)
  | none => do
    let hrp ← Config.checkPrefix c.hrp
    let _ ← Config.checkLogging patterns c.logging
    return ⟨c.denom, ⟨hrp⟩, h⟩

/-- An amount in the teller's denomination, as a set of coins. -/
def coins (t : Teller) (amount : Amount) : Coins := Coins.single t.denom amount

/-- There is a teller for exactly the configurations that are valid, and the first
problem is reported the same way. -/
theorem ofConfig_map_eq_validate (patterns : Log.Patterns) (c : Config) :
    (ofConfig patterns c).map (fun _ => ()) = c.validate patterns := by
  unfold ofConfig Config.validate Config.checkDenom
  split
  · next h => simp [h]; rfl
  · next h =>
    simp only [h]
    cases Config.checkPrefix c.hrp with
    | error e => rfl
    | ok hrp => cases Config.checkLogging patterns c.logging <;> rfl

end Teller

end CoinTransfer
