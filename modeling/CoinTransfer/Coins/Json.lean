import CoinTransfer.Coins
import CoinTransfer.Json.Layout
import CoinTransfer.Json.Value

/-!
# CoinTransfer.Coins.Json

Coins and sets of coins in JSON.  A coin is a record of the denomination, which may
be any string, and the amount.  A set is written as the list of its coins, and any
list of coins may be read: it is added up as a list in memory would be, with the same
fault if a denomination comes to too much.
-/

namespace CoinTransfer

namespace Coin

def toJson (c : Coin) : Json.Value :=
  .object [("denom", .text c.denom), ("amount", .number c.amount.toNat)]

structure Draft where
  denom : Option String
  amount : Option Amount

def layout : Json.Layout Draft Coin where
  label := "struct Coin"
  fields := [
    Json.field "denom" Draft.denom (fun d v => { d with denom := some v }) Json.text,
    Json.field "amount" Draft.amount (fun d v => { d with amount := some v }) Json.word64]
  mayBeShort := false
  blank := ⟨none, none⟩
  finish d := return ⟨← Json.required "denom" d.denom, ← Json.required "amount" d.amount⟩

def read : Json.Reader Coin := layout.read

end Coin

namespace Coins

def toJson (coins : Coins) : Json.Value := .list (coins.toList.map Coin.toJson)

def read : Json.Reader Coins := do
  match ofList (← Json.list Coin.read) with
  | .ok coins => return coins
  | .error e => throw (.rejected e.message)

end Coins

end CoinTransfer
