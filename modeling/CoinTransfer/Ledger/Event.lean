import CoinTransfer.Address.Json
import CoinTransfer.Coins.Json

/-!
# CoinTransfer.Ledger.Event

What a ledger records: coins that moved, coins that went into the community pool,
and coins that came into being.  In JSON an event is an object whose only key
tells the kind.
-/

namespace CoinTransfer

/-- A change of balances. -/
inductive Event where
  | transfer (height : UInt64) (sender recipient : Address) (amount : Coins)
  | communityPoolFunded (height : UInt64) (depositor : Address) (amount : Coins)
  | minted (recipient : Address) (amount : Coin)
deriving DecidableEq

namespace Event

/-! ## Names -/

/-- The names of the kinds of events. -/
def transferName : String := "Transfer"

@[inherit_doc transferName] def communityPoolFundedName : String := "CommunityPoolFunded"

@[inherit_doc transferName] def mintedName : String := "Minted"

def names : List String := [transferName, communityPoolFundedName, mintedName]

/-! ## Writing -/

def toJson : Event → Json.Value
  | .transfer height sender recipient amount =>
      .object [(transferName, .object [
        ("height", .number height.toNat),
        ("from", sender.toJson),
        ("to", recipient.toJson),
        ("amount", amount.toJson)])]
  | .communityPoolFunded height depositor amount =>
      .object [(communityPoolFundedName, .object [
        ("height", .number height.toNat),
        ("depositor", depositor.toJson),
        ("amount", amount.toJson)])]
  | .minted recipient amount =>
      .object [(mintedName, .object [
        ("to", recipient.toJson),
        ("amount", amount.toJson)])]

/-! ## Reading -/

structure Draft where
  height : Option UInt64
  sender : Option Address
  recipient : Option Address
  coins : Option Coins
  coin : Option Coin

def Draft.blank : Draft := ⟨none, none, none, none, none⟩

def heightField : Json.Field Draft :=
  Json.field "height" Draft.height (fun d v => { d with height := some v }) Json.word64

/-- The place of the account that coins come from, under the name it has. -/
def senderField (name : String) : Json.Field Draft :=
  Json.field name Draft.sender (fun d v => { d with sender := some v }) Address.read

def recipientField : Json.Field Draft :=
  Json.field "to" Draft.recipient (fun d v => { d with recipient := some v }) Address.read

def coinsField : Json.Field Draft :=
  Json.field "amount" Draft.coins (fun d v => { d with coins := some v }) Coins.read

def coinField : Json.Field Draft :=
  Json.field "amount" Draft.coin (fun d v => { d with coin := some v }) Coin.read

/-- How the content of an event of the given kind is read. -/
def layout (name : String) (fields : List (Json.Field Draft))
    (finish : Draft → Except Json.Error Event) : Json.Layout Draft Event where
  label := s!"struct variant LedgerEvent::{name}"
  fields := fields
  mayBeShort := false
  blank := Draft.blank
  finish := finish

def transferLayout : Json.Layout Draft Event :=
  layout transferName [heightField, senderField "from", recipientField, coinsField] fun d =>
    return .transfer (← Json.required "height" d.height) (← Json.required "from" d.sender)
      (← Json.required "to" d.recipient) (← Json.required "amount" d.coins)

/-- How the content of a deposit into the community pool is read. -/
def communityPoolFundedLayout : Json.Layout Draft Event :=
  layout communityPoolFundedName [heightField, senderField "depositor", coinsField] fun d =>
    return .communityPoolFunded (← Json.required "height" d.height)
      (← Json.required "depositor" d.sender) (← Json.required "amount" d.coins)

def mintedLayout : Json.Layout Draft Event :=
  layout mintedName [recipientField, coinField] fun d =>
    return .minted (← Json.required "to" d.recipient) (← Json.required "amount" d.coin)

def readContent (name : String) : Json.Reader Event :=
  if name = transferName then transferLayout.read
  else if name = communityPoolFundedName then communityPoolFundedLayout.read
  else mintedLayout.read

/-- Reads an event.  A bare name is not enough, as every kind has content. -/
def read : Json.Reader Event :=
  Json.variant names (fun _ => throw (.wrongType .unitVariant "struct variant")) readContent

end Event

end CoinTransfer
