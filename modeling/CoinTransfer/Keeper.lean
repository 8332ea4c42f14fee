import CoinTransfer.Action
import CoinTransfer.Address
import CoinTransfer.Coins
import CoinTransfer.Context

/-!
# CoinTransfer.Keeper

What transfers ask of a host: a bank that moves coins between accounts and module
accounts, a distribution module that takes deposits into the community pool, and
a directory of module accounts.  A host may keep any state and do anything in a
call, and a call that fails may have changed the state before.
-/

namespace CoinTransfer

/-- Why a host refuses a call. -/
inductive KeeperError where
  | insufficientFunds (holder denom : String) (available requested : Amount)
  | unknownModule (name : String)
  /-- A recipient may not be paid; the text says which. -/
  | unauthorized (reason : String)
  | overflow (denom : String) (amount : Amount)
  | other (reason : String)
deriving DecidableEq, Repr

def KeeperError.message : KeeperError → String
  | .insufficientFunds holder denom available requested =>
      s!"insufficient funds: {holder} has {available}{denom}, requested {requested}{denom}"
  | .unknownModule name => s!"module account {name} does not exist"
  | .unauthorized reason => s!"unauthorized: {reason}"
  | .overflow denom amount => s!"balance overflow crediting {amount}{denom}"
  | .other reason => reason

/-- The bank of a host. -/
structure Bank (σ : Type) where
  send : Context → Address → Address → Coins → Action σ KeeperError Unit
  sendFromModuleToAccount : Context → String → Address → Coins → Action σ KeeperError Unit
  sendFromModuleToModule : Context → String → String → Coins → Action σ KeeperError Unit
  sendFromAccountToModule : Context → Address → String → Coins → Action σ KeeperError Unit

/-- The keeper of the community pool of a host. -/
structure Distribution (σ : Type) where
  fundCommunityPool : Context → Coins → Address → Action σ KeeperError Unit

/-- The directory of module accounts of a host. -/
structure Accounts (σ : Type) where
  moduleAddress : String → Action σ Empty Address

/-- A host with all capabilities. -/
structure Host (σ : Type) extends Bank σ, Distribution σ, Accounts σ

/-! ## Names of modules -/

/-- The module that issues new supply. -/
def mintModule : String := "mint"

/-- The module that collects fees before they are distributed. -/
def feeCollectorModule : String := "fee_collector"

/-- The module that holds the community pool. -/
def distributionModule : String := "distribution"

end CoinTransfer
