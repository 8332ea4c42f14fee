import Std.Data.ExtTreeSet.Lemmas
import CoinTransfer.Keeper
import CoinTransfer.Ledger.Balances
import CoinTransfer.Ledger.Event

/-!
# CoinTransfer.Ledger

A ledger held in memory: balances, module accounts, accounts that modules may not
pay, the totals of the community pool, and the events so far.  This module holds
the state, what can be asked of it, and the operations that do not move coins
between accounts.
-/

namespace CoinTransfer

/-- The state of a ledger. -/
structure Ledger where
  balances : Balances
  /-- The addresses of the registered module accounts, by name. -/
  modules : Std.ExtTreeMap String Address
  /-- The accounts that modules may not pay. -/
  blocked : Std.ExtTreeSet Address
  /-- What has been deposited into the community pool. -/
  pool : Totals
  /-- What has happened, in order. -/
  events : Array Event

namespace Ledger

/-! ## Asking -/

def balance (s : Ledger) (a : Address) (denom : String) : Amount := s.balances.amountOf a denom

/-- The balance of the account of a module, or zero if it is not registered. -/
def moduleBalance (s : Ledger) (name denom : String) : Amount :=
  match s.modules[name]? with
  | some a => s.balance a denom
  | none => 0

/-- What is in the community pool. -/
def communityPool (s : Ledger) : Coins := Coins.ofTotals s.pool

/-! ## Changing the state -/

def record (s : Ledger) (e : Event) : Ledger := { s with events := s.events.push e }

/-- The state with the account of a module registered. -/
def register (s : Ledger) (name : String) : Ledger :=
  { s with modules := s.modules.insert name (Address.ofModule name) }

def block (s : Ledger) (a : Address) : Ledger := { s with blocked := s.blocked.insert a }

def setBalance (s : Ledger) (a : Address) (denom : String) (n : Amount) : Ledger :=
  { s with balances := s.balances.update a denom n }

/-- The ledger at the start: it is empty, and the module that holds the community
pool is registered. -/
def initial : Ledger := register ⟨∅, ∅, ∅, ∅, #[]⟩ distributionModule

/-! ## Calls -/

abbrev Call := Action Ledger KeeperError

/-- Registers the account of a module and answers with its address. -/
def registerModule (name : String) : Call Address := do
  Action.modify (·.register name)
  return Address.ofModule name

def blockAddress (a : Address) : Call Unit := Action.modify (·.block a)

/-- The address of a registered module account. -/
def moduleAddress (name : String) : Call Address := do
  match (← Action.get).modules[name]? with
  | some a => return a
  | none => Action.fail (.unknownModule name)

/-- Adds to a balance and answers with the sum.  The entry is made before the
sum is checked. -/
def credit (a : Address) (denom : String) (n : Amount) : Call Amount := do
  let held := (← Action.get).balance a denom
  Action.modify (·.setBalance a denom held)
  match Amount.add? held n with
  | some sum =>
    Action.modify (·.setBalance a denom sum)
    return sum
  | none => Action.fail (.overflow denom n)

/-- Takes from a balance that has an entry; it is for the caller to see that the
balance is large enough. -/
def debit (a : Address) (denom : String) (n : Amount) : Call Unit :=
  Action.modify fun s =>
    if s.balances.HasEntry a denom then s.setBalance a denom (s.balance a denom - n) else s

/-- Creates new supply in an account and answers with the new balance. -/
def deposit (a : Address) (denom : String) (n : Amount) : Call Amount := do
  let sum ← credit a denom n
  Action.modify (·.record (.minted a ⟨denom, n⟩))
  return sum

/-- Creates new supply in the account of a module: the account is looked up, and
then it is deposited into. -/
def mintToModule (name denom : String) (n : Amount) : Call Amount := do
  deposit (← moduleAddress name) denom n

end Ledger

end CoinTransfer
