import CoinTransfer.Ledger

/-!
# CoinTransfer.Ledger.Transfer

Moving coins between the accounts of a ledger.  All coins of a call are checked
before any is moved, in the order of their denominations: first that the sender
has enough, then that the recipient's balance stays in bounds.  The check
foresees every step of the move, so a call moves all of its coins or none.
-/

namespace CoinTransfer.Ledger

/-! ## Checking -/

/-- Whether a coin can be moved from one account to another.  If the accounts are
the same, the coin is added to what is left after it has been taken. -/
def checkCoin (s : Ledger) (sender recipient : Address) (c : Coin) : Except KeeperError Unit :=
  let available := s.balance sender c.denom
  if available < c.amount then
    .error (.insufficientFunds sender.hex c.denom available c.amount)
  else
    let receiving :=
      if sender = recipient then available - c.amount else s.balance recipient c.denom
    match Amount.add? receiving c.amount with
    | some _ => .ok ()
    | none => .error (.overflow c.denom c.amount)

/-- Whether coins can be moved from one account to another. -/
def checkCoins (s : Ledger) (sender recipient : Address) (coins : List Coin) :
    Except KeeperError Unit :=
  coins.forM (s.checkCoin sender recipient)

/-- Whether the community pool can take a coin. -/
def checkPoolCoin (s : Ledger) (c : Coin) : Except KeeperError Unit :=
  match Amount.add? (s.pool.amountOf c.denom) c.amount with
  | some _ => .ok ()
  | none => .error (.overflow c.denom c.amount)

/-- Whether the community pool can take coins. -/
def checkPoolCoins (s : Ledger) (coins : List Coin) : Except KeeperError Unit :=
  coins.forM s.checkPoolCoin

/-! ## Moving -/

/-- Moves one coin that has been checked. -/
def moveCoin (sender recipient : Address) (c : Coin) : Call Unit := do
  debit sender c.denom c.amount
  let _ ← credit recipient c.denom c.amount

def moveCoins (sender recipient : Address) (coins : List Coin) : Call Unit :=
  coins.forM (moveCoin sender recipient)

/-- The log record of a transfer. -/
def transferRecord (ctx : Context) (sender recipient : Address) (amount : Coins) : Log.Record where
  level := .debug
  target := Log.ledgerTarget
  message := "ledger transfer applied"
  fields := [
    ("height", .number ctx.blockHeight),
    ("from", .shown sender.hex),
    ("to", .shown recipient.hex),
    ("amount", .shown amount.text)]

/-- Moves coins from one account to another. -/
def transfer (ctx : Context) (sender recipient : Address) (amount : Coins) : Call Unit := do
  Action.ofExcept ((← Action.get).checkCoins sender recipient amount.toList)
  moveCoins sender recipient amount.toList
  Action.emit (transferRecord ctx sender recipient amount)
  Action.modify (·.record (.transfer ctx.blockHeight sender recipient amount))

/-! ## The bank -/

def send (ctx : Context) (sender recipient : Address) (amount : Coins) : Call Unit :=
  transfer ctx sender recipient amount

/-- Refuses an account that modules may not pay. -/
def checkNotBlocked (a : Address) : Call Unit := do
  if a ∈ (← Action.get).blocked then
    Action.fail (.unauthorized s!"{a.hex} is not allowed to receive funds")

/-- Moves coins from the account of a module to an account that may be paid. -/
def sendFromModuleToAccount (ctx : Context) (sender : String) (recipient : Address)
    (amount : Coins) : Call Unit := do
  let a ← moduleAddress sender
  checkNotBlocked recipient
  transfer ctx a recipient amount

/-- Moves coins from the account of one module to that of another. -/
def sendFromModuleToModule (ctx : Context) (sender recipient : String) (amount : Coins) :
    Call Unit := do
  let a ← moduleAddress sender
  let b ← moduleAddress recipient
  transfer ctx a b amount

def sendFromAccountToModule (ctx : Context) (sender : Address) (recipient : String)
    (amount : Coins) : Call Unit := do
  let b ← moduleAddress recipient
  transfer ctx sender b amount

/-! ## The community pool -/

/-- Adds coins to the totals of the pool and records it.  The sums have been
checked. -/
def addToPool (s : Ledger) (ctx : Context) (depositor : Address) (amount : Coins) : Ledger :=
  { s with pool := amount.toList.foldl Totals.plus s.pool }.record
    (.communityPoolFunded ctx.blockHeight depositor amount)

/-- Moves coins from a depositor to the account that holds the community pool, and
counts them in.  The totals of the pool are checked before any balance is. -/
def fundCommunityPool (ctx : Context) (amount : Coins) (depositor : Address) : Call Unit := do
  let holder ← moduleAddress distributionModule
  Action.ofExcept ((← Action.get).checkPoolCoins amount.toList)
  transfer ctx depositor holder amount
  Action.modify (·.addToPool ctx depositor amount)

/-! ## The ledger as a host -/

/-- The ledger behind the capabilities of a host.  Its directory derives the
address of any name, registered or not. -/
def host : Host Ledger where
  send := send
  sendFromModuleToAccount := sendFromModuleToAccount
  sendFromModuleToModule := sendFromModuleToModule
  sendFromAccountToModule := sendFromAccountToModule
  fundCommunityPool := fundCommunityPool
  moduleAddress name := return Address.ofModule name

end CoinTransfer.Ledger
