import CoinTransfer.Keeper

/-!
# CoinTransfer.Keeper.Recorded

A host that keeps a list of the calls made on it.  It stands in front of any host
and behaves as that one does.
-/

namespace CoinTransfer

/-- A call on a host, with its arguments. -/
inductive HostCall where
  | send (ctx : Context) (sender recipient : Address) (amount : Coins)
  | sendFromModuleToAccount (ctx : Context) (sender : String) (recipient : Address)
      (amount : Coins)
  | sendFromModuleToModule (ctx : Context) (sender recipient : String) (amount : Coins)
  | sendFromAccountToModule (ctx : Context) (sender : Address) (recipient : String)
      (amount : Coins)
  | fundCommunityPool (ctx : Context) (amount : Coins) (depositor : Address)
  | moduleAddress (name : String)
deriving DecidableEq

namespace Host

variable {σ ε α : Type}

/-- Notes a call and then makes it. -/
def noting (call : HostCall) (x : Action σ ε α) : Action (σ × List HostCall) ε α := fun s =>
  let o := x s.1
  ⟨o.result, (o.state, s.2 ++ [call]), o.log⟩

/-- The host that notes the calls made on another one. -/
def recorded (host : Host σ) : Host (σ × List HostCall) where
  send ctx a b amount := noting (.send ctx a b amount) (host.send ctx a b amount)
  sendFromModuleToAccount ctx a b amount :=
    noting (.sendFromModuleToAccount ctx a b amount) (host.sendFromModuleToAccount ctx a b amount)
  sendFromModuleToModule ctx a b amount :=
    noting (.sendFromModuleToModule ctx a b amount) (host.sendFromModuleToModule ctx a b amount)
  sendFromAccountToModule ctx a b amount :=
    noting (.sendFromAccountToModule ctx a b amount) (host.sendFromAccountToModule ctx a b amount)
  fundCommunityPool ctx amount a :=
    noting (.fundCommunityPool ctx amount a) (host.fundCommunityPool ctx amount a)
  moduleAddress name := noting (.moduleAddress name) (host.moduleAddress name)

/-- A host without state that derives the addresses of modules and answers every
other call the same way. -/
def answering (result : Except KeeperError Unit) : Host Unit where
  send _ _ _ _ := Action.ofExcept result
  sendFromModuleToAccount _ _ _ _ := Action.ofExcept result
  sendFromModuleToModule _ _ _ _ := Action.ofExcept result
  sendFromAccountToModule _ _ _ _ := Action.ofExcept result
  fundCommunityPool _ _ _ := Action.ofExcept result
  moduleAddress name := return Address.ofModule name

end Host

end CoinTransfer
