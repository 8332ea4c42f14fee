import CoinTransfer.Teller

/-!
# CoinTransfer.Route

The six ways a teller moves its denomination: between addresses given as text,
module accounts given by name, and the community pool, which is also called the
treasury.  Each way reads the addresses it is given, writes a log record, and
makes one call on the host that moves coins.  An address that cannot be read ends
the transfer before the host is asked, and an error of the host is passed on.
Names of modules are keys of the host and are not checked.
-/

namespace CoinTransfer

/-- Where coins come from and where they go. -/
inductive Route where
  | addressToAddress (sender recipient : String)
  | moduleToAddress (sender recipient : String)
  | addressToModule (sender recipient : String)
  | moduleToModule (sender recipient : String)
  | addressToTreasury (sender : String)
  | moduleToTreasury (sender : String)
deriving DecidableEq, Repr

namespace Teller

variable {σ : Type}

/-! ## Log records -/

/-- The record about an address that cannot be read. -/
def rejection (role : Role) (text : String) (cause : AddressError) : Log.Record where
  level := .warn
  target := Log.routeTarget
  message := "rejecting transfer with undecodable address"
  fields := [("role", .shown role.name), ("address", .text text), ("error", .shown cause.message)]

/-- The record about a call that is going to be made on the host: the way that
coins go, its two ends, and what goes. -/
def announcement (t : Teller) (ctx : Context) (amount : Amount) (way : String)
    (ends : List (String × Log.FieldValue)) : Log.Record where
  level := .debug
  target := Log.routeTarget
  message := way
  fields :=
    ("height", .number ctx.blockHeight) ::
      (ends ++ [("amount", .number amount), ("denom", .shown t.denom)])

/-! ## Transfers -/

/-- Reads an address, and logs it if that fails. -/
def decode (t : Teller) (role : Role) (text : String) : Action σ TransferError Address :=
  match t.codec.decode text with
  | .ok a => return a
  | .error cause => do
    Action.emit (rejection role text cause)
    Action.fail (.invalidAddress role text cause)

/-- Moves an amount along a route.  The sender's address is read before the
recipient's, and both are before anything else happens. -/
def transfer (t : Teller) (host : Host σ) (ctx : Context) (amount : Amount) :
    Route → Action σ TransferError Unit
  | .addressToAddress sender recipient => do
    let a ← t.decode .sender sender
    let b ← t.decode .recipient recipient
    Action.emit (t.announcement ctx amount "address -> address"
      [("from", .text sender), ("to", .text recipient)])
    (host.send ctx a b (t.coins amount)).mapError .keeper
  | .moduleToAddress sender recipient => do
    let b ← t.decode .recipient recipient
    Action.emit (t.announcement ctx amount "module -> address"
      [("module", .text sender), ("to", .text recipient)])
    (host.sendFromModuleToAccount ctx sender b (t.coins amount)).mapError .keeper
  | .addressToModule sender recipient => do
    let a ← t.decode .sender sender
    Action.emit (t.announcement ctx amount "address -> module"
      [("from", .text sender), ("module", .text recipient)])
    (host.sendFromAccountToModule ctx a recipient (t.coins amount)).mapError .keeper
  | .moduleToModule sender recipient => do
    Action.emit (t.announcement ctx amount "module -> module"
      [("from_module", .text sender), ("to_module", .text recipient)])
    (host.sendFromModuleToModule ctx sender recipient (t.coins amount)).mapError .keeper
  | .addressToTreasury sender => do
    let a ← t.decode .sender sender
    Action.emit (t.announcement ctx amount "address -> treasury" [("from", .text sender)])
    (host.fundCommunityPool ctx (t.coins amount) a).mapError .keeper
  | .moduleToTreasury sender => do
    let a ← (host.moduleAddress sender).lift
    Action.emit (t.announcement ctx amount "module -> treasury"
      [("module", .text sender), ("sender", .shown a.hex)])
    (host.fundCommunityPool ctx (t.coins amount) a).mapError .keeper

/-- An address that can be read is read without a trace. -/
theorem decode_of_ok {t : Teller} {text : String} {a : Address} (h : t.codec.decode text = .ok a)
    (role : Role) : (t.decode role text : Action σ TransferError Address) = pure a := by
  simp [decode, h]

/-- An address that cannot be read leaves the state alone. -/
theorem decode_of_error {t : Teller} {text : String} {cause : AddressError}
    (h : t.codec.decode text = .error cause) (role : Role) (s : σ) :
    (t.decode role text : Action σ TransferError Address) s =
      ⟨.error (.invalidAddress role text cause), s, [rejection role text cause]⟩ := by
  simp [decode, h, Action.bind_apply]

end Teller

end CoinTransfer
