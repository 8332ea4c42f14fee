import CoinTransfer.Route
import CoinTransfer.Proofs.Ledger.Effect

/-!
# CoinTransfer.Proofs.Route

Routes over the ledger.  Once its addresses have been read, a route is an
operation of the ledger in the teller's denomination; what it adds to that is a log
record in front (`Teller.transfer_eq_outcome`).  A route whose addresses cannot be
read leaves the ledger alone.  But for the log, a route leaves behind the
`settlement` of its operation, so routes are compared by what their operations
resolve to.
-/

namespace CoinTransfer

/-- What a call leaves behind, but for its log records. -/
def Outcome.withoutLog {σ ε α : Type} (o : Outcome σ ε α) : Except ε α × σ := (o.result, o.state)

/-- The text that a route gives for the address of a side; a module has none. -/
def Route.address? : Route → Role → Option String
  | .addressToAddress sender _, .sender => some sender
  | .addressToAddress _ recipient, .recipient => some recipient
  | .moduleToAddress _ recipient, .recipient => some recipient
  | .addressToModule sender _, .sender => some sender
  | .addressToTreasury sender, .sender => some sender
  | _, _ => none

namespace Teller

variable {t : Teller} {ctx : Context} {amount : Amount} {route : Route} {op : Operation}

/-- The address that a text spells for the teller. -/
def read (t : Teller) (role : Role) (text : String) : Except TransferError Address :=
  (t.codec.decode text).mapError (.invalidAddress role text)

/-- The operation of the ledger that a route comes down to. -/
def operation (t : Teller) (ctx : Context) (amount : Amount) :
    Route → Except TransferError Operation
  | .addressToAddress sender recipient => do
      let a ← t.read .sender sender
      let b ← t.read .recipient recipient
      .ok (.send ctx a b (t.coins amount))
  | .moduleToAddress sender recipient => do
      let b ← t.read .recipient recipient
      .ok (.sendFromModuleToAccount ctx sender b (t.coins amount))
  | .addressToModule sender recipient => do
      let a ← t.read .sender sender
      .ok (.sendFromAccountToModule ctx a recipient (t.coins amount))
  | .moduleToModule sender recipient =>
      .ok (.sendFromModuleToModule ctx sender recipient (t.coins amount))
  | .addressToTreasury sender => do
      let a ← t.read .sender sender
      .ok (.fundCommunityPool ctx (t.coins amount) a)
  | .moduleToTreasury sender =>
      .ok (.fundCommunityPool ctx (t.coins amount) (Address.ofModule sender))

/-! ## What a route leaves behind -/

/-- The record with which a route announces the call that it makes on the ledger. -/
def announced (t : Teller) (ctx : Context) (amount : Amount) : Route → Log.Record
  | .addressToAddress sender recipient =>
      t.announcement ctx amount "address -> address"
        [("from", .text sender), ("to", .text recipient)]
  | .moduleToAddress sender recipient =>
      t.announcement ctx amount "module -> address"
        [("module", .text sender), ("to", .text recipient)]
  | .addressToModule sender recipient =>
      t.announcement ctx amount "address -> module"
        [("from", .text sender), ("module", .text recipient)]
  | .moduleToModule sender recipient =>
      t.announcement ctx amount "module -> module"
        [("from_module", .text sender), ("to_module", .text recipient)]
  | .addressToTreasury sender =>
      t.announcement ctx amount "address -> treasury" [("from", .text sender)]
  | .moduleToTreasury sender =>
      t.announcement ctx amount "module -> treasury"
        [("module", .text sender), ("sender", .shown (Address.ofModule sender).hex)]

/-- What is logged about an error of a route before it is returned; the ledger logs nothing
about its own. -/
def complaint : TransferError → List Log.Record
  | .invalidAddress role text cause => [rejection role text cause]
  | .keeper _ => []

/-- What a route leaves behind on the ledger: if it comes down to an operation, what this
leaves, with the announcement in front of its log, and else the ledger as it was. -/
def outcome (s : Ledger) (announcement : Log.Record) :
    Except TransferError Operation → Outcome Ledger TransferError Unit
  | .ok op => ⟨((op.perform s).result.map fun _ => ()).mapError .keeper, (op.perform s).state,
      announcement :: (op.perform s).log⟩
  | .error e => ⟨.error e, s, complaint e⟩

/-- To read an address and go on leaves what reading it for the operation does. -/
theorem decode_bind_eq_outcome {s : Ledger} {r : Log.Record} {role : Role} {text : String}
    {f : Address → Action Ledger TransferError Unit}
    {g : Address → Except TransferError Operation} (h : ∀ a, f a s = outcome s r (g a)) :
    (t.decode role text >>= f) s = outcome s r (t.read role text >>= g) := by
  unfold read
  cases hd : t.codec.decode text with
  | ok a =>
    rw [decode_of_ok hd, pure_bind]
    exact h a
  | error cause => exact Action.bind_of_error (decode_of_error hd role s)

/-- Announcing a call and making it leaves what the operation does that the call is. -/
theorem emit_bind_eq_outcome {s : Ledger} {op : Operation} {x : Ledger.Call Unit}
    (h : op.perform = (fun _ => .done) <$> x) (r : Log.Record) :
    (Action.emit r >>= fun _ => x.mapError .keeper) s = outcome s r (.ok op) := by
  rw [Action.bind_of_ok (Action.emit_apply r s), outcome, h, Action.map_apply,
    Action.mapError_apply]
  cases (x s).result <;> rfl

/-- What a route does to the ledger is its operation, with a record in front. -/
theorem transfer_eq_outcome (t : Teller) (ctx : Context) (amount : Amount) (route : Route)
    (s : Ledger) :
    t.transfer Ledger.host ctx amount route s =
      outcome s (t.announced ctx amount route) (t.operation ctx amount route) := by
  cases route with
  | addressToAddress sender recipient =>
    refine decode_bind_eq_outcome fun a => ?_
    exact decode_bind_eq_outcome fun b => emit_bind_eq_outcome rfl _
  | moduleToAddress sender recipient =>
    exact decode_bind_eq_outcome fun b => emit_bind_eq_outcome rfl _
  | addressToModule sender recipient =>
    exact decode_bind_eq_outcome fun a => emit_bind_eq_outcome rfl _
  | moduleToModule sender recipient => exact emit_bind_eq_outcome rfl _
  | addressToTreasury sender =>
    exact decode_bind_eq_outcome fun a => emit_bind_eq_outcome rfl _
  | moduleToTreasury sender => exact emit_bind_eq_outcome rfl _

/-! ## Texts that are no addresses -/

/-- The addresses that a teller reads are those of its codec. -/
theorem read_eq_ok_iff {role : Role} {text : String} {a : Address} :
    t.read role text = .ok a ↔ t.codec.decode text = .ok a := by
  unfold read
  cases t.codec.decode text <;> simp [Except.mapError]

/-- A route fails at the address that is read first, or after it. -/
theorem read_bind_eq_error {role : Role} {text : String} {e : TransferError}
    {f : Address → Except TransferError Operation} (h : t.read role text >>= f = .error e) :
    (∃ cause, t.codec.decode text = .error cause ∧ e = .invalidAddress role text cause) ∨
      ∃ a, f a = .error e := by
  unfold read at h
  cases hd : t.codec.decode text with
  | ok a =>
    rw [hd] at h
    exact .inr ⟨a, h⟩
  | error cause =>
    rw [hd] at h
    cases h
    exact .inl ⟨cause, rfl, rfl⟩

/-- A route that comes down to no operation has a text that is no address. -/
theorem exists_of_operation_eq_error {e : TransferError}
    (h : t.operation ctx amount route = .error e) :
    ∃ role text cause, e = .invalidAddress role text cause ∧
      route.address? role = some text ∧ t.codec.decode text = .error cause := by
  cases route with
  | addressToAddress sender recipient =>
    obtain ⟨cause, hc, he⟩ | ⟨a, h⟩ := read_bind_eq_error h
    · exact ⟨.sender, sender, cause, he, rfl, hc⟩
    · obtain ⟨cause, hc, he⟩ | ⟨b, h⟩ := read_bind_eq_error h
      · exact ⟨.recipient, recipient, cause, he, rfl, hc⟩
      · cases h
  | moduleToAddress sender recipient =>
    obtain ⟨cause, hc, he⟩ | ⟨b, h⟩ := read_bind_eq_error h
    · exact ⟨.recipient, recipient, cause, he, rfl, hc⟩
    · cases h
  | addressToModule sender recipient =>
    obtain ⟨cause, hc, he⟩ | ⟨a, h⟩ := read_bind_eq_error h
    · exact ⟨.sender, sender, cause, he, rfl, hc⟩
    · cases h
  | moduleToModule sender recipient => cases h
  | addressToTreasury sender =>
    obtain ⟨cause, hc, he⟩ | ⟨a, h⟩ := read_bind_eq_error h
    · exact ⟨.sender, sender, cause, he, rfl, hc⟩
    · cases h
  | moduleToTreasury sender => cases h

/-! ## Without the log -/

/-- The answer and the state that an operation leads to for a teller, or that it
leads to when there is none. -/
def settlement (s : Ledger) : Except TransferError Operation → Except TransferError Unit × Ledger
  | .ok op => (((op.perform s).result.map fun _ => ()).mapError .keeper, (op.perform s).state)
  | .error e => (.error e, s)

/-- But for its log, a route is settled by its operation. -/
theorem withoutLog_transfer (t : Teller) (ctx : Context) (amount : Amount) (route : Route)
    (s : Ledger) :
    (t.transfer Ledger.host ctx amount route s).withoutLog =
      settlement s (t.operation ctx amount route) := by
  rw [transfer_eq_outcome]
  cases t.operation ctx amount route <;> rfl

/-- Operations that come down to the same effect settle to the same. -/
theorem settlement_congr {s : Ledger} {op op' : Operation} (h : op.resolve s = op'.resolve s) :
    settlement s (.ok op) = settlement s (.ok op') := by
  simp only [settlement, Operation.perform_apply, h]

/-- Routes that agree once an address has been read settle to the same. -/
theorem settlement_bind_congr {s : Ledger} {α : Type} {x : Except TransferError α}
    {f g : α → Except TransferError Operation}
    (h : ∀ a, x = .ok a → settlement s (f a) = settlement s (g a)) :
    settlement s (x >>= f) = settlement s (x >>= g) := by
  cases x with
  | ok a => exact h a rfl
  | error e => rfl

/-- A route whose operation resolves to nothing fails with the error of the ledger. -/
theorem settlement_of_resolve_error {s : Ledger} {e : KeeperError}
    (h : op.resolve s = .error e) : settlement s (.ok op) = (.error (.keeper e), s) := by
  simp only [settlement, Operation.perform_apply, h]
  rfl

/-- A route whose effect does not pass its check fails with the error of the ledger. -/
theorem settlement_of_check_error {s : Ledger} {eff : Effect} {e : KeeperError}
    (h : op.resolve s = .ok eff) (hcheck : eff.check s = .error e) :
    settlement s (.ok op) = (.error (.keeper e), s) := by
  simp only [settlement, Operation.perform_apply, h, Effect.settle, Effect.outcome_of_error hcheck]
  rfl

/-- A route whose effect passes its check succeeds, and the effect happens. -/
theorem settlement_of_check {s : Ledger} {eff : Effect} (h : op.resolve s = .ok eff)
    (hcheck : eff.check s = .ok ()) : settlement s (.ok op) = (.ok (), eff.after s) := by
  simp only [settlement, Operation.perform_apply, h, Effect.settle, Effect.outcome_of_ok hcheck]
  rfl

end Teller

end CoinTransfer
