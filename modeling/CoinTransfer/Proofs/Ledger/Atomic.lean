import CoinTransfer.Proofs.Route

/-!
# CoinTransfer.Proofs.Ledger.Atomic

A call that fails leaves the whole ledger as it was: the balances entry by entry,
the modules, the blocked accounts, the pool and the events.  This does not come
with `Action`, which keeps what a call has changed before it failed, and it holds
although a credit makes an entry before it checks the sum and a transfer moves
coins one after the other.
-/

namespace CoinTransfer

theorem Operation.state_of_error {op : Operation} {s : Ledger} {e : KeeperError}
    (h : (op.perform s).result = .error e) : (op.perform s).state = s := by
  rw [perform_of_error (effect_of_result_error h)]

theorem Teller.state_of_error {t : Teller} {ctx : Context} {amount : Amount} {route : Route}
    {s : Ledger} {e : TransferError}
    (h : (t.transfer Ledger.host ctx amount route s).result = .error e) :
    (t.transfer Ledger.host ctx amount route s).state = s := by
  rw [transfer_eq_outcome] at h ⊢
  cases ho : t.operation ctx amount route with
  | error e' => rfl
  | ok op =>
    rw [ho] at h
    cases hp : (op.perform s).result with
    | ok a => simp [outcome, hp, Except.map, Except.mapError] at h
    | error e' => exact Operation.state_of_error hp

/-- **Failure atomicity**: an operation on a ledger, or a route over it, that fails
leaves the state as it was. -/
theorem Ledger.unchanged_of_failure (s : Ledger) :
    (∀ (op : Operation) (e : KeeperError), (op.perform s).result = .error e →
      (op.perform s).state = s) ∧
    ∀ (t : Teller) (ctx : Context) (amount : Amount) (route : Route) (e : TransferError),
      (t.transfer Ledger.host ctx amount route s).result = .error e →
        (t.transfer Ledger.host ctx amount route s).state = s :=
  ⟨fun _ _ => Operation.state_of_error, fun _ _ _ _ _ => Teller.state_of_error⟩

/-! ## An example -/

namespace Ledger.Example

def alice : Address := ⟨List.replicate 20 1, rfl⟩

def bob : Address := ⟨List.replicate 20 2, rfl⟩

def ctx : Context := ⟨"nova-devnet", 7, ⟨0, 0⟩⟩

/-- Alice holds two denominations, and nobody else holds anything. -/
def ledger : Ledger :=
  Operation.run initial [.deposit alice "uatom" 5, .deposit alice "unova" 1000]

/-- Alice has the first of these coins, and too little for the second. -/
def coins : Coins := ⟨[⟨"uatom", 5⟩, ⟨"unova", 1001⟩], by decide, by decide⟩

/-- The teller of the default configuration. -/
def teller : Teller := ⟨"unova", ⟨"nova".toList, by decide⟩, by decide⟩

end Ledger.Example

open Ledger.Example

/-- A transfer that stops at its second coin, and a route from a module that is not
registered. -/
theorem Ledger.unchanged_of_failure_example :
    ((Operation.send ctx alice bob coins).perform ledger).result =
        .error (.insufficientFunds alice.hex "unova" 1000 1001) ∧
      ((Operation.send ctx alice bob coins).perform ledger).state = ledger ∧
      (teller.transfer host ctx 1 (.moduleToModule "ghost" "distribution") ledger).result =
        .error (.keeper (.unknownModule "ghost")) ∧
      (teller.transfer host ctx 1 (.moduleToModule "ghost" "distribution") ledger).state =
        ledger :=
  ⟨rfl, (unchanged_of_failure ledger).1 _ _ rfl, rfl,
    (unchanged_of_failure ledger).2 _ _ _ _ _ rfl⟩

end CoinTransfer
