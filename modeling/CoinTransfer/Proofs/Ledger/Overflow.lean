import Mathlib.Algebra.Order.BigOperators.Group.Finset
import CoinTransfer.Proofs.Ledger.Atomic
import CoinTransfer.Proofs.Ledger.Supply

/-!
# CoinTransfer.Proofs.Ledger.Overflow

When a balance has no room for a coin.  A send is refused for this reason only if the
sender has the coin, and is another account than the recipient.  The two hold no more
than the supply, so the recipient has room for all that the sender has as long as the
supply itself is an amount.
-/

namespace CoinTransfer

open Ledger

/-! ## Sends -/

namespace Operation

variable {s : Ledger} {op : Operation} {eff : Effect}

/-- The operations of the bank: they move coins between accounts, which may be given
by the names of modules. -/
def IsSend : Operation → Prop
  | .send .. => True
  | .sendFromModuleToAccount .. => True
  | .sendFromModuleToModule .. => True
  | .sendFromAccountToModule .. => True
  | _ => False

/-- What a send comes down to. -/
theorem IsSend.exists_move (hop : op.IsSend) (h : op.resolve s = .ok eff) :
    ∃ ctx sender recipient amount, eff = .move ctx sender recipient amount := by
  cases resolves_of_resolve h with
  | send | sendFromModuleToAccount | sendFromModuleToModule | sendFromAccountToModule =>
    exact ⟨_, _, _, _, rfl⟩
  | _ => exact hop.elim

end Operation

namespace Ledger

variable {s : Ledger} {sender recipient : Address} {denom name : String} {n : Amount}

/-! ## Names of modules -/

theorem moduleAccount_bind_ne_overflow {α : Type} {f : Address → Except KeeperError α}
    (h : ∀ a, f a ≠ .error (.overflow denom n)) :
    s.moduleAccount name >>= f ≠ .error (.overflow denom n) := by
  unfold moduleAccount
  cases s.modules[name]? with
  | some a => exact h a
  | none => exact fun he => by cases he

/-- No operation overflows before it has found its accounts. -/
theorem resolve_ne_overflow (s : Ledger) (op : Operation) (denom : String) (n : Amount) :
    op.resolve s ≠ .error (.overflow denom n) := by
  cases op with
  | mintToModule name denom' n' => exact moduleAccount_bind_ne_overflow fun a => nofun
  | sendFromModuleToAccount ctx sender recipient amount =>
    refine moduleAccount_bind_ne_overflow fun a => ?_
    split <;> nofun
  | sendFromModuleToModule ctx sender recipient amount =>
    refine moduleAccount_bind_ne_overflow fun a => ?_
    exact moduleAccount_bind_ne_overflow fun b => nofun
  | sendFromAccountToModule ctx sender recipient amount =>
    exact moduleAccount_bind_ne_overflow fun b => nofun
  | fundCommunityPool ctx amount depositor => exact moduleAccount_bind_ne_overflow fun a => nofun
  | _ => nofun

/-! ## The checks of a transfer -/

/-- A coin overflows only on its way to another account. -/
theorem checkCoin_eq_overflow {c : Coin}
    (h : s.checkCoin sender recipient c = .error (.overflow denom n)) :
    c.denom = denom ∧ sender ≠ recipient ∧ c.amount ≤ s.balance sender denom ∧
      UInt64.size ≤ (s.balance recipient denom).toNat + c.amount.toNat := by
  cases checkCoin_eq_error_iff.1 h with
  | full hheld hne hfull => exact ⟨rfl, hne, hheld, hfull⟩

/-! ## Balances and the supply -/

/-- Two accounts hold no more than there is. -/
theorem balance_add_balance_le_supply {a b : Address} (h : a ≠ b) (s : Ledger) (denom : String) :
    (s.balance a denom).toNat + (s.balance b denom).toNat ≤ s.supply denom :=
  Finset.add_le_sum (f := fun x => (s.balance x denom).toNat) (fun _ _ => Nat.zero_le _)
    (Finset.mem_univ a) (Finset.mem_univ b) h

theorem checkCoins_ne_overflow (hsupply : s.supply denom < UInt64.size) (coins : List Coin) :
    s.checkCoins sender recipient coins ≠ .error (.overflow denom n) := by
  intro h
  obtain ⟨-, c, -, -, -, hc⟩ := Except.forM_eq_error_iff.1 h
  obtain ⟨-, hne, hheld, hfull⟩ := checkCoin_eq_overflow hc
  -- The coin that the sender has does not fit beside what the recipient has.
  have hcoin := UInt64.le_iff_toNat_le.1 hheld
  have hboth := balance_add_balance_le_supply hne s denom
  omega

/-- **No overflow below the bound**: while no more of a denomination has been created
than fits into an amount, no send is refused because a balance of it would not. -/
theorem send_ne_overflow (hs : s.Reachable) {denom : String}
    (hcreated : Event.total (Event.supplied denom) s.history < UInt64.size) {op : Operation}
    (hop : op.IsSend) (n : Amount) : (op.perform s).result ≠ .error (.overflow denom n) := by
  intro h
  have hsupply : s.supply denom < UInt64.size := by
    obtain ⟨ops, rfl⟩ := hs
    rwa [supply_run]
  obtain hresolve | ⟨eff, hresolve, hcheck⟩ :=
    Operation.effect_eq_error_iff.1 (Operation.effect_of_result_error h)
  · exact resolve_ne_overflow s op denom n hresolve
  · obtain ⟨ctx, sender, recipient, amount, rfl⟩ := hop.exists_move hresolve
    exact checkCoins_ne_overflow hsupply amount.toList hcheck

namespace Example

/-- All that Alice has in this state. -/
def fortune : Amount := 18446744073709551610

/-- Alice and Bob hold together as much as an amount can say. -/
def full : Ledger := Operation.run initial [.deposit alice "unova" fortune, .deposit bob "unova" 5]

end Example

open Example in
/-- Bob has room for all that Alice has. -/
theorem send_ne_overflow_example :
    full.Reachable ∧ Event.total (Event.supplied "unova") full.history = 18446744073709551615 ∧
    ((Operation.send ctx alice bob (Coins.single "unova" fortune)).perform full).result =
      .ok .done ∧
    ((Operation.send ctx alice bob (Coins.single "unova" fortune)).perform full).result ≠
      .error (.overflow "unova" fortune) := by
  have hs : full.Reachable := ⟨_, rfl⟩
  have hcreated : Event.total (Event.supplied "unova") full.history = 18446744073709551615 := by
    decide +kernel
  have hsend : (Operation.send ctx alice bob (Coins.single "unova" fortune)).IsSend := trivial
  exact ⟨hs, hcreated, rfl, send_ne_overflow hs (by rw [hcreated]; decide) hsend fortune⟩

open Example in
/-- With one more in supply he has not. -/
example :
    ((Operation.send ctx alice bob (Coins.single "unova" fortune)).perform
      (Operation.run full [.deposit bob "unova" 1])).result =
        .error (.overflow "unova" fortune) := rfl

end Ledger

end CoinTransfer
