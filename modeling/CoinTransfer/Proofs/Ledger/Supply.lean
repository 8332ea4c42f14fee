import Mathlib.Algebra.BigOperators.Group.Finset.Piecewise
import Mathlib.Data.Fintype.BigOperators
import Mathlib.Data.Set.Finite.List
import CoinTransfer.Proofs.Ledger.History

/-!
# CoinTransfer.Proofs.Ledger.Supply

The supply of a denomination is the exact sum of all balances.  Moving coins keeps
it, whoever the two sides are: summed over all accounts, the law of a move takes
the same amount from one side as it adds to the other.  Only the creation of coins
changes it, and so it is what the events say has been created.
-/

namespace CoinTransfer

/-- There are finitely many accounts, so that all balances have a sum. -/
instance : Finite Address := by
  have hbytes : Finite UInt8 := Finite.of_injective UInt8.toFin fun _ _ => UInt8.toFin_inj.1
  have hlists := (List.finite_length_eq UInt8 20).to_subtype
  exact Finite.of_injective
    (fun a : Address => (⟨a.bytes, a.length_bytes⟩ : { l : List UInt8 | l.length = 20 }))
    fun a b h => Address.ext (congrArg Subtype.val h)

noncomputable instance : Fintype Address := Fintype.ofFinite Address

/-- What an event creates in all accounts together. -/
def Event.supplied (denom : String) : Event → Nat
  | .minted _ c => if c.denom = denom then c.amount.toNat else 0
  | _ => 0

/-- What an effect creates of a denomination. -/
def Effect.creation (denom : String) : Effect → Nat
  | .mint _ d n => if d = denom then n.toNat else 0
  | _ => 0

/-- What an operation creates of a denomination if it succeeds. -/
def Operation.creation (denom : String) : Operation → Nat
  | .deposit _ d n => if d = denom then n.toNat else 0
  | .mintToModule _ d n => if d = denom then n.toNat else 0
  | _ => 0

theorem Operation.creation_eq_of_resolve {s : Ledger} {op : Operation} {eff : Effect}
    (h : op.resolve s = .ok eff) (denom : String) : eff.creation denom = op.creation denom := by
  cases resolves_of_resolve h <;> rfl

namespace Ledger

variable {s : Ledger}

/-- The exact sum of what all accounts have of a denomination. -/
noncomputable def supply (s : Ledger) (denom : String) : Nat :=
  ∑ a : Address, (s.balance a denom).toNat

@[simp] theorem supply_initial (denom : String) : initial.supply denom = 0 := by
  simp [supply, initial, register, balance]

theorem supply_minted {a : Address} {denom : String} {n : Amount}
    (h : (s.balance a denom).toNat + n.toNat < UInt64.size) (d : String) :
    (s.minted a denom n).supply d = s.supply d + if denom = d then n.toNat else 0 := by
  simp only [supply, toNat_balance_minted h, Finset.sum_add_distrib]
  by_cases hd : denom = d <;> simp [hd]

/-- A transfer keeps the supply: both sides of its law sum up to the amount. -/
theorem supply_moved {sender recipient : Address} {amount : Coins}
    (h : s.checkCoins sender recipient amount.toList = .ok ()) (ctx : Context) (d : String) :
    (s.moved ctx sender recipient amount).supply d = s.supply d := by
  have hsum := Fintype.sum_congr _ _ fun a => toNat_balance_moved h ctx a d
  simp only [Finset.sum_add_distrib, Finset.sum_ite_eq, Finset.mem_univ, if_true] at hsum
  exact Nat.add_right_cancel hsum

theorem supply_after {eff : Effect} (h : eff.check s = .ok ()) (d : String) :
    (eff.after s).supply d = s.supply d + eff.creation d := by
  cases eff with
  | register name => rfl
  | block a => rfl
  | mint a denom n => exact supply_minted (Effect.check_mint_eq_ok_iff.1 h) d
  | move ctx sender recipient amount => exact supply_moved h ctx d
  | fund ctx depositor holder amount =>
    exact supply_moved (Effect.check_fund_eq_ok_iff.1 h).2 ctx d

theorem supplied_after (s : Ledger) (eff : Effect) (d : String) :
    Event.total (Event.supplied d) (eff.after s).history =
      Event.total (Event.supplied d) s.history + eff.creation d := by
  rw [history_after, Event.total_append]
  cases eff <;> simp [Effect.records, Event.supplied, Effect.creation]

/-- What there is of a denomination is what has been created of it. -/
theorem supply_run (ops : List Operation) (d : String) :
    (Operation.run initial ops).supply d =
      Event.total (Event.supplied d) (Operation.run initial ops).history := by
  refine Operation.run_induction
    (P := fun s => s.supply d = Event.total (Event.supplied d) s.history) ?_ ?_ ops
  · rw [supply_initial]
    rfl
  · intro s op eff h he
    rw [supply_after (Operation.effect_eq_ok_iff.1 he).2, h, supplied_after]

theorem supply_apply (s : Ledger) (op : Operation) (d : String) :
    (op.apply s).supply d =
      s.supply d + if (op.perform s).result.isOk then op.creation d else 0 := by
  cases he : op.effect s with
  | ok eff =>
    obtain ⟨hresolve, hcheck⟩ := Operation.effect_eq_ok_iff.1 he
    rw [Operation.apply_of_effect he, supply_after hcheck, Operation.perform_of_effect he,
      Operation.creation_eq_of_resolve hresolve]
    rfl
  | error e =>
    rw [Operation.apply_of_error he, Operation.perform_of_error he]
    rfl

/-- **Conservation**: the supply of a denomination is what has been created of it, and
an operation adds to it only what it creates. -/
theorem supply_conserved (ops : List Operation) (denom : String) :
    let s := Operation.run initial ops
    s.supply denom = Event.total (Event.supplied denom) s.history ∧
      ∀ op : Operation, (op.apply s).supply denom =
        s.supply denom + if (op.perform s).result.isOk then op.creation denom else 0 :=
  ⟨supply_run ops denom, fun op => supply_apply _ op denom⟩

end Ledger

end CoinTransfer
