import CoinTransfer.Proofs.Ledger.Atomic
import CoinTransfer.Proofs.Ledger.History
import CoinTransfer.Proofs.Ledger.Registry

/-!
# CoinTransfer.Proofs.Ledger.Treasury

The community pool and the account that holds it.  The pool is a running total of
what has been deposited; the coins themselves lie in the account of a module, which
pays them out like any other account, and nothing is taken from the total then.  So
the account covers what others have deposited up to what it has paid to others, and
no further.

The invariant is that the `surplus` is never negative.  A deposit by another account
moves as much into the account as it adds to the total.  What the account moves to
itself leaves it where it was, and is neither a payment nor a deposit of others.
-/

namespace CoinTransfer

namespace Event

/-! ## Payments and deposits -/

/-- What an event moves from an account to another one. -/
def paid (a : Address) (denom : String) : Event → Nat
  | .transfer _ sender recipient amount =>
      if sender = a ∧ recipient ≠ a then (amount.amountOf denom).toNat else 0
  | _ => 0

/-- What an event counts into the community pool for an account. -/
def pooledBy (a : Address) (denom : String) : Event → Nat
  | .communityPoolFunded _ depositor amount =>
      if depositor = a then (amount.amountOf denom).toNat else 0
  | _ => 0

/-- What an event counts into the community pool for any account but one. -/
def pooledByOthers (a : Address) (denom : String) : Event → Nat
  | .communityPoolFunded _ depositor amount =>
      if depositor ≠ a then (amount.amountOf denom).toNat else 0
  | _ => 0

theorem pooled_eq (a : Address) (denom : String) (e : Event) :
    pooled denom e = pooledByOthers a denom e + pooledBy a denom e := by
  cases e with
  | transfer height sender recipient amount => rfl
  | communityPoolFunded height depositor amount =>
    by_cases h : depositor = a <;> simp [pooled, pooledByOthers, pooledBy, h]
  | minted recipient c => rfl

/-- Every deposit is by the account or by another one. -/
theorem total_pooled (a : Address) (denom : String) (log : List Event) :
    total (pooled denom) log =
      total (pooledByOthers a denom) log + total (pooledBy a denom) log := by
  induction log with
  | nil => rfl
  | cons e log ih =>
    rw [total_cons, total_cons, total_cons, ih, pooled_eq a]
    omega

end Event

namespace Ledger

/-- What the account of the community pool has paid to other accounts so far. -/
def paidOut (s : Ledger) (denom : String) : Nat :=
  Event.total (Event.paid treasury denom) s.history

/-- What other accounts have deposited into the community pool so far. -/
def contributed (s : Ledger) (denom : String) : Nat :=
  Event.total (Event.pooledByOthers treasury denom) s.history

/-- What the account of the community pool has itself deposited into the pool so far. -/
def selfDeposited (s : Ledger) (denom : String) : Nat :=
  Event.total (Event.pooledBy treasury denom) s.history

/-- What came into the account of the community pool beyond what others have deposited. -/
def surplus (s : Ledger) (denom : String) : Int :=
  (s.balance treasury denom).toNat + s.paidOut denom - s.contributed denom

variable {s : Ledger}

/-- The pool counts the deposits of the others and those of its own account. -/
theorem Audited.toNat_pool_amountOf (h : s.Audited) (d : String) :
    (s.pool.amountOf d).toNat = s.contributed d + s.selfDeposited d := by
  rw [h.pool, Event.total_pooled treasury, contributed, selfDeposited]

/-! ## What an operation does to the surplus -/

/-- New supply is a surplus if it is created in the account of the pool. -/
theorem surplus_minted {a : Address} {denom : String} {n : Amount}
    (h : (s.balance a denom).toNat + n.toNat < UInt64.size) (d : String) :
    (s.minted a denom n).surplus d =
      s.surplus d + if a = treasury ∧ denom = d then n.toNat else 0 := by
  have hpaid : (s.minted a denom n).paidOut d = s.paidOut d := by
    simp [paidOut, history_minted, Event.paid]
  have hcontributed : (s.minted a denom n).contributed d = s.contributed d := by
    simp [contributed, history_minted, Event.pooledByOthers]
  rw [surplus, toNat_balance_minted h, hpaid, hcontributed, surplus]
  omega

/-- A transfer is a surplus if another account makes it to the account of the pool. -/
theorem surplus_moved {sender recipient : Address} {amount : Coins}
    (h : s.checkCoins sender recipient amount.toList = .ok ()) (ctx : Context) (d : String) :
    (s.moved ctx sender recipient amount).surplus d =
      s.surplus d +
        if sender ≠ treasury ∧ recipient = treasury then (amount.amountOf d).toNat else 0 := by
  have hpaid : (s.moved ctx sender recipient amount).paidOut d =
      s.paidOut d +
        if sender = treasury ∧ recipient ≠ treasury then (amount.amountOf d).toNat else 0 := by
    simp [paidOut, history_moved, Event.paid]
  have hcontributed : (s.moved ctx sender recipient amount).contributed d = s.contributed d := by
    simp [contributed, history_moved, Event.pooledByOthers]
  have hbalance := toNat_balance_moved h ctx treasury d
  rw [surplus, hpaid, hcontributed, surplus]
  -- Either end of the transfer may be the account of the pool, or both.
  by_cases hsender : sender = treasury <;> by_cases hrecipient : recipient = treasury <;>
    simp only [hsender, hrecipient, if_true, if_false, ne_eq, not_true, not_false_iff, and_self,
      and_true, and_false] at hbalance ⊢ <;> omega

/-- What is counted for another account is no surplus any more. -/
theorem surplus_addToPool (s : Ledger) (ctx : Context) (depositor : Address) (amount : Coins)
    (d : String) :
    (s.addToPool ctx depositor amount).surplus d =
      s.surplus d - if depositor ≠ treasury then (amount.amountOf d).toNat else 0 := by
  have hpaid : (s.addToPool ctx depositor amount).paidOut d = s.paidOut d := by
    simp [paidOut, history_addToPool, Event.paid]
  have hcontributed : (s.addToPool ctx depositor amount).contributed d =
      s.contributed d + if depositor ≠ treasury then (amount.amountOf d).toNat else 0 := by
    simp [contributed, history_addToPool, Event.pooledByOthers]
  have hbalance : (s.addToPool ctx depositor amount).balance treasury d =
      s.balance treasury d := rfl
  rw [surplus, hpaid, hcontributed, hbalance, surplus]
  omega

theorem Registered.surplus_le_after (h : s.Registered) {op : Operation} {eff : Effect}
    (he : op.effect s = .ok eff) (d : String) : s.surplus d ≤ (eff.after s).surplus d := by
  obtain ⟨hresolve, hcheck⟩ := Operation.effect_eq_ok_iff.1 he
  cases eff with
  | register name => exact Int.le_refl _
  | block a => exact Int.le_refl _
  | mint a denom n =>
    rw [Effect.after, surplus_minted (Effect.check_mint_eq_ok_iff.1 hcheck)]
    omega
  | move ctx sender recipient amount =>
    rw [Effect.after, surplus_moved hcheck]
    omega
  | fund ctx depositor holder amount =>
    obtain ⟨-, hcoins⟩ := Effect.check_fund_eq_ok_iff.1 hcheck
    have hholder := h.holder_eq hresolve
    -- What is counted for a depositor is what the transfer before it has paid in.
    rw [Effect.after, surplus_addToPool, surplus_moved hcoins]
    simp only [hholder, and_true]
    omega

/-- No operation, whether it succeeds or not, takes from the surplus. -/
theorem Registered.surplus_le_apply (h : s.Registered) (op : Operation) (d : String) :
    s.surplus d ≤ (op.apply s).surplus d := by
  cases he : op.effect s with
  | ok eff =>
    rw [Operation.apply_of_effect he]
    exact h.surplus_le_after he d
  | error e => exact Int.le_of_eq (by rw [Operation.apply_of_error he])

theorem surplus_run_nonneg (ops : List Operation) (d : String) :
    0 ≤ (Operation.run initial ops).surplus d := by
  refine (Operation.run_induction (P := fun s => s.Registered ∧ 0 ≤ s.surplus d)
    ⟨registered_initial, ?_⟩ (fun s op eff h he => ?_) ops).2
  · simp [surplus, paidOut, contributed, initial, register, balance, history]
  · exact ⟨h.1.after eff, Int.le_trans h.2 (h.1.surplus_le_after he d)⟩

/-! ## Cover of the pool -/

/-- **Cover of the community pool**, up to what its account has paid to other accounts.
What other accounts have deposited is covered after every run.  So is the pool as a whole
if its account has deposited nothing itself, and unless an operation is such a deposit, it
takes no more from the cover than it pays to other accounts. -/
theorem pool_covered (ops : List Operation) (denom : String) :
    let s := Operation.run initial ops
    s.contributed denom ≤
        (s.moduleBalance distributionModule denom).toNat + s.paidOut denom ∧
      (s.selfDeposited denom = 0 →
        (s.communityPool.amountOf denom).toNat ≤
          (s.moduleBalance distributionModule denom).toNat + s.paidOut denom) ∧
      ∀ op : Operation, (op.apply s).selfDeposited denom = s.selfDeposited denom →
        ((op.apply s).communityPool.amountOf denom).toNat +
            (s.moduleBalance distributionModule denom).toNat + s.paidOut denom ≤
          (s.communityPool.amountOf denom).toNat +
            ((op.apply s).moduleBalance distributionModule denom).toNat +
              (op.apply s).paidOut denom := by
  intro s
  have hs : s.Reachable := ⟨ops, rfl⟩
  have hpool := hs.audited.toNat_pool_amountOf denom
  have hcovered : s.contributed denom ≤ (s.balance treasury denom).toNat + s.paidOut denom := by
    have hsurplus : 0 ≤ s.surplus denom := surplus_run_nonneg ops denom
    rw [surplus] at hsurplus
    omega
  simp only [communityPool, Coins.amountOf_ofTotals, hs.registered.moduleBalance_distribution]
  refine ⟨hcovered, fun hself => ?_, fun op hself => ?_⟩
  · omega
  · have hs' : (op.apply s).Reachable := hs.run [op]
    have hpool' := hs'.audited.toNat_pool_amountOf denom
    have hsurplus := hs.registered.surplus_le_apply op denom
    rw [surplus, surplus] at hsurplus
    rw [hs'.registered.moduleBalance_distribution]
    omega

namespace Example

/-- Alice deposits all she has into the community pool, whose account gives it back. -/
def spending : List Operation :=
  [.deposit alice "unova" 5, .fundCommunityPool ctx (Coins.single "unova" 5) alice,
    .sendFromModuleToAccount ctx distributionModule alice (Coins.single "unova" 5)]

end Example

open Example in
/-- The account has paid out all that the pool counts.  What it is sent then is in excess of
that. -/
theorem pool_covered_example :
    let s := Operation.run initial spending
    let back : Operation := .sendFromAccountToModule ctx alice distributionModule
      (Coins.single "unova" 3)
    (s.communityPool.amountOf "unova").toNat = 5 ∧
    (s.moduleBalance distributionModule "unova").toNat = 0 ∧ s.paidOut "unova" = 5 ∧
    s.selfDeposited "unova" = 0 ∧
    (s.communityPool.amountOf "unova").toNat ≤
      (s.moduleBalance distributionModule "unova").toNat + s.paidOut "unova" ∧
    ((back.apply s).moduleBalance distributionModule "unova").toNat = 3 ∧
    ((back.apply s).communityPool.amountOf "unova").toNat +
        (s.moduleBalance distributionModule "unova").toNat + s.paidOut "unova" ≤
      (s.communityPool.amountOf "unova").toNat +
        ((back.apply s).moduleBalance distributionModule "unova").toNat +
          (back.apply s).paidOut "unova" := by
  intro s back
  have hself : s.selfDeposited "unova" = 0 := by decide +kernel
  have hself' : (back.apply s).selfDeposited "unova" = s.selfDeposited "unova" := by
    decide +kernel
  obtain ⟨-, hpool, hstep⟩ := pool_covered spending "unova"
  exact ⟨by decide +kernel, by decide +kernel, by decide +kernel, hself, hpool hself,
    by decide +kernel, hstep back hself'⟩

/-- The pool is not always covered by what its account still has. -/
theorem pool_not_covered :
    ¬ ∀ (ops : List Operation) (denom : String),
      (Operation.run initial ops).communityPool.amountOf denom ≤
        (Operation.run initial ops).moduleBalance distributionModule denom := by
  intro h
  have hpool : (Operation.run initial Example.spending).communityPool.amountOf "unova" = 5 := by
    decide +kernel
  have hbalance : (Operation.run initial Example.spending).moduleBalance distributionModule
      "unova" = 0 := by decide +kernel
  have hle := h Example.spending "unova"
  rw [hpool, hbalance] at hle
  exact absurd hle (by decide)

end Ledger

end CoinTransfer
