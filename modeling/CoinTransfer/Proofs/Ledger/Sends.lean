import CoinTransfer.Proofs.Ledger.Atomic
import CoinTransfer.Proofs.Ledger.History

/-!
# CoinTransfer.Proofs.Ledger.Sends

What a transfer answers and what it leaves, from any state.  It is made exactly if each
coin on its own could be moved at the start, although the coins are moved one after the
other, each from the balances that the ones before have left: they have different
denominations, and so none of them is in another's way.  If it is not made, the first coin
in the order of denominations that could not be moved tells why.
-/

namespace CoinTransfer.Ledger

section

variable {s : Ledger} {ctx : Context} {sender recipient : Address} {amount : Coins}

theorem result_transfer (s : Ledger) (ctx : Context) (sender recipient : Address)
    (amount : Coins) :
    (transfer ctx sender recipient amount s).result =
      s.checkCoins sender recipient amount.toList := by
  cases h : s.checkCoins sender recipient amount.toList with
  | ok _ => rw [transfer_of_ok h]
  | error e => rw [transfer_of_error h]

theorem result_transfer_eq_ok_iff :
    (transfer ctx sender recipient amount s).result = .ok () ↔
      ∀ c ∈ amount.toList, s.balances.Movable sender recipient c := by
  rw [result_transfer, checkCoins, Except.forM_eq_ok_iff]
  exact forall₂_congr fun c _ => checkCoin_eq_ok_iff

/-- A transfer is made exactly if, of each denomination, the sender has what the coins hold
and another recipient has room for it. -/
theorem result_transfer_eq_ok_iff_forall_denom :
    (transfer ctx sender recipient amount s).result = .ok () ↔
      ∀ denom, (amount.amountOf denom).toNat ≤ (s.balance sender denom).toNat ∧
        (sender ≠ recipient →
          (s.balance recipient denom).toNat + (amount.amountOf denom).toNat < UInt64.size) := by
  rw [result_transfer_eq_ok_iff]
  constructor
  · intro h denom
    by_cases hzero : amount.amountOf denom = 0
    · rw [hzero, UInt64.toNat_zero]
      exact ⟨Nat.zero_le _, fun _ => UInt64.toNat_lt_size _⟩
    · have hcoin := h ⟨denom, amount.amountOf denom⟩ (Coins.mem_toList_iff.2 ⟨hzero, rfl⟩)
      exact ⟨UInt64.le_iff_toNat_le.1 hcoin.held, hcoin.fits⟩
  · intro h c hc
    obtain ⟨hheld, hfits⟩ := h c.denom
    rw [Coins.amountOf_of_mem hc] at hheld hfits
    exact ⟨UInt64.le_iff_toNat_le.2 hheld, hfits⟩

/-- What a transfer does to balances. -/
theorem toNat_balance_transfer (hok : (transfer ctx sender recipient amount s).result = .ok ())
    (a : Address) (denom : String) :
    ((transfer ctx sender recipient amount s).state.balance a denom).toNat +
        (if sender = a then (amount.amountOf denom).toNat else 0) =
      (s.balance a denom).toNat +
        if recipient = a then (amount.amountOf denom).toNat else 0 := by
  have hcheck := (result_transfer s ctx sender recipient amount).symm.trans hok
  rw [transfer_of_ok hcheck]
  exact toNat_balance_moved hcheck ctx a denom

theorem result_transfer_eq_error_iff {e : KeeperError} :
    (transfer ctx sender recipient amount s).result = .error e ↔
      ∃ c ∈ amount.toList, s.Refuses sender recipient c e ∧
        ∀ x ∈ amount.toList, x.denom < c.denom → s.balances.Movable sender recipient x := by
  rw [result_transfer, checkCoins, forM_toList_eq_error_iff]
  simp only [checkCoin_eq_error_iff, checkCoin_eq_ok_iff]

end

/-- **Outcome of a transfer**: it is made exactly if the sender has each coin and another
recipient has room for it.  Then the sender's balances shrink and the recipient's grow by
what the coins hold, which for one account is no change, and nobody else's move.  If it is
not made, this is for the first coin that cannot be moved, and says what this coin lacked
in the state of the call. -/
theorem transfer_outcome (s : Ledger) (ctx : Context) (sender recipient : Address)
    (amount : Coins) :
    let outcome := transfer ctx sender recipient amount s
    send ctx sender recipient amount s = outcome ∧
    (outcome.result = .ok () ↔
      ∀ c ∈ amount.toList, s.balances.Movable sender recipient c) ∧
    (outcome.result = .ok () → ∀ a denom,
      ((outcome.state.balance a denom).toNat : Int) =
        (s.balance a denom).toNat - (if sender = a then (amount.amountOf denom).toNat else 0) +
          if recipient = a then (amount.amountOf denom).toNat else 0) ∧
    ∀ e, outcome.result = .error e ↔
      ∃ c ∈ amount.toList, s.Refuses sender recipient c e ∧
        ∀ x ∈ amount.toList, x.denom < c.denom → s.balances.Movable sender recipient x := by
  intro outcome
  refine ⟨rfl, result_transfer_eq_ok_iff, fun hok a denom => ?_,
    fun e => result_transfer_eq_error_iff⟩
  have hcheck := (result_transfer s ctx sender recipient amount).symm.trans hok
  have hstate : outcome.state = s.moved ctx sender recipient amount :=
    congrArg Outcome.state (transfer_of_ok hcheck)
  have hlaw := toNat_balance_moved hcheck ctx a denom
  rw [hstate]
  omega

open Example in
/-- Alice pays Bob all she has of a denomination. -/
theorem transfer_outcome_example :
    let paid := transfer ctx alice bob (Coins.single "unova" 1000) ledger
    paid.result = .ok () ∧ ((paid.state.balance alice "unova").toNat : Int) = 1000 - 1000 + 0 ∧
      ((paid.state.balance bob "unova").toNat : Int) = 0 - 0 + 1000 := by
  intro paid
  have hpaid : paid.result = .ok () := rfl
  obtain ⟨-, -, hbalance, -⟩ := transfer_outcome ledger ctx alice bob (Coins.single "unova" 1000)
  exact ⟨hpaid, hbalance hpaid alice "unova", hbalance hpaid bob "unova"⟩

open Example in
/-- One more than she has is refused; a payment to herself changes nothing. -/
example :
    (transfer ctx alice bob (Coins.single "unova" 1001) ledger).result =
        .error (.insufficientFunds alice.hex "unova" 1000 1001) ∧
      (transfer ctx alice alice (Coins.single "unova" 1000) ledger).state.balance alice "unova" =
        1000 :=
  ⟨rfl, by decide +kernel⟩

end CoinTransfer.Ledger
