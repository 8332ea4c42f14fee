import CoinTransfer.Proofs.Ledger.Registry
import CoinTransfer.Proofs.Ledger.Sends

/-!
# CoinTransfer.Proofs.Ledger.Deposits

What a deposit into the community pool answers and what it leaves.  The totals of the pool
are looked at first; if they have room, the deposit is the transfer of the coins to the
account that holds the pool, and the coins are counted into the totals afterwards.

The totals grow by what the coins hold, whoever the depositor is.  The account grows by the
same unless it is itself the depositor, for then nothing arrives; so deposits of anything by
this account, and no others, are counted without being backed (`Ledger.deposit_backed_iff`).
-/

namespace CoinTransfer.Ledger

section

variable {s : Ledger} {ctx : Context} {depositor : Address} {amount : Coins}

/-! ## The parts of a deposit -/

/-- The account of the pool is found in every state that a run can reach. -/
theorem Registered.moduleAddress_distribution (h : s.Registered) :
    moduleAddress distributionModule s = ⟨.ok treasury, s, []⟩ :=
  h.moduleAddress_of_mem h.distribution_mem

/-- Without room in the totals, a deposit fails and leaves the ledger alone. -/
theorem Registered.fundCommunityPool_of_pool_error (h : s.Registered) {e : KeeperError}
    (hpool : s.checkPoolCoins amount.toList = .error e) :
    fundCommunityPool ctx amount depositor s = ⟨.error e, s, []⟩ := by
  rw [fundCommunityPool, Action.bind_of_ok h.moduleAddress_distribution]
  simp only [Action.bind_apply, Action.get_apply, Action.ofExcept_apply, hpool, List.append_nil]

/-- With room in the totals, a deposit is a transfer and what is counted after it. -/
theorem Registered.fundCommunityPool_of_pool_ok (h : s.Registered)
    (hpool : s.checkPoolCoins amount.toList = .ok ()) :
    fundCommunityPool ctx amount depositor s =
      (transfer ctx depositor treasury amount >>= fun _ =>
        Action.modify (·.addToPool ctx depositor amount)) s := by
  rw [fundCommunityPool, Action.bind_of_ok h.moduleAddress_distribution]
  simp only [Action.bind_apply, Action.get_apply, Action.ofExcept_apply, hpool, List.nil_append]

/-- With room in the totals and for the transfer, the coins are moved and then counted. -/
theorem Registered.fundCommunityPool_of_ok (h : s.Registered)
    (hpool : s.checkPoolCoins amount.toList = .ok ())
    (hcoins : s.checkCoins depositor treasury amount.toList = .ok ()) :
    fundCommunityPool ctx amount depositor s =
      ⟨.ok (), (s.moved ctx depositor treasury amount).addToPool ctx depositor amount,
        [transferRecord ctx depositor treasury amount]⟩ := by
  rw [h.fundCommunityPool_of_pool_ok hpool, Action.bind_of_ok (transfer_of_ok hcoins)]
  rfl

/-- With room in the totals, a deposit answers as the transfer does. -/
theorem Registered.result_fundCommunityPool (h : s.Registered)
    (hpool : s.checkPoolCoins amount.toList = .ok ()) (ctx : Context) (depositor : Address) :
    (fundCommunityPool ctx amount depositor s).result =
      (transfer ctx depositor treasury amount s).result := by
  cases hcoins : s.checkCoins depositor treasury amount.toList with
  | ok _ => rw [h.fundCommunityPool_of_ok hpool hcoins, transfer_of_ok hcoins]
  | error e =>
    rw [h.fundCommunityPool_of_pool_ok hpool, Action.bind_of_error (transfer_of_error hcoins),
      transfer_of_error hcoins]

/-- A deposit that is made has passed both checks. -/
theorem Registered.checks_of_fundCommunityPool (h : s.Registered)
    (hok : (fundCommunityPool ctx amount depositor s).result = .ok ()) :
    s.checkPoolCoins amount.toList = .ok () ∧
      s.checkCoins depositor treasury amount.toList = .ok () := by
  cases hpool : s.checkPoolCoins amount.toList with
  | error e =>
    rw [h.fundCommunityPool_of_pool_error hpool] at hok
    cases hok
  | ok _ =>
    rw [h.result_fundCommunityPool hpool, result_transfer] at hok
    exact ⟨rfl, hok⟩

/-- What a deposit that is made leaves: the coins moved, and then counted. -/
theorem Registered.state_fundCommunityPool (h : s.Registered)
    (hok : (fundCommunityPool ctx amount depositor s).result = .ok ()) :
    (fundCommunityPool ctx amount depositor s).state =
      (s.moved ctx depositor treasury amount).addToPool ctx depositor amount := by
  obtain ⟨hpool, hcoins⟩ := h.checks_of_fundCommunityPool hok
  rw [h.fundCommunityPool_of_ok hpool hcoins]

/-- A set of coins is stopped before the pool at the first coin that the totals have no room
for. -/
theorem checkPoolCoins_eq_error_iff {e : KeeperError} :
    s.checkPoolCoins amount.toList = .error e ↔
      ∃ c ∈ amount.toList, (¬ s.pool.Addable c ∧ e = .overflow c.denom c.amount) ∧
        ∀ x ∈ amount.toList, x.denom < c.denom → s.pool.Addable x := by
  rw [checkPoolCoins, forM_toList_eq_error_iff]
  simp only [checkPoolCoin_eq_error_iff, checkPoolCoin_eq_ok_iff]

/-! ## What a deposit answers -/

/-- Totals without room for some coin are full at a first coin. -/
theorem Registered.exists_result_eq_overflow (h : s.Registered)
    (hfull : ∃ c ∈ amount.toList, ¬ s.pool.Addable c) (ctx : Context) (depositor : Address) :
    ∃ c ∈ amount.toList, ¬ s.pool.Addable c ∧
      (∀ x ∈ amount.toList, x.denom < c.denom → s.pool.Addable x) ∧
      (fundCommunityPool ctx amount depositor s).result = .error (.overflow c.denom c.amount) := by
  obtain ⟨c, hmem, hc⟩ := hfull
  cases hpool : s.checkPoolCoins amount.toList with
  | ok _ => exact absurd (checkPoolCoins_eq_ok_iff.1 hpool c hmem) hc
  | error e =>
    obtain ⟨x, hx, ⟨hfull, rfl⟩, hfirst⟩ := checkPoolCoins_eq_error_iff.1 hpool
    exact ⟨x, hx, hfull, hfirst, by rw [h.fundCommunityPool_of_pool_error hpool]⟩

/-- A transfer is between accounts, so it never asks for a module. -/
theorem result_transfer_ne_unknownModule (s : Ledger) (ctx : Context) (sender recipient : Address)
    (amount : Coins) (name : String) :
    (transfer ctx sender recipient amount s).result ≠ .error (.unknownModule name) := by
  rw [ne_eq, result_transfer_eq_error_iff]
  rintro ⟨c, -, hrefuses, -⟩
  cases hrefuses

/-- A deposit always knows the module of the pool. -/
theorem Registered.result_fundCommunityPool_ne_unknownModule (h : s.Registered) (ctx : Context)
    (depositor : Address) (amount : Coins) (name : String) :
    (fundCommunityPool ctx amount depositor s).result ≠ .error (.unknownModule name) := by
  intro hunknown
  cases hpool : s.checkPoolCoins amount.toList with
  | ok _ =>
    rw [h.result_fundCommunityPool hpool] at hunknown
    exact result_transfer_ne_unknownModule _ _ _ _ _ _ hunknown
  | error e =>
    obtain ⟨c, -, ⟨-, rfl⟩, -⟩ := checkPoolCoins_eq_error_iff.1 hpool
    rw [h.fundCommunityPool_of_pool_error hpool] at hunknown
    cases hunknown

/-! ## What a deposit leaves -/

/-- A deposit leaves the balances that the transfer of its coins leaves. -/
theorem Registered.balances_fundCommunityPool (h : s.Registered)
    (hok : (fundCommunityPool ctx amount depositor s).result = .ok ()) :
    (fundCommunityPool ctx amount depositor s).state.balances =
      (transfer ctx depositor treasury amount s).state.balances := by
  rw [h.state_fundCommunityPool hok, transfer_of_ok (h.checks_of_fundCommunityPool hok).2]
  rfl

/-- A deposit takes from the balance of the depositor and adds to that of the pool; they may be
one account. -/
theorem Registered.toNat_balance_fundCommunityPool (h : s.Registered)
    (hok : (fundCommunityPool ctx amount depositor s).result = .ok ()) (a : Address)
    (denom : String) :
    ((fundCommunityPool ctx amount depositor s).state.balance a denom).toNat +
        (if depositor = a then (amount.amountOf denom).toNat else 0) =
      (s.balance a denom).toNat + if treasury = a then (amount.amountOf denom).toNat else 0 := by
  rw [h.state_fundCommunityPool hok]
  exact toNat_balance_moved (h.checks_of_fundCommunityPool hok).2 ctx a denom

/-- A deposit is recorded twice: as a transfer, and then as a deposit. -/
theorem Registered.history_fundCommunityPool (h : s.Registered)
    (hok : (fundCommunityPool ctx amount depositor s).result = .ok ()) :
    (fundCommunityPool ctx amount depositor s).state.history =
      s.history ++ [.transfer ctx.blockHeight depositor treasury amount,
        .communityPoolFunded ctx.blockHeight depositor amount] := by
  rw [h.state_fundCommunityPool hok, history_addToPool, history_moved, List.append_assoc]
  rfl

/-- The totals grow by what is deposited, whoever the depositor is. -/
theorem Registered.toNat_pool_fundCommunityPool (h : s.Registered)
    (hok : (fundCommunityPool ctx amount depositor s).result = .ok ()) (denom : String) :
    ((fundCommunityPool ctx amount depositor s).state.pool.amountOf denom).toNat =
      (s.pool.amountOf denom).toNat + (amount.amountOf denom).toNat := by
  have hroom : (s.moved ctx depositor treasury amount).checkPoolCoins amount.toList = .ok () :=
    (h.checks_of_fundCommunityPool hok).1
  rw [h.state_fundCommunityPool hok]
  exact toNat_pool_addToPool hroom ctx depositor denom

/-- A denomination that is not deposited keeps its entry in the totals, or keeps having none. -/
theorem Registered.getElem?_pool_fundCommunityPool (h : s.Registered)
    (hok : (fundCommunityPool ctx amount depositor s).result = .ok ()) {denom : String}
    (hzero : amount.amountOf denom = 0) :
    (fundCommunityPool ctx amount depositor s).state.pool[denom]? = s.pool[denom]? := by
  rw [h.state_fundCommunityPool hok]
  refine Totals.getElem?_foldl_plus_of_forall_ne fun c hc hd => amount.nonzero c hc ?_
  rw [← Coins.amountOf_of_mem hc, hd, hzero]

/-- Counting a coin finds the room that was there at the start, as the coins before it are of
other denominations. -/
theorem Registered.addable_of_fundCommunityPool (h : s.Registered)
    (hok : (fundCommunityPool ctx amount depositor s).result = .ok ()) {front back : List Coin}
    {c : Coin} (hl : amount.toList = front ++ c :: back) :
    (front.foldl Totals.plus s.pool).Addable c := by
  have haddable := checkPoolCoins_eq_ok_iff.1 (h.checks_of_fundCommunityPool hok).1
  rw [hl] at haddable
  exact Totals.addable_foldl_plus (hl ▸ amount.distinct) haddable

/-! ## The outcome -/

/-- **Outcome of a deposit**: if the totals of the pool have no room for some coin, it fails
for the first such coin, whatever the balances are.  Otherwise it answers as the transfer of
the coins to the account of the pool does.  Where it is made, the balances are those after
this transfer, and the totals have grown by what the coins hold, without going out of bounds
at any coin.  The module of the pool is always known. -/
theorem fundCommunityPool_outcome (hs : s.Reachable) (ctx : Context) (depositor : Address)
    (amount : Coins) :
    let outcome := fundCommunityPool ctx amount depositor s
    let sent := send ctx depositor treasury amount s
    ((∃ c ∈ amount.toList, ¬ s.pool.Addable c) →
      ∃ c ∈ amount.toList, ¬ s.pool.Addable c ∧
        (∀ x ∈ amount.toList, x.denom < c.denom → s.pool.Addable x) ∧
        outcome.result = .error (.overflow c.denom c.amount)) ∧
    ((∀ c ∈ amount.toList, s.pool.Addable c) → outcome.result = sent.result) ∧
    (outcome.result = .ok () →
      outcome.state.balances = sent.state.balances ∧
      (∀ denom, (outcome.state.pool.amountOf denom).toNat =
        (s.pool.amountOf denom).toNat + (amount.amountOf denom).toNat) ∧
      (∀ denom, amount.amountOf denom = 0 → outcome.state.pool[denom]? = s.pool[denom]?) ∧
      ∀ front c back, amount.toList = front ++ c :: back →
        (front.foldl Totals.plus s.pool).Addable c) ∧
    ∀ name, outcome.result ≠ .error (.unknownModule name) := by
  intro outcome sent
  have h := hs.registered
  refine ⟨fun hfull => h.exists_result_eq_overflow hfull ctx depositor, fun hroom => ?_,
    fun hok => ?_, h.result_fundCommunityPool_ne_unknownModule ctx depositor amount⟩
  · exact h.result_fundCommunityPool (checkPoolCoins_eq_ok_iff.2 hroom) ctx depositor
  · exact ⟨h.balances_fundCommunityPool hok, h.toNat_pool_fundCommunityPool hok,
      fun _ => h.getElem?_pool_fundCommunityPool hok,
      fun _ _ _ => h.addable_of_fundCommunityPool hok⟩

/-! ## Backed deposits -/

/-- What has come into the community pool is what has come into the account that holds it. -/
def Backed (s s' : Ledger) : Prop :=
  ∀ denom,
    ((s'.communityPool.amountOf denom).toNat : Int) - (s.communityPool.amountOf denom).toNat =
      (s'.moduleBalance distributionModule denom).toNat -
        (s.moduleBalance distributionModule denom).toNat

/-- The community pool, as it is shown, grows by what is deposited. -/
theorem Registered.toNat_communityPool_fundCommunityPool (h : s.Registered)
    (hok : (fundCommunityPool ctx amount depositor s).result = .ok ()) (denom : String) :
    ((fundCommunityPool ctx amount depositor s).state.communityPool.amountOf denom).toNat =
      (s.communityPool.amountOf denom).toNat + (amount.amountOf denom).toNat := by
  rw [communityPool, communityPool, Coins.amountOf_ofTotals, Coins.amountOf_ofTotals]
  exact h.toNat_pool_fundCommunityPool hok denom

/-- The account of the pool gets the coins, and gives them if it is the depositor. -/
theorem Registered.toNat_moduleBalance_fundCommunityPool (h : s.Registered)
    (hok : (fundCommunityPool ctx amount depositor s).result = .ok ()) (denom : String) :
    ((fundCommunityPool ctx amount depositor s).state.moduleBalance distributionModule
        denom).toNat + (if depositor = treasury then (amount.amountOf denom).toNat else 0) =
      (s.moduleBalance distributionModule denom).toNat + (amount.amountOf denom).toNat := by
  have hlaw := h.toNat_balance_fundCommunityPool hok treasury denom
  have h' : (fundCommunityPool ctx amount depositor s).state.Registered := by
    rw [h.state_fundCommunityPool hok]
    exact h.after (.fund ctx depositor treasury amount)
  rw [if_pos rfl] at hlaw
  rw [h.moduleBalance_distribution, h'.moduleBalance_distribution]
  exact hlaw

/-- **Deposits are backed** unless the depositor is the account of the pool: what it deposits
is counted into the pool, and stays where it is. -/
theorem deposit_backed_iff (hs : s.Reachable)
    (hok : (fundCommunityPool ctx amount depositor s).result = .ok ()) :
    s.Backed (fundCommunityPool ctx amount depositor s).state ↔
      depositor ≠ treasury ∨ amount = Coins.empty := by
  have hcounted := hs.registered.toNat_communityPool_fundCommunityPool hok
  have harrived := hs.registered.toNat_moduleBalance_fundCommunityPool hok
  obtain rfl | hother := eq_or_ne depositor treasury
  · -- The account has what it had, so only nothing may be counted.
    rw [or_iff_right (not_not_intro rfl), Coins.eq_empty_iff]
    refine forall_congr' fun denom => ?_
    have hcount := hcounted denom
    have harrive := harrived denom
    rw [if_pos rfl] at harrive
    rw [← UInt64.toNat_inj, UInt64.toNat_zero]
    omega
  · refine iff_of_true (fun denom => ?_) (.inl hother)
    have hcount := hcounted denom
    have harrive := harrived denom
    rw [if_neg hother] at harrive
    omega

end

namespace Example

/-- Alice has deposited into the community pool as much as an amount can say. -/
def brimming : Ledger :=
  Operation.run initial
    [.deposit alice "unova" 18446744073709551615,
      .fundCommunityPool ctx (Coins.single "unova" 18446744073709551615) alice]

/-- New supply lies in the account of the community pool, and the pool counts nothing. -/
def uncounted : Ledger := Operation.run initial [.mintToModule distributionModule "unova" 5]

theorem result_fundCommunityPool_ledger :
    (fundCommunityPool ctx (Coins.single "unova" 5) alice ledger).result = .ok () := by
  decide +kernel

end Example

open Example in
/-- The totals have no room for a coin of Bob's, which he does not have either; what Alice has
is deposited as it is sent. -/
theorem fundCommunityPool_outcome_example :
    brimming.Reachable ∧
    (fundCommunityPool ctx (Coins.single "unova" 1) bob brimming).result =
      .error (.overflow "unova" 1) ∧
    (send ctx bob treasury (Coins.single "unova" 1) brimming).result =
      .error (.insufficientFunds bob.hex "unova" 0 1) ∧
    ledger.Reachable ∧
    (fundCommunityPool ctx (Coins.single "unova" 5) alice ledger).result = .ok () ∧
    (fundCommunityPool ctx (Coins.single "unova" 5) alice ledger).state.balances =
      (send ctx alice treasury (Coins.single "unova" 5) ledger).state.balances := by
  have hbrimming : brimming.Reachable := ⟨_, rfl⟩
  have hledger : ledger.Reachable := ⟨_, rfl⟩
  obtain ⟨hfull, -⟩ := fundCommunityPool_outcome hbrimming ctx bob (Coins.single "unova" 1)
  obtain ⟨-, -, hmade, -⟩ := fundCommunityPool_outcome hledger ctx alice (Coins.single "unova" 5)
  have hcoin : ¬ brimming.pool.Addable ⟨"unova", 1⟩ := by
    rw [Totals.Addable]
    decide +kernel
  obtain ⟨c, hc, -, -, hresult⟩ := hfull ⟨⟨"unova", 1⟩, List.mem_singleton_self _, hcoin⟩
  obtain rfl : c = ⟨"unova", 1⟩ := List.mem_singleton.1 hc
  exact ⟨hbrimming, hresult, by decide +kernel, hledger, result_fundCommunityPool_ledger,
    (hmade result_fundCommunityPool_ledger).1⟩

open Example in
/-- Alice's deposit is backed. -/
theorem deposit_backed_iff_example :
    ledger.Reachable ∧
    (fundCommunityPool ctx (Coins.single "unova" 5) alice ledger).result = .ok () ∧
    ledger.Backed (fundCommunityPool ctx (Coins.single "unova" 5) alice ledger).state := by
  have hs : ledger.Reachable := ⟨_, rfl⟩
  have hother : alice ≠ treasury := by decide +kernel
  exact ⟨hs, result_fundCommunityPool_ledger,
    (deposit_backed_iff hs result_fundCommunityPool_ledger).2 (.inl hother)⟩

open Example in
/-- What the account of the pool deposits has not arrived there. -/
theorem deposit_not_backed :
    ¬ ∀ (s : Ledger) (ctx : Context) (depositor : Address) (amount : Coins), s.Reachable →
      (fundCommunityPool ctx amount depositor s).result = .ok () →
        s.Backed (fundCommunityPool ctx amount depositor s).state := by
  intro h
  have hok : (fundCommunityPool ctx (Coins.single "unova" 5) treasury uncounted).result =
      .ok () := by decide +kernel
  have hbacked := h uncounted ctx treasury (Coins.single "unova" 5) ⟨_, rfl⟩ hok "unova"
  revert hbacked
  decide +kernel

end CoinTransfer.Ledger
