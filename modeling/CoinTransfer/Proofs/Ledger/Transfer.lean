import CoinTransfer.Ledger.Transfer
import CoinTransfer.Proofs.Except
import CoinTransfer.Proofs.Totals
import CoinTransfer.Proofs.Ledger.Balances

/-!
# CoinTransfer.Proofs.Ledger.Transfer

What the calls that touch balances do, from any state.  The checks before a
transfer pass exactly if all coins are movable, and then every step of the move
goes through: moving a coin changes neither what the sender has of another
denomination nor the recipient's room for it.  A credit that fails has left the
balances as they were, because a sum that is too large needs an entry to start
with.
-/

namespace CoinTransfer.Ledger

variable {s : Ledger} {sender recipient a : Address} {denom : String} {n : Amount}

/-! ## Checking -/

/-- A check of a set fails at the first coin that fails, in the order of denominations. -/
theorem forM_toList_eq_error_iff {ε : Type} {f : Coin → Except ε Unit} {amount : Coins} {e : ε} :
    amount.toList.forM f = .error e ↔
      ∃ c ∈ amount.toList, f c = .error e ∧
        ∀ x ∈ amount.toList, x.denom < c.denom → f x = .ok () := by
  constructor
  · intro h
    obtain ⟨front, c, back, hl, hfront, hc⟩ := Except.forM_eq_error_iff.1 h
    have hmem : c ∈ amount.toList := by simp [hl]
    exact ⟨c, hmem, hc, fun x hx hlt => hfront x ((Coins.mem_front_iff hl).2 ⟨hx, hlt⟩)⟩
  · rintro ⟨c, hmem, hc, hbefore⟩
    obtain ⟨front, back, hl⟩ := List.append_of_mem hmem
    refine Except.forM_eq_error_iff.2 ⟨front, c, back, hl, fun x hx => ?_, hc⟩
    obtain ⟨hx, hlt⟩ := (Coins.mem_front_iff hl).1 hx
    exact hbefore x hx hlt

/-- A checked sum is let through if it is an amount. -/
theorem checked_eq_ok_iff {x y : Amount} {e : KeeperError} :
    (match Amount.add? x y with
      | some _ => (.ok () : Except KeeperError Unit)
      | none => .error e) = .ok () ↔ x.toNat + y.toNat < UInt64.size := by
  by_cases h : x.toNat + y.toNat < UInt64.size
  · rw [Amount.add?_of_lt h]
    exact iff_of_true rfl h
  · rw [Amount.add?_of_not_lt h]
    exact iff_of_false (fun h => by cases h) h

/-- A coin is let through if it can be moved: the sender has it, and the recipient has room for
it. -/
theorem checkCoin_eq_ok_iff {c : Coin} :
    s.checkCoin sender recipient c = .ok () ↔ s.balances.Movable sender recipient c := by
  unfold checkCoin
  by_cases hheld : s.balance sender c.denom < c.amount
  · simp only [hheld, if_true]
    exact iff_of_false (fun h => by cases h) fun h => UInt64.not_le.2 hheld h.held
  · have hle := UInt64.not_lt.1 hheld
    simp only [hheld, if_false]
    refine checked_eq_ok_iff.trans ?_
    by_cases he : sender = recipient
    · rw [if_pos he]
      exact iff_of_true (Amount.toNat_sub_add_lt hle) ⟨hle, fun hne => absurd he hne⟩
    · rw [if_neg he]
      exact ⟨fun h => ⟨hle, fun _ => h⟩, fun h => h.fits he⟩

/-- A checked sum is stopped if it is too large to be an amount. -/
theorem checked_eq_error_iff {x y : Amount} {e e' : KeeperError} :
    (match Amount.add? x y with
      | some _ => (.ok () : Except KeeperError Unit)
      | none => .error e) = .error e' ↔ UInt64.size ≤ x.toNat + y.toNat ∧ e' = e := by
  by_cases h : x.toNat + y.toNat < UInt64.size
  · rw [Amount.add?_of_lt h]
    exact iff_of_false (fun he => by cases he) fun he => Nat.not_le.2 h he.1
  · rw [Amount.add?_of_not_lt h, Except.error.injEq, eq_comm]
    exact (and_iff_right (Nat.not_lt.1 h)).symm

/-- Why a coin is not moved.  What the sender lacks is seen before what the recipient has
no room for, and a coin that stays where it is needs no room. -/
inductive Refuses (s : Ledger) (sender recipient : Address) (c : Coin) : KeeperError → Prop
  | lacking (h : s.balance sender c.denom < c.amount) :
      Refuses s sender recipient c
        (.insufficientFunds sender.hex c.denom (s.balance sender c.denom) c.amount)
  | full (hheld : c.amount ≤ s.balance sender c.denom) (hne : sender ≠ recipient)
      (h : UInt64.size ≤ (s.balance recipient c.denom).toNat + c.amount.toNat) :
      Refuses s sender recipient c (.overflow c.denom c.amount)

/-- A coin is stopped for want of funds first, and for want of room second. -/
theorem checkCoin_eq_error_iff {c : Coin} {e : KeeperError} :
    s.checkCoin sender recipient c = .error e ↔ s.Refuses sender recipient c e := by
  unfold checkCoin
  by_cases hheld : s.balance sender c.denom < c.amount
  · simp only [hheld, if_true, Except.error.injEq]
    constructor
    · rintro rfl
      exact .lacking hheld
    · intro h
      cases h with
      | lacking => rfl
      | full hle => exact absurd hheld (UInt64.not_lt.2 hle)
  · have hle := UInt64.not_lt.1 hheld
    simp only [hheld, if_false]
    refine checked_eq_error_iff.trans ?_
    by_cases he : sender = recipient
    · have hback := Amount.toNat_sub_add_lt hle
      rw [if_pos he]
      refine iff_of_false (fun h => Nat.not_le.2 hback h.1) fun h => ?_
      cases h with
      | lacking h => exact hheld h
      | full _ hne _ => exact hne he
    · rw [if_neg he]
      constructor
      · rintro ⟨h, rfl⟩
        exact .full hle he h
      · intro h
        cases h with
        | lacking h => exact absurd h hheld
        | full _ _ h => exact ⟨h, rfl⟩

/-- A coin is let through to the pool if the total of its denomination has room for it. -/
theorem checkPoolCoin_eq_ok_iff {c : Coin} : s.checkPoolCoin c = .ok () ↔ s.pool.Addable c :=
  checked_eq_ok_iff

/-- A coin is stopped before the pool if the total of its denomination has no room for it. -/
theorem checkPoolCoin_eq_error_iff {c : Coin} {e : KeeperError} :
    s.checkPoolCoin c = .error e ↔ ¬ s.pool.Addable c ∧ e = .overflow c.denom c.amount := by
  rw [Totals.Addable, Nat.not_lt]
  exact checked_eq_error_iff

/-- A set of coins is let through if each coin can be moved in the balances at the start. -/
theorem checkCoins_eq_ok_iff {amount : Coins} :
    s.checkCoins sender recipient amount.toList = .ok () ↔
      s.balances.MovableAll sender recipient amount.toList := by
  rw [checkCoins, Except.forM_eq_ok_iff]
  simp only [checkCoin_eq_ok_iff]
  exact ⟨fun h => ⟨amount.distinct, h⟩, fun h => h.2⟩

/-- Coins are let through to the pool if there is room for each in the totals at the start. -/
theorem checkPoolCoins_eq_ok_iff {coins : List Coin} :
    s.checkPoolCoins coins = .ok () ↔ ∀ c ∈ coins, s.pool.Addable c := by
  rw [checkPoolCoins, Except.forM_eq_ok_iff]
  exact forall₂_congr fun c _ => checkPoolCoin_eq_ok_iff

/-! ## Debit and credit -/

/-- A debit always succeeds; it is for the check before it to see that there is enough. -/
theorem debit_apply (s : Ledger) (a : Address) (denom : String) (n : Amount) :
    debit a denom n s = ⟨.ok (), { s with balances := s.balances.debited a denom n }, []⟩ := by
  unfold debit Balances.debited
  rw [Action.modify_apply]
  split <;> rfl

/-- A credit that fits answers with the new balance. -/
theorem credit_of_fits (h : (s.balance a denom).toNat + n.toNat < UInt64.size) :
    credit a denom n s =
      ⟨.ok (s.balance a denom + n), { s with balances := s.balances.credited a denom n }, []⟩ := by
  simp only [credit, Action.bind_apply, Action.get_apply, Action.modify_apply,
    Amount.add?_of_lt h, Action.pure_apply, setBalance, Balances.update_update,
    Balances.credited, List.append_nil]
  rfl

/-- A balance that would become too large has an entry, so that the entry made
before the sum is checked was there already. -/
theorem credit_of_overflow (h : ¬ (s.balance a denom).toNat + n.toNat < UInt64.size) :
    credit a denom n s = ⟨.error (.overflow denom n), s, []⟩ := by
  have hentry : s.balances.HasEntry a denom := by
    apply Balances.hasEntry_of_amountOf_ne_zero
    intro hzero
    have hn := n.toNat_lt_size
    rw [balance, hzero, UInt64.toNat_zero, Nat.zero_add] at h
    exact h hn
  have hsame : s.setBalance a denom (s.balance a denom) = s := by
    unfold setBalance balance
    rw [Balances.update_amountOf hentry]
  simp only [credit, Action.bind_apply, Action.get_apply, Action.modify_apply,
    Amount.add?_of_not_lt h, Action.fail_apply, hsame, List.append_nil]

/-! ## Moving -/

/-- A coin that can be moved is moved. -/
theorem moveCoin_of_movable {c : Coin} (h : s.balances.Movable sender recipient c) :
    moveCoin sender recipient c s =
      ⟨.ok (), { s with balances := s.balances.moved sender recipient c }, []⟩ := by
  have hcredit := credit_of_fits
    (s := { s with balances := s.balances.debited sender c.denom c.amount }) h.fits_debited
  rw [moveCoin, Action.bind_of_ok (debit_apply ..), Action.bind_of_ok hcredit]
  rfl

/-- When the first coin has been moved, the rest is moved from there. -/
theorem moveCoins_cons {s' : Ledger} {c : Coin} {coins : List Coin}
    (h : moveCoin sender recipient c s = ⟨.ok (), s', []⟩) :
    moveCoins sender recipient (c :: coins) s = moveCoins sender recipient coins s' :=
  Action.bind_of_ok h

/-- Coins that can be moved at the start can be moved one after the other. -/
theorem moveCoins_of_movable {coins : List Coin}
    (h : s.balances.MovableAll sender recipient coins) :
    moveCoins sender recipient coins s =
      ⟨.ok (), { s with balances := s.balances.movedAll sender recipient coins }, []⟩ := by
  induction coins generalizing s with
  | nil => rfl
  | cons c coins ih =>
      -- What is left to move is movable from the state after the first coin.
      have hrest := ih (s := { s with balances := s.balances.moved sender recipient c }) h.tail
      rw [moveCoins_cons (moveCoin_of_movable h.head), hrest]
      rfl

/-- The state after coins have been moved from one account to another. -/
def moved (s : Ledger) (ctx : Context) (sender recipient : Address) (amount : Coins) : Ledger :=
  { s with balances := s.balances.movedAll sender recipient amount.toList }.record
    (.transfer ctx.blockHeight sender recipient amount)

/-- A transfer that passes its check is made, logged and recorded. -/
theorem transfer_of_ok {ctx : Context} {amount : Coins}
    (h : s.checkCoins sender recipient amount.toList = .ok ()) :
    transfer ctx sender recipient amount s =
      ⟨.ok (), s.moved ctx sender recipient amount,
        [transferRecord ctx sender recipient amount]⟩ := by
  have hmove := moveCoins_of_movable (checkCoins_eq_ok_iff.1 h)
  simp only [transfer, Action.bind_apply, Action.get_apply, Action.ofExcept_apply, h, hmove,
    Action.emit_apply, Action.modify_apply, List.nil_append, List.append_nil]
  rfl

/-- A transfer that does not pass its check leaves the ledger alone and logs nothing. -/
theorem transfer_of_error {ctx : Context} {amount : Coins} {e : KeeperError}
    (h : s.checkCoins sender recipient amount.toList = .error e) :
    transfer ctx sender recipient amount s = ⟨.error e, s, []⟩ := by
  simp only [transfer, Action.bind_apply, Action.get_apply, Action.ofExcept_apply, h,
    List.append_nil]

end CoinTransfer.Ledger
