import CoinTransfer.Proofs.Ledger.Atomic

/-!
# CoinTransfer.Proofs.Ledger.Moves

The loop that moves the coins of a transfer, pass by pass.  A pass takes a coin from the
sender and adds it to the recipient without looking first: it relies on an entry of the
sender that holds the coin, and on room in the balance of the recipient.  The checks have
seen to both, but on the balances before the first pass, and every pass changes balances.

What carries the checks through the loop is `Balances.MovableAll`: the coins that are still
to come can be moved from the balances reached so far, because the coins before them were
of other denominations (`Balances.MovableAll.of_append_right`).  That a pass finds an entry, and does
not merely find nothing missing, is due to the amounts of a set, none of which is zero.
-/

namespace CoinTransfer

namespace Balances

variable {b : Balances} {sender recipient : Address} {c : Coin} {front back : List Coin}

/-- Who has a coin that is worth something has an entry for it. -/
theorem Movable.hasEntry (h : b.Movable sender recipient c) (hc : c.amount ≠ 0) :
    b.HasEntry sender c.denom := by
  refine hasEntry_of_amountOf_ne_zero fun hzero => hc ?_
  have hheld := h.held
  rw [hzero] at hheld
  exact UInt64.le_zero_iff.1 hheld

theorem MovableAll.of_append_left (h : b.MovableAll sender recipient (front ++ back)) :
    b.MovableAll sender recipient front :=
  ⟨(List.pairwise_append.1 h.1).1, fun c hc => h.2 c (List.mem_append_left back hc)⟩

/-- When the first coins have been moved, the others can still be. -/
theorem MovableAll.of_append_right (h : b.MovableAll sender recipient (front ++ back)) :
    (b.movedAll sender recipient front).MovableAll sender recipient back := by
  induction front generalizing b with
  | nil => exact h
  | cons c front ih => exact ih h.tail

end Balances

namespace Ledger

variable {s s' : Ledger} {sender recipient : Address} {c : Coin} {amount : Coins}

/-- A pass of the loop, from `s` to `s'`, in which nothing goes wrong. -/
structure Pass (sender recipient : Address) (c : Coin) (s s' : Ledger) : Prop where
  /-- The sender has an entry to take the coin from. -/
  entry : s.balances.HasEntry sender c.denom
  /-- The entry holds the coin, so that the difference is exact. -/
  held : c.amount ≤ s.balance sender c.denom
  taken : debit sender c.denom c.amount s =
    ⟨.ok (), s.setBalance sender c.denom (s.balance sender c.denom - c.amount), []⟩
  /-- What is left then has room for the coin at the recipient. -/
  credited : ∃ sum, credit recipient c.denom c.amount
      (s.setBalance sender c.denom (s.balance sender c.denom - c.amount)) = ⟨.ok sum, s', []⟩

theorem pass_of_movable (h : s.balances.Movable sender recipient c) (hc : c.amount ≠ 0) :
    Pass sender recipient c s { s with balances := s.balances.moved sender recipient c } := by
  have hentry := h.hasEntry hc
  have hdebited : s.balances.debited sender c.denom c.amount =
      s.balances.update sender c.denom (s.balance sender c.denom - c.amount) := if_pos hentry
  have hroom := h.fits_debited
  rw [Balances.moved, hdebited]
  rw [hdebited] at hroom
  have hcredited := credit_of_fits
    (s := s.setBalance sender c.denom (s.balance sender c.denom - c.amount)) hroom
  refine ⟨hentry, h.held, ?_, _, hcredited⟩
  rw [debit_apply, hdebited]
  rfl

/-- A pass is what the loop does with a coin. -/
theorem Pass.moveCoin (h : Pass sender recipient c s s') :
    moveCoin sender recipient c s = ⟨.ok (), s', []⟩ := by
  obtain ⟨sum, hsum⟩ := h.credited
  rw [Ledger.moveCoin, Action.bind_of_ok h.taken, Action.bind_of_ok hsum]
  rfl

/-- The loop over a list goes on where the loop over its front has ended. -/
theorem moveCoins_append {front back : List Coin}
    (h : moveCoins sender recipient front s = ⟨.ok (), s', []⟩) :
    moveCoins sender recipient (front ++ back) s = moveCoins sender recipient back s' := by
  have happend : moveCoins sender recipient (front ++ back) =
      (moveCoins sender recipient front >>= fun _ => moveCoins sender recipient back) :=
    List.forM_append
  rw [happend]
  exact Action.bind_of_ok h

/-- **The move cannot go wrong**: once the coins of a set have been checked, the loop gets to
each of them, every pass finds an entry that holds the coin and adds the coin where there is
room for it, and the loop goes on from there.  So no pass ends the loop, and it gets to its
end. -/
theorem moveCoins_sound (h : s.checkCoins sender recipient amount.toList = .ok ()) :
    (∀ front c back, amount.toList = front ++ c :: back →
      ∃ before after, moveCoins sender recipient front s = ⟨.ok (), before, []⟩ ∧
        Pass sender recipient c before after ∧
        moveCoins sender recipient amount.toList s = moveCoins sender recipient back after) ∧
    (moveCoins sender recipient amount.toList s).result = .ok () := by
  have hall := checkCoins_eq_ok_iff.1 h
  constructor
  · intro front c back hl
    have hc : c.amount ≠ 0 := amount.nonzero c (by simp [hl])
    rw [hl] at hall ⊢
    have hfront := moveCoins_of_movable hall.of_append_left
    -- The invariant at the pass: this coin and those after it are movable.
    have hrest := hall.of_append_right
    have hpass := pass_of_movable
      (s := { s with balances := s.balances.movedAll sender recipient front }) hrest.head hc
    refine ⟨_, _, hfront, hpass, ?_⟩
    rw [moveCoins_append hfront, moveCoins_cons hpass.moveCoin]
  · rw [moveCoins_of_movable hall]

namespace Example

/-- Alice holds as much of a denomination as a balance can say. -/
def hoard : Ledger :=
  Operation.run initial [.deposit alice "uatom" 5, .deposit alice "unova" 18446744073709551615]

/-- All that Alice holds. -/
def everything : Coins :=
  ⟨[⟨"uatom", 5⟩, ⟨"unova", 18446744073709551615⟩], by decide, by decide⟩

end Example

open Example in
/-- Alice pays herself all she holds.  There is room for the second coin only because it has
been taken before it is added. -/
theorem moveCoins_sound_example :
    hoard.checkCoins alice alice everything.toList = .ok () ∧
    (∃ before after, moveCoins alice alice [⟨"uatom", 5⟩] hoard = ⟨.ok (), before, []⟩ ∧
      Pass alice alice ⟨"unova", 18446744073709551615⟩ before after ∧
      moveCoins alice alice everything.toList hoard = moveCoins alice alice [] after) ∧
    (moveCoins alice alice everything.toList hoard).result = .ok () := by
  have hcheck : hoard.checkCoins alice alice everything.toList = .ok () := by decide +kernel
  obtain ⟨hpass, hend⟩ := moveCoins_sound hcheck
  exact ⟨hcheck, hpass [⟨"uatom", 5⟩] ⟨"unova", 18446744073709551615⟩ [] rfl, hend⟩

end Ledger

end CoinTransfer
