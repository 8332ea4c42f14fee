import CoinTransfer.Ledger.Balances
import CoinTransfer.Proofs.Coins

/-!
# CoinTransfer.Proofs.Ledger.Balances

What taking, adding and moving coins does to balances, in exact numbers.  A coin
is `Movable` if the sender has it and the recipient has room for it.  The law of a
move is stated as an equation of sums, so that it needs no case for a sender who
is the recipient:

```
after + (what the account gave) = before + (what the account got)
```
-/

namespace CoinTransfer.Balances

/-! ## Entries -/

/-- A second update takes the place of the first. -/
theorem update_update (b : Balances) (a : Address) (denom : String) (n m : Amount) :
    (b.update a denom n).update a denom m = b.update a denom m := by
  apply Std.ExtTreeMap.ext_getElem?
  intro k
  simp only [update, Std.ExtTreeMap.getElem?_insert]
  split <;> rfl

/-- Writing the amount that an entry has already leaves every entry as it is. -/
theorem update_amountOf {b : Balances} {a : Address} {denom : String} (h : b.HasEntry a denom) :
    b.update a denom (b.amountOf a denom) = b := by
  apply Std.ExtTreeMap.ext_getElem?
  intro k
  rw [update, Std.ExtTreeMap.getElem?_insert]
  split
  · next hk =>
    rw [Std.LawfulEqCmp.compare_eq_iff_eq] at hk
    subst hk
    exact (Std.ExtTreeMap.getElem?_eq_some_getD h).symm
  · rfl

/-! ## Taking and adding -/

/-- The balances with an amount taken from an entry, if there is one. -/
def debited (b : Balances) (a : Address) (denom : String) (n : Amount) : Balances :=
  if b.HasEntry a denom then b.update a denom (b.amountOf a denom - n) else b

/-- The balances with an amount added to one of them. -/
def credited (b : Balances) (a : Address) (denom : String) (n : Amount) : Balances :=
  b.update a denom (b.amountOf a denom + n)

/-- A debit takes from its own entry exactly, and from no other. -/
theorem toNat_amountOf_debited {b : Balances} {a : Address} {denom : String} {n : Amount}
    (h : n ≤ b.amountOf a denom) (a' : Address) (d : String) :
    ((b.debited a denom n).amountOf a' d).toNat + (if a = a' ∧ denom = d then n.toNat else 0) =
      (b.amountOf a' d).toNat := by
  have hle := UInt64.le_iff_toNat_le.1 h
  unfold debited
  split
  · rw [amountOf_update]
    split
    · next hk =>
      obtain ⟨rfl, rfl⟩ := hk
      rw [UInt64.toNat_sub_of_le _ _ h]
      omega
    · rfl
  · next hn =>
    -- Without an entry there is nothing to take.
    have hzero : b.amountOf a denom = 0 :=
      Decidable.not_not.1 fun hz => hn (hasEntry_of_amountOf_ne_zero hz)
    rw [hzero] at hle
    have hn : n.toNat = 0 := Nat.le_zero.1 hle
    simp [hn]

/-- A credit that fits adds to its own entry exactly, and to no other. -/
theorem toNat_amountOf_credited {b : Balances} {a : Address} {denom : String} {n : Amount}
    (h : (b.amountOf a denom).toNat + n.toNat < UInt64.size) (a' : Address) (d : String) :
    ((b.credited a denom n).amountOf a' d).toNat =
      (b.amountOf a' d).toNat + if a = a' ∧ denom = d then n.toNat else 0 := by
  rw [credited, amountOf_update]
  split
  · next hk =>
    obtain ⟨rfl, rfl⟩ := hk
    rw [UInt64.toNat_add, Nat.mod_eq_of_lt h]
  · rfl

/-! ## Moving one coin -/

/-- The balances after a coin has been moved. -/
def moved (sender recipient : Address) (b : Balances) (c : Coin) : Balances :=
  (b.debited sender c.denom c.amount).credited recipient c.denom c.amount

/-- The sender has the coin, and another recipient has room for it. -/
structure Movable (b : Balances) (sender recipient : Address) (c : Coin) : Prop where
  held : c.amount ≤ b.amountOf sender c.denom
  fits : sender ≠ recipient → (b.amountOf recipient c.denom).toNat + c.amount.toNat < UInt64.size

variable {b : Balances} {sender recipient : Address} {c : Coin}

/-- What is left after the coin has been taken leaves room for it, also if the
sender is the recipient. -/
theorem Movable.fits_debited (h : b.Movable sender recipient c) :
    ((b.debited sender c.denom c.amount).amountOf recipient c.denom).toNat + c.amount.toNat <
      UInt64.size := by
  have hlaw := toNat_amountOf_debited h.held recipient c.denom
  by_cases he : sender = recipient
  · have := (b.amountOf recipient c.denom).toNat_lt_size
    simp only [he, and_self, if_true] at hlaw ⊢
    omega
  · have := h.fits he
    simp only [he, false_and, if_false] at hlaw
    omega

/-- A coin that is moved is taken from the sender and given to the recipient, who may be one
account; everything else stays. -/
theorem toNat_amountOf_moved (h : b.Movable sender recipient c) (a : Address) (d : String) :
    ((b.moved sender recipient c).amountOf a d).toNat +
        (if sender = a ∧ c.denom = d then c.amount.toNat else 0) =
      (b.amountOf a d).toNat + if recipient = a ∧ c.denom = d then c.amount.toNat else 0 := by
  rw [moved, toNat_amountOf_credited h.fits_debited, ← toNat_amountOf_debited h.held a d]
  omega

/-- Moving a coin leaves other denominations alone. -/
theorem amountOf_moved_of_ne {d : String} (hd : c.denom ≠ d) (a : Address) :
    (b.moved sender recipient c).amountOf a d = b.amountOf a d := by
  unfold moved credited debited
  split <;> simp [amountOf_update, hd]

/-- After one coin, a coin of another denomination can be moved as before. -/
theorem Movable.moved {x : Coin} (hx : b.Movable sender recipient x) (hd : c.denom ≠ x.denom) :
    (b.moved sender recipient c).Movable sender recipient x := by
  constructor
  · rw [amountOf_moved_of_ne hd]
    exact hx.held
  · rw [amountOf_moved_of_ne hd]
    exact hx.fits

/-! ## Moving coins of distinct denominations -/

/-- The balances after coins have been moved one after the other. -/
def movedAll (b : Balances) (sender recipient : Address) (coins : List Coin) : Balances :=
  coins.foldl (moved sender recipient) b

@[simp] theorem movedAll_nil : b.movedAll sender recipient [] = b := rfl

@[simp] theorem movedAll_cons (coins : List Coin) :
    b.movedAll sender recipient (c :: coins) =
      (b.moved sender recipient c).movedAll sender recipient coins := rfl

/-- All coins can be moved, one after the other, if each can be moved at first. -/
def MovableAll (b : Balances) (sender recipient : Address) (coins : List Coin) : Prop :=
  Coin.Distinct coins ∧ ∀ c ∈ coins, b.Movable sender recipient c

/-- The first of some coins that can all be moved can be moved. -/
theorem MovableAll.head {coins : List Coin} (h : b.MovableAll sender recipient (c :: coins)) :
    b.Movable sender recipient c := h.2 c List.mem_cons_self

/-- Once the first coin has been moved, the others can still be. -/
theorem MovableAll.tail {coins : List Coin} (h : b.MovableAll sender recipient (c :: coins)) :
    (b.moved sender recipient c).MovableAll sender recipient coins := by
  obtain ⟨hc, hd⟩ := List.pairwise_cons.1 h.1
  exact ⟨hd, fun x hx => (h.2 x (List.mem_cons_of_mem c hx)).moved (hc x hx)⟩

/-- **Law of a move**: the sender gives what the coins hold of a denomination, the
recipient gets it, and no one else's balance changes. -/
theorem toNat_amountOf_movedAll {coins : List Coin} (h : b.MovableAll sender recipient coins)
    (a : Address) (d : String) :
    ((b.movedAll sender recipient coins).amountOf a d).toNat +
        (if sender = a then Coin.total coins d else 0) =
      (b.amountOf a d).toNat + if recipient = a then Coin.total coins d else 0 := by
  induction coins generalizing b with
  | nil => simp
  | cons c coins ih =>
      have hfirst := toNat_amountOf_moved h.head a d
      have hrest := ih h.tail
      rw [movedAll_cons, Coin.total_cons]
      by_cases hs : sender = a <;> by_cases hr : recipient = a <;>
        simp only [hs, hr, true_and, false_and, if_true, if_false] at hfirst hrest ⊢ <;> omega

end CoinTransfer.Balances
