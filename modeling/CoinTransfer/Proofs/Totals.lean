import CoinTransfer.Proofs.Coins

/-!
# CoinTransfer.Proofs.Totals

Adding coins to totals whose sums have been checked beforehand, all against the
totals at the start.  That is enough because the coins have distinct
denominations: no coin changes the total that another one is checked against.
-/

namespace CoinTransfer.Totals

/-- The sum of a coin and the total of its denomination is an amount. -/
def Addable (t : Totals) (c : Coin) : Prop :=
  (t.amountOf c.denom).toNat + c.amount.toNat < UInt64.size

variable {t : Totals} {c : Coin}

theorem toNat_amountOf_plus (h : t.Addable c) (denom : String) :
    ((t.plus c).amountOf denom).toNat =
      (t.amountOf denom).toNat + if c.denom = denom then c.amount.toNat else 0 := by
  rw [plus, amountOf_insert]
  split
  · next hd =>
    subst hd
    rw [UInt64.toNat_add, Nat.mod_eq_of_lt h]
  · rfl

theorem Addable.plus {x : Coin} (hx : t.Addable x) (hd : c.denom ≠ x.denom) :
    (t.plus c).Addable x := by
  rw [Addable, Totals.plus, amountOf_insert, if_neg hd]
  exact hx

/-- No sum on the way is too large: what comes before a coin leaves its total alone. -/
theorem addable_foldl_plus {front back : List Coin} (hd : Coin.Distinct (front ++ c :: back))
    (h : ∀ x ∈ front ++ c :: back, t.Addable x) : (front.foldl plus t).Addable c := by
  induction front generalizing t with
  | nil => exact h c List.mem_cons_self
  | cons x front ih =>
      obtain ⟨hx, hd⟩ := List.pairwise_cons.1 hd
      refine ih hd fun y hy => ?_
      exact (h y (List.mem_cons_of_mem x hy)).plus (hx y hy)

/-- The entry of a denomination that no coin has is left alone. -/
theorem getElem?_foldl_plus_of_forall_ne {coins : List Coin} {denom : String}
    (h : ∀ c ∈ coins, c.denom ≠ denom) : (coins.foldl plus t)[denom]? = t[denom]? := by
  induction coins generalizing t with
  | nil => rfl
  | cons c coins ih =>
      obtain ⟨hc, hcoins⟩ := List.forall_mem_cons.1 h
      rw [List.foldl_cons, ih hcoins, plus, Std.ExtTreeMap.getElem?_insert, if_neg]
      rwa [Std.LawfulEqCmp.compare_eq_iff_eq]

theorem toNat_amountOf_foldl_plus {coins : List Coin} (hd : Coin.Distinct coins)
    (h : ∀ c ∈ coins, t.Addable c) (denom : String) :
    ((coins.foldl plus t).amountOf denom).toNat =
      (t.amountOf denom).toNat + Coin.total coins denom := by
  induction coins generalizing t with
  | nil => rfl
  | cons c coins ih =>
      obtain ⟨hc, hd⟩ := List.pairwise_cons.1 hd
      have hrest : ∀ x ∈ coins, (t.plus c).Addable x :=
        fun x hx => (h x (List.mem_cons_of_mem c hx)).plus (hc x hx)
      rw [List.foldl_cons, ih hd hrest, toNat_amountOf_plus (h c List.mem_cons_self),
        Coin.total_cons, Nat.add_assoc]

end CoinTransfer.Totals
