import Mathlib.Algebra.Ring.Nat
import CoinTransfer.Coins

/-!
# CoinTransfer.Proofs.Coins

Coins counted without bound.  `Coin.total` is the exact sum of what a list holds
of a denomination; for a set of coins it is the amount that the set answers with,
because a set has at most one coin of each denomination.  A loop over a set is
therefore reasoned about on lists of distinct denominations, and its outcome is
stated with `Coin.total`.
-/

namespace CoinTransfer

namespace Amount

/-- Sums that fit are the sums of the words. -/
theorem add?_of_lt {a b : Amount} (h : a.toNat + b.toNat < UInt64.size) : add? a b = some (a + b) :=
  if_pos h

theorem add?_of_not_lt {a b : Amount} (h : ¬ a.toNat + b.toNat < UInt64.size) : add? a b = none :=
  if_neg h

/-- What has been taken from an amount can be put back. -/
theorem toNat_sub_add_lt {a b : Amount} (h : b ≤ a) :
    (a - b).toNat + b.toNat < UInt64.size := by
  have := a.toNat_lt_size
  have := UInt64.le_iff_toNat_le.1 h
  rw [UInt64.toNat_sub_of_le _ _ h]
  omega

end Amount

namespace Coin

/-- The exact sum of what coins hold of a denomination. -/
def total (coins : List Coin) (denom : String) : Nat :=
  ((coins.filter fun c => c.denom = denom).map fun c => c.amount.toNat).sum

/-- No two coins have the same denomination. -/
def Distinct (coins : List Coin) : Prop := coins.Pairwise fun a b => a.denom ≠ b.denom

@[simp] theorem total_nil (denom : String) : total [] denom = 0 := rfl

theorem total_cons (c : Coin) (coins : List Coin) (denom : String) :
    total (c :: coins) denom =
      (if c.denom = denom then c.amount.toNat else 0) + total coins denom := by
  by_cases h : c.denom = denom <;> simp [total, h]

/-- What coins come to adds up over the parts of a list. -/
theorem total_append (front back : List Coin) (denom : String) :
    total (front ++ back) denom = total front denom + total back denom := by
  simp [total]

/-- The order of coins does not matter for what they come to. -/
theorem total_perm {coins other : List Coin} (h : coins.Perm other) (denom : String) :
    total coins denom = total other denom :=
  ((h.filter _).map _).sum_nat

/-- Coins of other denominations come to nothing. -/
theorem total_eq_zero {coins : List Coin} {denom : String} (h : ∀ c ∈ coins, c.denom ≠ denom) :
    total coins denom = 0 := by
  have hnone : (coins.filter fun c => c.denom = denom) = [] := by simpa using h
  rw [total, hnone, List.map_nil, List.sum_nil]

/-- With one coin for each denomination, that coin is all there is of its denomination. -/
theorem toNat_find?_elim {coins : List Coin} (h : Distinct coins) (denom : String) :
    ((coins.find? (·.denom == denom)).elim 0 Coin.amount).toNat = total coins denom := by
  induction coins with
  | nil => rfl
  | cons c coins ih =>
      obtain ⟨hc, hcoins⟩ := List.pairwise_cons.1 h
      rw [List.find?_cons, total_cons]
      by_cases hd : c.denom = denom
      · -- The coin that is found is the only one of its denomination.
        have hrest : total coins denom = 0 :=
          total_eq_zero fun x hx he => hc x hx (hd.trans he.symm)
        simp [hd, hrest]
      · rw [beq_false_of_ne hd, if_neg hd, Nat.zero_add]
        exact ih hcoins

end Coin

namespace Coins

/-- The denominations increase as texts. -/
theorem ordered_denom (coins : Coins) :
    coins.toList.Pairwise fun a b => a.denom < b.denom := by
  refine coins.ordered.imp fun {a b} h => ?_
  have hcompare : compareOfLessAndEq a.denom b.denom = .lt := h
  exact compareOfLessAndEq_eq_lt.1 hcompare

/-- What comes before a coin in the order of denominations stands before it in the list. -/
theorem mem_front_iff {coins : Coins} {front back : List Coin} {c x : Coin}
    (hl : coins.toList = front ++ c :: back) :
    x ∈ front ↔ x ∈ coins.toList ∧ x.denom < c.denom := by
  have hordered := coins.ordered_denom
  rw [hl, List.pairwise_append, List.pairwise_cons] at hordered
  obtain ⟨-, ⟨hback, -⟩, hfront⟩ := hordered
  rw [hl, List.mem_append, List.mem_cons]
  constructor
  · exact fun hx => ⟨.inl hx, hfront x hx c List.mem_cons_self⟩
  · rintro ⟨hx | rfl | hx, hlt⟩
    · exact hx
    · exact absurd hlt (String.lt_irrefl _)
    · exact absurd hlt (String.lt_asymm (hback x hx))

/-- A set has at most one coin of a denomination. -/
theorem distinct (coins : Coins) : Coin.Distinct coins.toList := by
  refine coins.ordered.imp fun {a b} h he => ?_
  rw [he, Std.ReflOrd.compare_self] at h
  cases h

/-- The amount of a denomination is the sum of its coins: there is at most one. -/
theorem toNat_amountOf (coins : Coins) (denom : String) :
    (coins.amountOf denom).toNat = Coin.total coins.toList denom := by
  have hfind : coins.amountOf denom =
      (coins.toList.find? (·.denom == denom)).elim 0 Coin.amount := by
    unfold amountOf
    cases coins.toList.find? (·.denom == denom) <;> rfl
  rw [hfind]
  exact Coin.toNat_find?_elim coins.distinct denom

/-- What a set has of a denomination is the amount of its coin. -/
theorem amountOf_of_mem {coins : Coins} {c : Coin} (h : c ∈ coins.toList) :
    coins.amountOf c.denom = c.amount := by
  rw [← UInt64.toNat_inj, toNat_amountOf]
  have hd := coins.distinct
  obtain ⟨front, back, hl⟩ := List.append_of_mem h
  rw [hl, Coin.Distinct, List.pairwise_append, List.pairwise_cons] at hd
  obtain ⟨-, ⟨hback, -⟩, hfront⟩ := hd
  rw [hl, Coin.total_append, Coin.total_cons, if_pos rfl,
    Coin.total_eq_zero fun x hx => hfront x hx c List.mem_cons_self,
    Coin.total_eq_zero fun x hx => (hback x hx).symm]
  omega

/-- Without a coin of a denomination, a set has nothing of it. -/
theorem amountOf_of_forall_ne {coins : Coins} {denom : String}
    (h : ∀ c ∈ coins.toList, c.denom ≠ denom) : coins.amountOf denom = 0 := by
  rw [← UInt64.toNat_inj, toNat_amountOf, Coin.total_eq_zero h]
  rfl

@[simp] theorem amountOf_empty (denom : String) : empty.amountOf denom = 0 := rfl

/-- A single coin is all that its set has. -/
theorem amountOf_single (denom : String) (n : Amount) (d : String) :
    (single denom n).amountOf d = if denom = d then n else 0 := by
  by_cases hn : n = 0
  · subst hn
    rw [single_zero, ite_self]
    rfl
  · rw [← UInt64.toNat_inj, toNat_amountOf, toList_single denom hn, Coin.total_cons,
      Coin.total_nil]
    split <;> rfl

/-- The coins of a set are the amounts it has that are not zero. -/
theorem mem_toList_iff {coins : Coins} {c : Coin} :
    c ∈ coins.toList ↔ c.amount ≠ 0 ∧ coins.amountOf c.denom = c.amount := by
  refine ⟨fun h => ⟨coins.nonzero c h, amountOf_of_mem h⟩, fun ⟨hne, hamount⟩ => ?_⟩
  by_cases hnone : ∀ x ∈ coins.toList, x.denom ≠ c.denom
  · exact absurd (hamount.symm.trans (amountOf_of_forall_ne hnone)) hne
  · -- Some coin has the denomination, and with it the amount.
    simp only [not_forall, not_not] at hnone
    obtain ⟨x, hx, hdenom⟩ := hnone
    have hsame : x.amount = c.amount := by rw [← amountOf_of_mem hx, hdenom, hamount]
    obtain rfl : x = c := congrArg₂ Coin.mk hdenom hsame
    exact hx

/-- The denominations of a set, in their order. -/
def denoms (coins : Coins) : List String := coins.toList.map Coin.denom

/-- No denomination is listed twice. -/
theorem denoms_nodup (coins : Coins) : coins.denoms.Nodup := by
  rw [denoms, List.Nodup, List.pairwise_map]
  exact coins.distinct

/-- A set has the denominations that it has an amount of. -/
theorem mem_denoms_iff {coins : Coins} {denom : String} :
    denom ∈ coins.denoms ↔ coins.amountOf denom ≠ 0 := by
  rw [denoms, List.mem_map]
  constructor
  · rintro ⟨c, hc, rfl⟩
    rw [amountOf_of_mem hc]
    exact coins.nonzero c hc
  · intro h
    by_contra hnone
    exact h (amountOf_of_forall_ne fun c hc hd => hnone ⟨c, hc, hd⟩)

theorem amountOf_of_not_mem_denoms {coins : Coins} {denom : String} (h : denom ∉ coins.denoms) :
    coins.amountOf denom = 0 :=
  Decidable.not_not.1 fun hne => h (mem_denoms_iff.2 hne)

/-- A set is determined by the amounts of its denominations. -/
theorem ext_amountOf {a b : Coins} (h : ∀ denom, a.amountOf denom = b.amountOf denom) : a = b := by
  have hnodup (coins : Coins) : coins.toList.Nodup :=
    coins.distinct.imp fun hd he => hd (congrArg Coin.denom he)
  have hperm : a.toList.Perm b.toList := by
    rw [List.perm_ext_iff_of_nodup (hnodup a) (hnodup b)]
    intro c
    rw [mem_toList_iff, mem_toList_iff, h]
  -- Both lists are in the order of the denominations.
  refine ext (hperm.eq_of_pairwise (fun x y _ _ hxy hyx => ?_) a.ordered b.ordered)
  rw [Std.OrientedOrd.eq_swap, hyx] at hxy
  cases hxy

/-- The empty set is the one that has nothing of any denomination. -/
theorem eq_empty_iff {a : Coins} : a = empty ↔ ∀ denom, a.amountOf denom = 0 := by
  constructor
  · rintro rfl denom
    exact amountOf_empty denom
  · exact fun h => ext_amountOf fun denom => (h denom).trans (amountOf_empty denom).symm

/-- The set of some totals has their amounts; that it leaves out zeros does not show. -/
theorem amountOf_ofTotals (t : Totals) (denom : String) :
    (ofTotals t).amountOf denom = t.amountOf denom := by
  have hmem (n : Amount) : ⟨denom, n⟩ ∈ (ofTotals t).toList ↔ t[denom]? = some n ∧ n ≠ 0 := by
    simp [ofTotals, Std.ExtTreeMap.mem_toList_iff_getElem?_eq_some]
  by_cases hz : t.amountOf denom = 0
  · rw [hz]
    refine amountOf_of_forall_ne fun c hc hd => ?_
    subst hd
    obtain ⟨hget, hne⟩ := (hmem c.amount).1 hc
    rw [Totals.amountOf, Std.ExtTreeMap.getD_eq_getD_getElem?, hget] at hz
    exact hne hz
  · refine amountOf_of_mem (c := ⟨denom, t.amountOf denom⟩) ((hmem _).2 ⟨?_, hz⟩)
    exact Std.ExtTreeMap.getElem?_eq_some_getD
      (Decidable.not_not.1 fun hn => hz (Std.ExtTreeMap.getD_eq_fallback hn))

end Coins

end CoinTransfer
