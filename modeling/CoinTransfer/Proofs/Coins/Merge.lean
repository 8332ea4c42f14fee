import Mathlib.Data.List.Induction
import CoinTransfer.Proofs.Coins
import CoinTransfer.Proofs.Text.Utf8

/-!
# CoinTransfer.Proofs.Coins.Merge

Building a set from a list.  The running totals are the exact sums of the coins so far, so
the list makes a set exactly when the sum of every denomination is an amount, and the set
then has these sums:

* `Coins.ofList_eq_ok_iff` — a list makes the set whose amounts are its sums;
* `Coins.ofList_eq_error_iff` — any other list fails at the first coin that its
  denomination has no room for.

As a set is determined by its amounts, whatever keeps the sums keeps the set: another order
of the list, or parts of the list that are made sets beforehand.
-/

namespace CoinTransfer

namespace Totals

variable {t : Totals} {c : Coin}

theorem exists_add? (h : (t.amountOf c.denom).toNat + c.amount.toNat < UInt64.size) :
    ∃ t', t.add? c = some t' := by
  rw [add?, Amount.add?_of_lt h]
  exact ⟨_, rfl⟩

end Totals

namespace Coin

/-! ## Running totals -/

/-- No running total is too large: each coin fits beside those of its denomination that
come before it. -/
def Fits (coins : List Coin) : Prop :=
  ∀ front c back, coins = front ++ c :: back → total (front ++ [c]) c.denom < UInt64.size

theorem total_concat (coins : List Coin) (c : Coin) (denom : String) :
    total (coins ++ [c]) denom =
      total coins denom + if c.denom = denom then c.amount.toNat else 0 := by
  rw [total_append, total_cons, total_nil, Nat.add_zero]

theorem fits_nil : Fits [] := by
  intro front c back h
  simp at h

/-- The running totals fit if the sums at the end do. -/
theorem fits_iff {coins : List Coin} :
    Fits coins ↔ ∀ denom, total coins denom < UInt64.size := by
  constructor
  · intro h denom
    induction coins using List.reverseRecOn with
    | nil => exact Nat.zero_lt_of_ne_zero (by decide)
    | append_singleton front c ih =>
      by_cases hd : c.denom = denom
      · -- The last running total of a denomination is its sum.
        subst hd
        exact h front c [] rfl
      · have hfront : Fits front := fun first x rest hx =>
          h first x (rest ++ [c]) (by rw [hx, List.append_assoc, List.cons_append])
        rw [total_concat, if_neg hd, Nat.add_zero]
        exact ih hfront
  · rintro h front c back rfl
    have hsum := h c.denom
    rw [total_append, total_cons] at hsum
    rw [total_append, total_cons, total_nil]
    omega

/-- Where some running total is too large, there is a first coin at which it is. -/
theorem exists_first_of_not_fits {coins : List Coin} (h : ¬ Fits coins) :
    ∃ front c back, coins = front ++ c :: back ∧ Fits front ∧
      UInt64.size ≤ total (front ++ [c]) c.denom := by
  induction coins using List.reverseRecOn with
  | nil => exact absurd fits_nil h
  | append_singleton front c ih =>
    by_cases hfront : Fits front
    · refine ⟨front, c, [], rfl, hfront, Nat.le_of_not_lt fun hlt => h (fits_iff.2 fun denom => ?_)⟩
      by_cases hd : c.denom = denom
      · exact hd ▸ hlt
      · rw [total_concat, if_neg hd]
        exact fits_iff.1 hfront denom
    · obtain ⟨first, x, rest, rfl, hfirst, hx⟩ := ih hfront
      exact ⟨first, x, rest ++ [c], by rw [List.append_assoc, List.cons_append], hfirst, hx⟩

end Coin

namespace Coins

/-! ## Adding up -/

/-- A coin that still fits adds its amount to its denomination alone. -/
theorem exists_accumulate {t : Totals} {c : Coin}
    (h : (t.amountOf c.denom).toNat + c.amount.toNat < UInt64.size) :
    ∃ t', accumulate t c = .ok t' ∧ ∀ denom, (t'.amountOf denom).toNat =
      (t.amountOf denom).toNat + if c.denom = denom then c.amount.toNat else 0 := by
  by_cases hz : c.isZero = true
  · refine ⟨t, if_pos hz, fun denom => ?_⟩
    have hamount : c.amount = 0 := eq_of_beq hz
    rw [hamount, UInt64.toNat_zero, ite_self, Nat.add_zero]
  · obtain ⟨t', ht'⟩ := Totals.exists_add? h
    refine ⟨t', ?_, Totals.amountOf_add? ht'⟩
    rw [accumulate, if_neg hz, ht']

theorem exists_foldlM_accumulate {t : Totals} {coins : List Coin}
    (h : ∀ denom, (t.amountOf denom).toNat + Coin.total coins denom < UInt64.size) :
    ∃ t', coins.foldlM accumulate t = .ok t' ∧
      ∀ denom, (t'.amountOf denom).toNat = (t.amountOf denom).toNat + Coin.total coins denom := by
  induction coins generalizing t with
  | nil => exact ⟨t, rfl, fun _ => rfl⟩
  | cons c coins ih =>
      simp only [Coin.total_cons] at h ⊢
      have hc := h c.denom
      rw [if_pos rfl] at hc
      obtain ⟨next, hnext, hamount⟩ := exists_accumulate (t := t) (c := c) (by omega)
      obtain ⟨t', ht', htotal⟩ := ih (t := next) fun denom => by
        rw [hamount, Nat.add_assoc]
        exact h denom
      refine ⟨t', ?_, fun denom => by rw [htotal, hamount, Nat.add_assoc]⟩
      rw [List.foldlM_cons, hnext]
      exact ht'

/-- A coin that does not fit is refused; it is not of amount zero. -/
theorem accumulate_of_overflow {t : Totals} {c : Coin}
    (h : UInt64.size ≤ (t.amountOf c.denom).toNat + c.amount.toNat) :
    accumulate t c = .error (.overflow c.denom) := by
  have hz : ¬ c.isZero = true := by
    intro hz
    have hamount : c.amount = 0 := eq_of_beq hz
    have := (t.amountOf c.denom).toNat_lt_size
    rw [hamount, UInt64.toNat_zero] at h
    omega
  have hnone : t.add? c = none := by
    rw [Totals.add?, Amount.add?_eq_none_iff.2 h, Option.map_none]
  rw [accumulate, if_neg hz, hnone]

/-! ## The set of a list -/

/-- From nothing, the totals are the sums. -/
theorem exists_totals {coins : List Coin} (h : ∀ denom, Coin.total coins denom < UInt64.size) :
    ∃ t, coins.foldlM accumulate ∅ = .ok t ∧
      ∀ denom, (t.amountOf denom).toNat = Coin.total coins denom := by
  have hnone (denom : String) : (Totals.amountOf ∅ denom).toNat = 0 := by
    rw [Totals.amountOf_empty, UInt64.toNat_zero]
  have hroom (denom : String) :
      (Totals.amountOf ∅ denom).toNat + Coin.total coins denom < UInt64.size := by
    rw [hnone, Nat.zero_add]
    exact h denom
  obtain ⟨t, ht, hamount⟩ := exists_foldlM_accumulate hroom
  exact ⟨t, ht, fun denom => by rw [hamount, hnone, Nat.zero_add]⟩

/-- A list whose sums are amounts makes the set that has these sums. -/
theorem exists_ofList {coins : List Coin} (h : ∀ denom, Coin.total coins denom < UInt64.size) :
    ∃ a : Coins, ofList coins = .ok a ∧
      ∀ denom, (a.amountOf denom).toNat = Coin.total coins denom := by
  obtain ⟨t, ht, hamount⟩ := exists_totals h
  refine ⟨ofTotals t, ?_, fun denom => by rw [amountOf_ofTotals, hamount]⟩
  rw [ofList, ht]
  rfl

/-- A list fails at the first coin that does not fit. -/
theorem ofList_of_first {front back : List Coin} {c : Coin} (hfront : Coin.Fits front)
    (h : UInt64.size ≤ Coin.total (front ++ [c]) c.denom) :
    ofList (front ++ c :: back) = .error (.overflow c.denom) := by
  obtain ⟨t, ht, hamount⟩ := exists_totals (Coin.fits_iff.1 hfront)
  have hstop : accumulate t c = .error (.overflow c.denom) := by
    refine accumulate_of_overflow ?_
    rw [Coin.total_concat, if_pos rfl] at h
    rwa [hamount]
  rw [ofList, List.foldlM_append, ht]
  change (List.foldlM accumulate t (c :: back)).map ofTotals = _
  rw [List.foldlM_cons, hstop]
  rfl

variable {coins : List Coin}

/-- A list makes the set whose amounts are the sums of the list. -/
theorem ofList_eq_ok_iff {a : Coins} :
    ofList coins = .ok a ↔ ∀ denom, (a.amountOf denom).toNat = Coin.total coins denom := by
  constructor
  · intro h
    by_cases hfits : Coin.Fits coins
    · obtain ⟨b, hb, hamount⟩ := exists_ofList (Coin.fits_iff.1 hfits)
      rw [h] at hb
      cases hb
      exact hamount
    · obtain ⟨front, c, back, rfl, hfront, hc⟩ := Coin.exists_first_of_not_fits hfits
      rw [ofList_of_first hfront hc] at h
      cases h
  · intro h
    have hfits (denom : String) : Coin.total coins denom < UInt64.size := by
      rw [← h]
      exact UInt64.toNat_lt_size _
    obtain ⟨b, hb, hamount⟩ := exists_ofList hfits
    have heq : b = a := ext_amountOf fun denom => by rw [← UInt64.toNat_inj, hamount, h]
    rw [hb, heq]

theorem ofList_eq_error_iff {e : CoinsError} :
    ofList coins = .error e ↔
      ∃ front c back, coins = front ++ c :: back ∧ Coin.Fits front ∧
        UInt64.size ≤ Coin.total (front ++ [c]) c.denom ∧ e = .overflow c.denom := by
  constructor
  · intro h
    by_cases hfits : Coin.Fits coins
    · obtain ⟨a, ha, -⟩ := exists_ofList (Coin.fits_iff.1 hfits)
      rw [h] at ha
      cases ha
    · obtain ⟨front, c, back, rfl, hfront, hc⟩ := Coin.exists_first_of_not_fits hfits
      rw [ofList_of_first hfront hc] at h
      cases h
      exact ⟨front, c, back, rfl, hfront, hc, rfl⟩
  · rintro ⟨front, c, back, rfl, hfront, hc, rfl⟩
    exact ofList_of_first hfront hc

/-- A set is made from its own list. -/
theorem ofList_toList (a : Coins) : ofList a.toList = .ok a :=
  ofList_eq_ok_iff.2 (toNat_amountOf a)

theorem exists_ofList_iff :
    (∃ a, ofList coins = .ok a) ↔ ∀ denom, Coin.total coins denom < UInt64.size := by
  refine ⟨fun ⟨a, ha⟩ denom => ?_, fun h => ?_⟩
  · rw [← ofList_eq_ok_iff.1 ha]
    exact UInt64.toNat_lt_size _
  · obtain ⟨a, ha, -⟩ := exists_ofList h
    exact ⟨a, ha⟩

/-- The order of a list does not show in its set. -/
theorem ofList_eq_ok_iff_of_perm {other : List Coin} (h : coins.Perm other) (a : Coins) :
    ofList coins = .ok a ↔ ofList other = .ok a := by
  simp only [ofList_eq_ok_iff, Coin.total_perm h]

/-- Parts of a list may be made sets before the whole is. -/
theorem ofList_append_eq_ok_iff {more : List Coin} {a : Coins} :
    ofList (coins ++ more) = .ok a ↔
      ∃ b c, ofList coins = .ok b ∧ ofList more = .ok c ∧ ofList (b.toList ++ c.toList) = .ok a := by
  constructor
  · intro h
    rw [ofList_eq_ok_iff] at h
    simp only [Coin.total_append] at h
    have hsum (denom : String) : Coin.total coins denom + Coin.total more denom < UInt64.size := by
      rw [← h]
      exact UInt64.toNat_lt_size _
    obtain ⟨b, hb, hbamount⟩ := exists_ofList fun denom => Nat.lt_of_add_right_lt (hsum denom)
    obtain ⟨c, hc, hcamount⟩ := exists_ofList fun denom => Nat.lt_of_add_left_lt (hsum denom)
    refine ⟨b, c, hb, hc, ofList_eq_ok_iff.2 fun denom => ?_⟩
    rw [h, Coin.total_append, ← toNat_amountOf, ← toNat_amountOf, hbamount, hcamount]
  · rintro ⟨b, c, hb, hc, ha⟩
    refine ofList_eq_ok_iff.2 fun denom => ?_
    rw [ofList_eq_ok_iff.1 ha, Coin.total_append, Coin.total_append, ← toNat_amountOf,
      ← toNat_amountOf, ofList_eq_ok_iff.1 hb, ofList_eq_ok_iff.1 hc]

/-- **Normal form**: a list makes a set exactly if no sum of a denomination is too large.
The set is in the order of the bytes of its denominations, has no zeros, and has the sums of
the list, whatever its order and whether or not its parts were made sets before.  Any other
list fails at the first coin whose denomination has no room for it. -/
theorem ofList_normalizes (coins : List Coin) :
    ((∃ a, ofList coins = .ok a) ↔ ∀ denom, Coin.total coins denom < UInt64.size) ∧
    (∀ a, ofList coins = .ok a →
      (a.toList.Pairwise fun x y => Text.utf8 x.denom.toList < Text.utf8 y.denom.toList) ∧
      (∀ c ∈ a.toList, c.amount ≠ 0) ∧
      ∀ denom, (a.amountOf denom).toNat = Coin.total coins denom) ∧
    (∀ other, coins.Perm other → ∀ a, ofList coins = .ok a ↔ ofList other = .ok a) ∧
    (∀ more a, ofList (coins ++ more) = .ok a ↔
      ∃ b c, ofList coins = .ok b ∧ ofList more = .ok c ∧ ofList (b.toList ++ c.toList) = .ok a) ∧
    ∀ e, ofList coins = .error e ↔
      ∃ front c back, coins = front ++ c :: back ∧ Coin.Fits front ∧
        UInt64.size ≤ Coin.total (front ++ [c]) c.denom ∧ e = .overflow c.denom := by
  refine ⟨exists_ofList_iff, fun a ha => ⟨?_, a.nonzero, ofList_eq_ok_iff.1 ha⟩,
    fun other h => ofList_eq_ok_iff_of_perm h, fun more a => ofList_append_eq_ok_iff,
    fun e => ofList_eq_error_iff⟩
  exact a.ordered_denom.imp fun h => Text.utf8_lt_utf8 h

namespace Example

/-- Coins as they came in: one denomination twice, and one of amount zero. -/
def receipts : List Coin := [⟨"unova", 10⟩, ⟨"uatom", 5⟩, ⟨"ubtc", 0⟩, ⟨"uatom", 7⟩]

def merged : Coins := ⟨[⟨"uatom", 12⟩, ⟨"unova", 10⟩], by decide, by decide⟩

end Example

open Example in
/-- The list makes the same set from its end as from its beginning. -/
theorem ofList_normalizes_example :
    receipts.Perm receipts.reverse ∧ ofList receipts = .ok merged ∧
      ofList receipts.reverse = .ok merged ∧
      (merged.amountOf "uatom").toNat = Coin.total receipts "uatom" ∧
      Coin.total receipts "uatom" = 12 := by
  have hmerged : ofList receipts = .ok merged := rfl
  have hperm : receipts.Perm receipts.reverse := receipts.reverse_perm.symm
  obtain ⟨-, hform, hother, -, -⟩ := ofList_normalizes receipts
  exact ⟨hperm, hmerged, (hother _ hperm merged).1 hmerged, (hform merged hmerged).2.2 "uatom",
    rfl⟩

/-- Two denominations add up to too much; the one that does so first is named. -/
example :
    ofList [⟨"unova", 18446744073709551615⟩, ⟨"uatom", 18446744073709551615⟩, ⟨"uatom", 1⟩,
      ⟨"unova", 1⟩] = .error (.overflow "uatom") := rfl

end Coins

end CoinTransfer
