import Mathlib.Data.Set.Card
import CoinTransfer.Proofs.Coins.Merge

/-!
# CoinTransfer.Proofs.Coins.Canonical

Sets of coins as normal forms.  A list of coins is `Coin.Normal` if the bytes of its
denominations increase and no amount is zero.  Every set has a normal list, whichever way it
has come about: the obligations of the type are met where a single coin is taken
(`Coins.single`) and where totals are (`Coins.ofTotals`), and the other ways start from the
empty set or lead through one of these two.  Conversely every normal list is that of a set:

* `Coins.normal_iff_ofList` — the normal lists are those that are left as they are when they
  are made sets;
* `Coins.canonical_form` — so a set shows nothing but the amounts of its denominations.
-/

namespace CoinTransfer

/-- A list of coins in normal form: the denominations increase, in the order of their bytes,
and no amount is zero. -/
structure Coin.Normal (coins : List Coin) : Prop where
  increasing : coins.Pairwise fun x y => Text.utf8 x.denom.toList < Text.utf8 y.denom.toList
  nonzero : ∀ c ∈ coins, c.amount ≠ 0

namespace Coins

/-! ## Normal lists -/

theorem normal_toList (a : Coins) : Coin.Normal a.toList where
  increasing := a.ordered_denom.imp fun h => Text.utf8_lt_utf8 h
  nonzero := a.nonzero

/-- A normal list is the list of a set. -/
theorem exists_toList_eq {coins : List Coin} (h : Coin.Normal coins) :
    ∃ a : Coins, a.toList = coins := by
  refine ⟨⟨coins, h.increasing.imp fun {x y} hlt => ?_, h.nonzero⟩, rfl⟩
  exact compareOfLessAndEq_eq_lt.2 (Text.utf8_lt_utf8_iff.1 hlt)

/-- To make a set of a normal list leaves the list as it is, and so with no other list. -/
theorem normal_iff_ofList {coins : List Coin} :
    Coin.Normal coins ↔ ∃ a, ofList coins = .ok a ∧ a.toList = coins := by
  constructor
  · intro h
    obtain ⟨a, rfl⟩ := exists_toList_eq h
    exact ⟨a, ofList_toList a, rfl⟩
  · rintro ⟨a, -, rfl⟩
    exact a.normal_toList

/-! ## What a set shows -/

/-- The size of a set is the number of denominations that it has an amount of. -/
theorem encard_amountOf_ne_zero (a : Coins) :
    {denom | a.amountOf denom ≠ 0}.encard = a.size := by
  have hdenoms : {denom | a.amountOf denom ≠ 0} = ↑a.denoms.toFinset := by
    rw [List.coe_toFinset]
    exact Set.ext fun _ => mem_denoms_iff.symm
  rw [hdenoms, Set.encard_coe_eq_coe_finsetCard, List.toFinset_card_of_nodup a.denoms_nodup,
    denoms, List.length_map, size]

theorem eq_iff_amountOf {a b : Coins} : a = b ↔ ∀ denom, a.amountOf denom = b.amountOf denom :=
  ⟨fun h _ => h ▸ rfl, ext_amountOf⟩

/-- **Canonical form**: the list of a set is normal, so it names no denomination twice, and
making it a set again gives the set back; there are no other lists with this property.  Two
sets are equal exactly if they have the same amounts, a set has as many coins as there are
denominations that it has an amount of, and it is empty exactly if there are none. -/
theorem canonical_form :
    (∀ a : Coins, Coin.Normal a.toList ∧ a.denoms.Nodup ∧ ofList a.toList = .ok a) ∧
    (∀ coins, Coin.Normal coins ↔ ∃ a, ofList coins = .ok a ∧ a.toList = coins) ∧
    (∀ a b : Coins, a = b ↔ ∀ denom, a.amountOf denom = b.amountOf denom) ∧
    ∀ a : Coins, {denom | a.amountOf denom ≠ 0}.encard = a.size ∧
      (a.isEmpty = true ↔ ∀ denom, a.amountOf denom = 0) :=
  ⟨fun a => ⟨a.normal_toList, a.denoms_nodup, ofList_toList a⟩, fun _ => normal_iff_ofList,
    fun _ _ => eq_iff_amountOf,
    fun a => ⟨a.encard_amountOf_ne_zero, isEmpty_iff.trans eq_empty_iff⟩⟩

end Coins

end CoinTransfer
