import Std.Data.ExtTreeMap.Lemmas
import CoinTransfer.Coin

/-!
# CoinTransfer.Totals

Amounts by denomination, in the order of the denominations.  Totals are what
coin lists are added up in and what the community pool is kept as.
-/

namespace CoinTransfer

/-- An amount for each of some denominations, in their order. -/
abbrev Totals := Std.ExtTreeMap String Amount

namespace Totals

/-- The amount of a denomination; one that is absent has none. -/
def amountOf (t : Totals) (denom : String) : Amount := t.getD denom 0

/-- The totals with one more coin, unless its denomination's total would be too
large. -/
def add? (t : Totals) (c : Coin) : Option Totals :=
  (Amount.add? (t.amountOf c.denom) c.amount).map (t.insert c.denom ·)

/-- The totals with one more coin, whose sum has been checked. -/
def plus (t : Totals) (c : Coin) : Totals := t.insert c.denom (t.amountOf c.denom + c.amount)

/-- The totals that a list states; of two coins of one denomination the later
one counts. -/
def ofList (coins : List Coin) : Totals := coins.foldl (fun t c => t.insert c.denom c.amount) ∅

@[simp] theorem amountOf_empty (denom : String) : amountOf ∅ denom = 0 := by
  simp [amountOf]

@[simp] theorem amountOf_insert (t : Totals) (d denom : String) (n : Amount) :
    amountOf (t.insert d n) denom = if d = denom then n else t.amountOf denom := by
  simp [amountOf, Std.ExtTreeMap.getD_insert]

/-- A coin that can be added adds its amount to its denomination alone. -/
theorem amountOf_add? {t t' : Totals} {c : Coin} (h : t.add? c = some t') (denom : String) :
    (t'.amountOf denom).toNat =
      (t.amountOf denom).toNat + if c.denom = denom then c.amount.toNat else 0 := by
  obtain ⟨n, hn, rfl⟩ := Option.map_eq_some_iff.1 h
  have := Amount.add?_eq_some_iff.1 hn
  rw [amountOf_insert]
  split
  · next hd => rw [this, hd]
  · rfl

end Totals

end CoinTransfer
