import Std.Data.ExtTreeMap.Lemmas
import CoinTransfer.Address
import CoinTransfer.Coin

/-!
# CoinTransfer.Ledger.Balances

Amounts by account and denomination.  An account may have an entry of amount
zero; it then has the same balance as without one.
-/

namespace CoinTransfer

/-- An amount for each of some accounts and denominations. -/
abbrev Balances := Std.ExtTreeMap (Address × String) Amount (@compare (Address × String) lexOrd)

namespace Balances

/-- The amount that an account has of a denomination; without an entry it has none. -/
def amountOf (b : Balances) (a : Address) (denom : String) : Amount := b.getD (a, denom) 0

/-- The balances with the amount of one account and denomination replaced. -/
def update (b : Balances) (a : Address) (denom : String) (n : Amount) : Balances :=
  b.insert (a, denom) n

/-- Whether there is an entry for an account and a denomination. -/
def HasEntry (b : Balances) (a : Address) (denom : String) : Prop := (a, denom) ∈ b

instance (b : Balances) (a : Address) (denom : String) : Decidable (b.HasEntry a denom) :=
  inferInstanceAs (Decidable (_ ∈ b))

@[simp] theorem amountOf_empty (a : Address) (denom : String) : amountOf ∅ a denom = 0 := by
  simp [amountOf]

/-- An update shows in its own entry alone. -/
theorem amountOf_update (b : Balances) (a a' : Address) (d d' : String) (n : Amount) :
    (b.update a d n).amountOf a' d' = if a = a' ∧ d = d' then n else b.amountOf a' d' := by
  simp [amountOf, update, Std.ExtTreeMap.getD_insert]

/-- What has a balance has an entry. -/
theorem hasEntry_of_amountOf_ne_zero {b : Balances} {a : Address} {denom : String}
    (h : b.amountOf a denom ≠ 0) : b.HasEntry a denom :=
  Decidable.not_not.1 fun hn => h (Std.ExtTreeMap.getD_eq_fallback hn)

end Balances

end CoinTransfer
