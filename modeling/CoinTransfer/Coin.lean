/-!
# CoinTransfer.Coin

Amounts and coins.  Amounts are words of sixty-four bits, in smallest units, and sums
are checked: `Amount.add?` gives the exact sum or nothing.  A coin is an amount in one
denomination, shown as the amount directly followed by the denomination.
-/

namespace CoinTransfer

/-! ## Amounts -/

/-- An amount of one denomination, in smallest units. -/
abbrev Amount := UInt64

namespace Amount

/-- The sum of two amounts, if it is an amount. -/
def add? (a b : Amount) : Option Amount :=
  if a.toNat + b.toNat < UInt64.size then some (a + b) else none

/-- The sum is exact. -/
theorem add?_eq_some_iff {a b c : Amount} : add? a b = some c ↔ c.toNat = a.toNat + b.toNat := by
  unfold add?
  split
  · next h =>
    rw [Option.some.injEq, ← UInt64.toNat_inj, UInt64.toNat_add, Nat.mod_eq_of_lt h]
    exact eq_comm
  · next h =>
    have := c.toNat_lt_size
    constructor
    · intro hc
      cases hc
    · intro hc
      omega

/-- There is no sum exactly when it would be too large. -/
theorem add?_eq_none_iff {a b : Amount} : add? a b = none ↔ UInt64.size ≤ a.toNat + b.toNat := by
  unfold add?
  split <;> simp <;> omega

end Amount

/-! ## Coins -/

/-- An amount in one denomination. -/
structure Coin where
  denom : String
  amount : Amount
deriving DecidableEq, Repr

namespace Coin

def isZero (c : Coin) : Bool := c.amount == 0

def text (c : Coin) : String := s!"{c.amount}{c.denom}"

end Coin

end CoinTransfer
