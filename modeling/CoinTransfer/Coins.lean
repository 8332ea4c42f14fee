import CoinTransfer.Totals

/-!
# CoinTransfer.Coins

Sets of coins as the bank moves them: in the order of their denominations, one
coin of each, and none of amount zero.  The conditions are part of the type, so
a set is determined by the amounts of its denominations, whichever way it was
built.  Denominations are ordered as strings are, which is the order of their
UTF-8 bytes.
-/

namespace CoinTransfer

/-- A normalized list of coins. -/
structure Coins where
  toList : List Coin
  /-- The denominations increase. -/
  ordered : toList.Pairwise fun a b => compare a.denom b.denom = .lt
  /-- No amount is zero. -/
  nonzero : ∀ c ∈ toList, c.amount ≠ 0
deriving DecidableEq

/-- Why a list of coins cannot be made a set. -/
inductive CoinsError where
  /-- The amounts of a denomination add up to too much. -/
  | overflow (denom : String)
deriving DecidableEq, Repr

def CoinsError.message : CoinsError → String
  | .overflow denom => s!"coin amount overflow merging duplicate denom {denom}"

namespace Coins

@[ext] theorem ext {a b : Coins} (h : a.toList = b.toList) : a = b := by
  cases a; cases b; cases h; rfl

/-! ## Building sets -/

def empty : Coins := ⟨[], by simp, by simp⟩

instance : Inhabited Coins := ⟨empty⟩

/-- The set of one coin, which is empty if the amount is zero. -/
def single (denom : String) (amount : Amount) : Coins :=
  if h : amount = 0 then empty else ⟨[⟨denom, amount⟩], by simp, by simpa using h⟩

/-- The set of one coin. -/
def ofCoin (c : Coin) : Coins := single c.denom c.amount

/-- The coins of totals that are not zero. -/
def ofTotals (t : Totals) : Coins where
  toList := (t.toList.filter fun entry => entry.2 ≠ 0).map fun entry => ⟨entry.1, entry.2⟩
  ordered := by
    rw [List.pairwise_map]
    exact Std.ExtTreeMap.ordered_keys_toList.filter _
  nonzero := by
    simp only [List.mem_map, List.mem_filter, decide_eq_true_eq]
    rintro _ ⟨entry, ⟨-, h⟩, rfl⟩
    exact h

/-- Adds one coin to running totals; a coin of amount zero is passed over. -/
def accumulate (t : Totals) (c : Coin) : Except CoinsError Totals :=
  if c.isZero then .ok t
  else
    match t.add? c with
    | some t' => .ok t'
    | none => .error (.overflow c.denom)

/-- The set of a list of coins, in which coins of one denomination are added up
in the order of the list. -/
def ofList (coins : List Coin) : Except CoinsError Coins :=
  (coins.foldlM accumulate ∅).map ofTotals

/-! ## Looking into sets -/

/-- The amount of a denomination; one that is absent has none. -/
def amountOf (coins : Coins) (denom : String) : Amount :=
  match coins.toList.find? (·.denom == denom) with
  | some c => c.amount
  | none => 0

def size (coins : Coins) : Nat := coins.toList.length

def isEmpty (coins : Coins) : Bool := coins.toList.isEmpty

/-- The coins in order, with commas between them. -/
def text (coins : Coins) : String := ",".intercalate (coins.toList.map Coin.text)

@[simp] theorem toList_empty : empty.toList = [] := rfl

@[simp] theorem single_zero (denom : String) : single denom 0 = empty := by simp [single]

theorem toList_single {amount : Amount} (denom : String) (h : amount ≠ 0) :
    (single denom amount).toList = [⟨denom, amount⟩] := by
  simp [single, h]

theorem isEmpty_iff {coins : Coins} : coins.isEmpty = true ↔ coins = empty := by
  rw [isEmpty, List.isEmpty_iff]
  exact ⟨fun h => ext h, fun h => by rw [h]; rfl⟩

end Coins

end CoinTransfer
