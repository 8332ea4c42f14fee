import CoinTransfer.Denom
import CoinTransfer.Proofs.Coins

/-!
# CoinTransfer.Proofs.Coins.Text

The text of a set of coins tells which set it is.  Nothing stands between the amount of
a coin and its denomination, and only a comma between one coin and the next.  Where the
bank takes the denominations this is enough: they begin with a letter, so the digits in
front of a coin are its amount, and no comma stands in a coin.

`Coin.listOfText` reads a text by these rules, and `Coins.listOfText_text` says that it
finds the coins of the set.  The empty set has the empty text, which no other set has.
-/

namespace CoinTransfer

namespace Coin

/-! ## One coin -/

/-- The coin of a text: the digits in front are its amount, and its denomination follows. -/
def ofText (text : List Char) : Coin where
  denom := String.ofList (text.dropWhile Char.isDigit)
  amount := UInt64.ofNat (Nat.ofDigitChars 10 (text.takeWhile Char.isDigit) 0)

theorem toList_text (c : Coin) :
    c.text.toList = Nat.toDigits 10 c.amount.toNat ++ c.denom.toList := by
  have hamount : toString c.amount = c.amount.toNat.repr := rfl
  have hdenom : toString c.denom = c.denom := rfl
  simp [text, hamount, hdenom]

theorem toList_text_ne_nil (c : Coin) : c.text.toList ≠ [] := by
  simp [toList_text, Nat.toDigits_ne_nil]

variable {c : Coin}

/-- The digits of the amount are characters that names may have too. -/
theorem isNameChar_of_mem_text (h : Denom.Valid c.denom) {d : Char} (hd : d ∈ c.text.toList) :
    Denom.isNameChar d = true := by
  rw [toList_text, List.mem_append] at hd
  cases hd with
  | inl hdigit =>
    have := Nat.isDigit_of_mem_toDigits (by decide) (by decide) hdigit
    simp [Denom.isNameChar, Char.isAlphanum, this]
  | inr hname => exact h.isNameChar_of_mem hname

theorem comma_not_mem_text (h : Denom.Valid c.denom) : ',' ∉ c.text.toList := fun hc =>
  absurd (isNameChar_of_mem_text h hc) (by decide)

theorem not_isDigit_of_isAlpha {d : Char} (h : d.isAlpha = true) : ¬ d.isDigit = true := by
  intro hdigit
  have hle : d.val ≤ '9'.val := of_decide_eq_true (Bool.and_eq_true_iff.1 hdigit).2
  cases Bool.or_eq_true_iff.1 h with
  | inl hupper =>
    have hge : 'A'.val ≤ d.val := (of_decide_eq_true hupper).1
    exact absurd (UInt32.le_trans hge hle) (by decide)
  | inr hlower =>
    have hge : 'a'.val ≤ d.val := of_decide_eq_true (Bool.and_eq_true_iff.1 hlower).1
    exact absurd (UInt32.le_trans hge hle) (by decide)

/-- A coin is read back from its text, as the digits end where its denomination begins. -/
theorem ofText_text (h : Denom.Valid c.denom) : ofText c.text.toList = c := by
  obtain ⟨first, rest, hname, hfirst, -⟩ := h.toList_eq
  have hdigits : ∀ d ∈ Nat.toDigits 10 c.amount.toNat, d.isDigit = true := fun d hd =>
    Nat.isDigit_of_mem_toDigits (by decide) (by decide) hd
  have hletter : ¬ first.isDigit = true := not_isDigit_of_isAlpha hfirst
  have hamount : c.text.toList.takeWhile Char.isDigit = Nat.toDigits 10 c.amount.toNat := by
    rw [toList_text, List.takeWhile_append_of_pos hdigits, hname,
      List.takeWhile_cons_of_neg hletter, List.append_nil]
  have hdenom : c.text.toList.dropWhile Char.isDigit = c.denom.toList := by
    rw [toList_text, List.dropWhile_append_of_pos hdigits, hname,
      List.dropWhile_cons_of_neg hletter]
  rw [ofText, hamount, hdenom, Nat.ofDigitChars_toDigits (by decide) (by decide),
    UInt64.ofNat_toNat, String.ofList_toList]

/-! ## A set of coins -/

/-- The coins of a text, which stand between its commas. -/
def listOfText (text : String) : List Coin :=
  ((text.toList.splitOn ',').filter fun part => part ≠ []).map ofText

end Coin

namespace Coins

variable {a b coins : Coins}

/-- The parts between the commas are the texts of the coins.  Without a coin there is one
part all the same, which is empty. -/
theorem filter_splitOn_text (h : ∀ c ∈ coins.toList, Denom.Valid c.denom) :
    ((coins.text.toList.splitOn ',').filter fun part => part ≠ []) =
      coins.toList.map fun c => c.text.toList := by
  have htext : coins.text.toList =
      [','].intercalate (coins.toList.map fun c => c.text.toList) := by
    simp [text, Function.comp_def]
  cases hcoins : coins.toList with
  | nil => simp [htext, hcoins]
  | cons c rest =>
    have hcomma : ∀ part ∈ coins.toList.map (fun c => c.text.toList), ',' ∉ part := by
      intro part hpart
      obtain ⟨c, hc, rfl⟩ := List.mem_map.1 hpart
      exact Coin.comma_not_mem_text (h c hc)
    have hne : coins.toList.map (fun c => c.text.toList) ≠ [] := by simp [hcoins]
    rw [htext, List.splitOn_intercalate ',' hcomma hne, hcoins, List.filter_eq_self]
    intro part hpart
    obtain ⟨c, -, rfl⟩ := List.mem_map.1 hpart
    simp [c.toList_text_ne_nil]

/-- A set of coins is read back from its text. -/
theorem listOfText_text (h : ∀ c ∈ coins.toList, Denom.Valid c.denom) :
    Coin.listOfText coins.text = coins.toList := by
  have hread : ∀ c ∈ coins.toList, Coin.ofText c.text.toList = id c := fun c hc =>
    Coin.ofText_text (h c hc)
  rw [Coin.listOfText, filter_splitOn_text h, List.map_map, Function.comp_def,
    List.map_congr_left hread, List.map_id]

/-- **The text of a set tells the set**: two sets in denominations that the bank takes
have one text only if they are one set. -/
theorem text_inj (ha : ∀ c ∈ a.toList, Denom.Valid c.denom)
    (hb : ∀ c ∈ b.toList, Denom.Valid c.denom) : a.text = b.text ↔ a = b := by
  constructor
  · intro h
    apply ext
    calc
      a.toList = Coin.listOfText a.text := (listOfText_text ha).symm
      _ = Coin.listOfText b.text := by rw [h]
      _ = b.toList := listOfText_text hb
  · intro h
    rw [h]

/-- One denomination may begin with the other, and a set may be empty. -/
theorem text_inj_example :
    (∀ c ∈ (single "u100" 1).toList, Denom.Valid c.denom) ∧
    (∀ c ∈ (single "u10" 1).toList, Denom.Valid c.denom) ∧
    (∀ c ∈ empty.toList, Denom.Valid c.denom) ∧
    (single "u100" 1).text ≠ (single "u10" 1).text ∧ (single "u100" 1).text ≠ empty.text := by
  have hlong : ∀ c ∈ (single "u100" 1).toList, Denom.Valid c.denom := by decide
  have hshort : ∀ c ∈ (single "u10" 1).toList, Denom.Valid c.denom := by decide
  have hnone : ∀ c ∈ empty.toList, Denom.Valid c.denom := by decide
  refine ⟨hlong, hshort, hnone, fun h => ?_, fun h => ?_⟩
  · have := (text_inj hlong hshort).1 h
    revert this
    decide
  · have := (text_inj hlong hnone).1 h
    revert this
    decide

/-- A denomination that begins with a digit, which the bank does not take, runs into the
amount. -/
example : (single "0unova" 1).text = (single "unova" 10).text := by decide

end Coins

end CoinTransfer
