import Mathlib
import CoinTransfer.Text.Utf8

/-!
# CoinTransfer.Proofs.Text.Ascii

ASCII in texts.  A character below 128 is written as one byte of its own number, and any
other one in bytes from 128 on.  Only ASCII letters have another case, so a text in lower case
is ASCII only if the text is.
-/

namespace CoinTransfer.Text

variable {c : Char}

/-! ## Bytes -/

theorem utf8EncodeChar_of_lt (h : c.toNat < 128) :
    String.utf8EncodeChar c = [UInt8.ofNat c.toNat] := by
  have hle : c.val.toNat ≤ 127 := Nat.le_of_lt_succ h
  rw [String.utf8EncodeChar, if_pos hle]
  rfl

/-- Every byte of a longer form has its highest bit set. -/
theorem le_of_mem_utf8EncodeChar (h : 128 ≤ c.toNat) {b : UInt8}
    (hb : b ∈ String.utf8EncodeChar c) : 128 ≤ b := by
  have hlong : ¬ c.val.toNat ≤ 127 := Nat.not_le_of_lt h
  simp only [String.utf8EncodeChar] at hb
  rw [if_neg hlong] at hb
  split_ifs at hb <;> simp only [List.mem_cons, List.not_mem_nil, or_false] at hb <;>
    rcases hb with rfl | rfl | rfl | rfl <;>
    simp only [UInt8.le_iff_toNat_le, UInt8.toNat_ofNat', UInt8.reduceToNat] <;> omega

/-- A text of ASCII has a byte for each character. -/
theorem length_utf8_of_ascii {s : List Char} (h : ∀ c ∈ s, c.toNat < 128) :
    (utf8 s).length = s.length := by
  induction s with
  | nil => rfl
  | cons c s ih =>
    obtain ⟨hc, hs⟩ := List.forall_mem_cons.1 h
    rw [utf8_cons, utf8EncodeChar_of_lt hc, List.singleton_append, List.length_cons, ih hs,
      List.length_cons]

/-! ## Case -/

/-- Only ASCII has ASCII for its lower case. -/
theorem toNat_lt_of_toLower (h : c.toLower.toNat < 128) : c.toNat < 128 := by
  rw [Char.toLower] at h
  split at h
  · next hupper => exact Nat.lt_of_le_of_lt (UInt32.le_iff_toNat_le.1 hupper.2) (by decide)
  · exact h

@[simp] theorem toList_toLower (text : String) :
    text.toLower.toList = text.toList.map Char.toLower := by
  rw [String.toLower, String.toList_map]

@[simp] theorem toList_toUpper (text : String) :
    text.toUpper.toList = text.toList.map Char.toUpper := by
  rw [String.toUpper, String.toList_map]

@[simp] theorem toLower_toUpper (text : String) : text.toUpper.toLower = text.toLower := by
  simp [← String.toList_inj]

end CoinTransfer.Text
