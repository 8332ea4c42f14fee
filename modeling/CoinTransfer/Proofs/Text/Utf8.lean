import Mathlib.Tactic.SplitIfs
import CoinTransfer.Text.Utf8

/-!
# CoinTransfer.Proofs.Text.Utf8

The order of texts in bytes.  UTF-8 was made so that bytes compare as code points do: the
first byte of a longer form is greater than that of a shorter one, and in forms of one
length the bytes are the digits of the code point, the greatest first.  So a text that
comes first by its characters also comes first by its bytes.
-/

namespace CoinTransfer.Text

/-- The form of a smaller code point comes first, whatever follows the two. -/
theorem utf8EncodeChar_append_lt {c d : Char} (h : c < d) (s t : List UInt8) :
    String.utf8EncodeChar c ++ s < String.utf8EncodeChar d ++ t := by
  have hlt : c.val.toNat < d.val.toNat := h
  have hd : d.val.toNat < 1114112 := by
    have := d.valid
    simp only [UInt32.isValidChar, Nat.isValidChar] at this
    omega
  -- The quotients in the definition are digits to the base 64, taken off one at a time.
  have hsecond (n : Nat) : n / 4096 = n / 64 / 64 := by omega
  have hthird (n : Nat) : n / 262144 = n / 64 / 64 / 64 := by omega
  generalize hm : c.val.toNat = m at hlt
  generalize hn : d.val.toNat = n at hlt hd
  simp only [String.utf8EncodeChar, hm, hn, hsecond, hthird]
  split_ifs <;>
    simp only [List.cons_append, List.nil_append, List.cons_lt_cons_iff,
      UInt8.lt_iff_toNat_lt, ← UInt8.toNat_inj, UInt8.toNat_ofNat'] <;>
    omega

/-- A text that comes first by its characters comes first by its bytes. -/
theorem utf8_lt_utf8 {s t : List Char} (h : s < t) : utf8 s < utf8 t := by
  induction h with
  | @nil c t =>
    obtain ⟨byte, rest, hform⟩ := List.exists_cons_of_ne_nil (String.utf8EncodeChar_ne_nil (c := c))
    rw [utf8_cons, hform]
    exact List.nil_lt_cons byte (rest ++ utf8 t)
  | rel h => exact utf8EncodeChar_append_lt h _ _
  | cons h ih => exact List.append_left_lt ih

/-- The bytes of texts are in the order of their characters. -/
theorem utf8_lt_utf8_iff {s t : List Char} : utf8 s < utf8 t ↔ s < t := by
  refine ⟨fun h => Decidable.byContradiction fun hn => ?_, utf8_lt_utf8⟩
  obtain hlt | rfl := List.le_iff_lt_or_eq.1 (List.not_lt.1 hn)
  · exact List.lt_asymm h (utf8_lt_utf8 hlt)
  · exact List.lt_irrefl _ h

end CoinTransfer.Text
