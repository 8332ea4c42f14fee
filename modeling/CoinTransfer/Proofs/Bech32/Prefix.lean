import CoinTransfer.Bech32.Encoding
import CoinTransfer.Proofs.Text.Ascii

/-!
# CoinTransfer.Proofs.Bech32.Prefix

Which texts are prefixes.  The order in which the parser looks for problems does
not matter for this: a text is a prefix exactly if it has one to eighty-three
characters, all of them visible ASCII, with letters of one case
(`Prefix.problem?_eq_none_iff`).  Both the length and the characters depend on the text
in lower case only, so a text that agrees with a prefix but for case is a prefix
too, unless it mixes cases (`Prefix.problem?_eq_none_of_map_toLower`).
-/

namespace CoinTransfer.Bech32

/-! ## Case -/

@[simp] theorem mixesCase_map_toLower (text : List Char) :
    mixesCase (text.map Char.toLower) = false := by
  simp [mixesCase]

@[simp] theorem mixesCase_map_toUpper (text : List Char) :
    mixesCase (text.map Char.toUpper) = false := by
  simp [mixesCase]

/-- A text that does not mix cases does not do so at its beginning. -/
theorem mixesCase_of_append {front back : List Char} (h : mixesCase (front ++ back) = false) :
    mixesCase front = false := by
  simp only [mixesCase, List.any_append, Bool.and_eq_false_iff, Bool.or_eq_false_iff] at h ⊢
  exact h.imp And.left And.left

namespace Prefix

/-- Visible characters are ASCII. -/
theorem toNat_lt_of_isVisible {c : Char} (h : isVisible c = true) : c.toNat < 128 := by
  simp only [isVisible, Bool.and_eq_true, decide_eq_true_eq] at h
  omega

/-- A letter is visible in either case. -/
theorem isVisible_toLower (c : Char) : isVisible c.toLower = isVisible c := by
  by_cases hu : c.isUpper = true
  · have hrange : 65 ≤ c.toNat ∧ c.toNat ≤ 90 := by
      simpa [Char.isUpper, UInt32.le_iff_toNat_le] using hu
    have hnat : c.toLower.toNat = c.toNat + 32 := by
      rw [Char.toLower_eq_of_isUpper hu, Char.toNat_ofNat, if_pos (.inl (by omega))]
    rw [Bool.eq_iff_iff]
    simp only [isVisible, hnat, Bool.and_eq_true, decide_eq_true_eq]
    omega
  · rw [Char.toLower_eq_of_not_isUpper hu]

/-! ## What a prefix looks like -/

/-- The texts that are prefixes: not empty, not too long, of visible characters and in one case.
-/
theorem problem?_eq_none_iff {text : List Char} :
    problem? text = none ↔
      text ≠ [] ∧ text.length ≤ maxLength ∧ (∀ c ∈ text, isVisible c = true) ∧
        mixesCase text = false := by
  have hfault : faultIn false false text = none ↔
      (∀ c ∈ text, isVisible c = true) ∧ mixesCase text = false := faultIn_eq_none_iff rfl
  have hsize (hv : ∀ c ∈ text, isVisible c = true) : (Text.utf8 text).length = text.length :=
    Text.length_utf8_of_ascii fun c hc => toNat_lt_of_isVisible (hv c hc)
  unfold problem?
  simp only [List.isEmpty_iff]
  constructor
  · intro h
    split at h
    · cases h
    · next hne =>
      split at h
      · cases h
      · next hlen =>
        obtain ⟨hv, hcase⟩ := hfault.1 h
        rw [hsize hv] at hlen
        exact ⟨hne, Nat.le_of_not_lt hlen, hv, hcase⟩
  · rintro ⟨hne, hlen, hv, hcase⟩
    rw [if_neg hne, hsize hv, if_neg (Nat.not_lt.2 hlen)]
    exact hfault.2 ⟨hv, hcase⟩

/-- Whether a text is a prefix is a matter of its lower case, as long as its own
letters are of one case. -/
theorem problem?_eq_none_of_map_toLower {text : List Char} {p : Prefix}
    (h : text.map Char.toLower = p.lowerChars) (hcase : mixesCase text = false) :
    problem? text = none := by
  obtain ⟨hne, hlen, hv, -⟩ := problem?_eq_none_iff.1 p.sound
  have hlength : text.length = p.chars.length := by
    have := congrArg List.length h
    rwa [List.length_map, lowerChars, List.length_map] at this
  refine problem?_eq_none_iff.2 ⟨?_, hlength ▸ hlen, fun c hc => ?_, hcase⟩
  · rintro rfl
    exact hne (List.length_eq_zero_iff.1 hlength.symm)
  · have hmem : c.toLower ∈ p.chars.map Char.toLower := by
      rw [← lowerChars, ← h]
      exact List.mem_map_of_mem hc
    obtain ⟨x, hx, hlower⟩ := List.mem_map.1 hmem
    rw [← isVisible_toLower, ← hlower, isVisible_toLower]
    exact hv x hx

/-- Lower case is kept by writing it in lower case. -/
theorem map_toLower_lowerChars (p : Prefix) : p.lowerChars.map Char.toLower = p.lowerChars := by
  simp [lowerChars]

/-- A prefix written in lower case. -/
def lower (p : Prefix) : Prefix where
  chars := p.lowerChars
  sound := problem?_eq_none_of_map_toLower p.map_toLower_lowerChars (mixesCase_map_toLower _)

@[simp] theorem lowerChars_lower (p : Prefix) : p.lower.lowerChars = p.lowerChars :=
  p.map_toLower_lowerChars

/-- A prefix is read from its own characters and no others. -/
theorem ofChars_eq_ok_iff {text : List Char} {p : Prefix} :
    ofChars text = .ok p ↔ p.chars = text := by
  constructor
  · intro h
    unfold ofChars at h
    split at h <;> cases h
    rfl
  · rintro rfl
    exact ofChars_chars p

/-- A prefix is read from its own text and no other. -/
theorem parse_eq_ok_iff {text : String} {p : Prefix} : parse text = .ok p ↔ p.text = text := by
  rw [parse, ofChars_eq_ok_iff, Prefix.text]
  exact ⟨fun h => by rw [h, String.ofList_toList], fun h => by rw [← h, String.toList_ofList]⟩

end Prefix

end CoinTransfer.Bech32
