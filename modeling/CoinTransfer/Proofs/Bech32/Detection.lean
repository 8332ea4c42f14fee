import CoinTransfer.Proofs.Bech32.Encoding

/-!
# CoinTransfer.Proofs.Bech32.Detection

The errors that the checksum of a text detects.  A step of the register can be undone, since
the bits that left at the top can be told from the low bits that they were mixed into
(`step_injective`).  So registers that have come apart never meet again while the same
symbols follow, and the symbols between two registers are determined by these as long as
they are no more than fill the register (`eq_of_absorb_eq`).  Two lists of symbols that
differ in a window of six places therefore leave different registers behind
(`residue_ne_of_window`), and at most one of them ends in its checksum.
-/

namespace CoinTransfer.Bech32

/-! ## Steps can be undone -/

/-- The constants differ in their low bits, for any two choices of them. -/
theorem eq_of_setWidth_feedback :
    ∀ s t : Symbol, (feedback s).setWidth 5 = (feedback t).setWidth 5 → s = t := by
  decide +kernel

/-- The low bits after a step are those of the symbol and of what was mixed in. -/
theorem setWidth_step_eq_xor (r : Register) (s : Symbol) :
    (step r s).setWidth 5 = s ^^^ (feedback ((r >>> 25).setWidth 5)).setWidth 5 := by
  have hshift : (r <<< 5).setWidth 5 = 0#5 := by
    ext i hi
    simp
  have hsymbol : (s.setWidth 30).setWidth 5 = s := by
    ext i hi
    simp
  rw [step, BitVec.setWidth_xor, BitVec.setWidth_xor, hshift, hsymbol, BitVec.zero_xor]

/-- A register is the bits that leave it and those that are moved up. -/
theorem eq_of_shifts_eq {r q : Register} (hhigh : (r >>> 25).setWidth 5 = (q >>> 25).setWidth 5)
    (hlow : r <<< 5 = q <<< 5) : r = q := by
  refine BitVec.eq_of_getLsbD_eq fun i hi => ?_
  by_cases h25 : i < 25
  · have hbit := congrArg (BitVec.getLsbD · (i + 5)) hlow
    rw [BitVec.getLsbD_shiftLeft, BitVec.getLsbD_shiftLeft] at hbit
    simpa [BitVec.getLsbD_eq_getElem hi, show i + 5 < 30 by omega] using hbit
  · have hbit := congrArg (BitVec.getLsbD · (i - 25)) hhigh
    simpa [show i - 25 < 5 by omega, show 25 + (i - 25) = i by omega] using hbit

/-- A step forgets nothing about the register. -/
theorem step_injective (s : Symbol) : Function.Injective (step · s) := by
  intro r q h
  have h : step r s = step q s := h
  have hlow := congrArg (BitVec.setWidth 5) h
  rw [setWidth_step_eq_xor, setWidth_step_eq_xor, BitVec.xor_right_inj] at hlow
  have htop := eq_of_setWidth_feedback _ _ hlow
  rw [step, step, htop, BitVec.xor_left_inj, BitVec.xor_left_inj] at h
  exact eq_of_shifts_eq htop h

/-- Different registers stay different when they absorb the same symbols. -/
theorem absorb_injective (symbols : List Symbol) : Function.Injective (absorb · symbols) := by
  induction symbols with
  | nil => exact fun _ _ h => h
  | cons s symbols ih => exact fun _ _ h => step_injective s (ih h)

/-! ## Windows -/

/-- Zeros leave an empty register empty. -/
theorem absorb_replicate_zero (n : Nat) : absorb 0 (List.replicate n 0) = 0 := by
  have hstep : step 0 0 = 0 := by decide
  induction n with
  | zero => rfl
  | succ n ih => rw [List.replicate_succ, absorb_cons, hstep, ih]

variable {ss ts : List Symbol}

/-- Symbols that do not overfill the register can be told from what they make of it. -/
theorem eq_of_absorb_eq {r : Register} (hlen : ss.length = ts.length)
    (hsix : ss.length ≤ checksumLength) (h : absorb r ss = absorb r ts) : ss = ts := by
  rw [absorb_eq_xor r ss, absorb_eq_xor r ts, hlen, BitVec.xor_right_inj] at h
  -- Zeros in front make them as many as fill the register.
  let zeros : List Symbol := List.replicate (checksumLength - ss.length) 0
  have hpad (l : List Symbol) : absorb 0 (zeros ++ l) = absorb 0 l := by
    rw [absorb_append, absorb_replicate_zero]
  have hfull (l : List Symbol) (hl : l.length = ss.length) :
      (zeros ++ l).length = checksumLength := by
    rw [List.length_append, List.length_replicate, hl]
    omega
  have hss := symbolsOfRegister_absorb (hfull ss rfl)
  have hts := symbolsOfRegister_absorb (hfull ts hlen.symm)
  rw [hpad] at hss hts
  rw [h, hts] at hss
  exact (List.append_cancel_left hss).symm

/-- **Windows**: a change to at most six symbols in a row shows in the register, whatever
stands before and behind them. -/
theorem residue_ne_of_window {lowerChars : List Char} {front back : List Symbol}
    (hlen : ss.length = ts.length) (hsix : ss.length ≤ checksumLength) (hne : ts ≠ ss) :
    residue lowerChars (front ++ ts ++ back) ≠ residue lowerChars (front ++ ss ++ back) := by
  intro h
  simp only [residue, ← List.append_assoc, absorb_append] at h
  exact hne (eq_of_absorb_eq hlen hsix (absorb_injective back h).symm).symm

/-! ## Texts with a wrong checksum -/

/-- The parts of a text in lower case, whatever its symbols are. -/
theorem parts?_lower (p : Prefix) (symbols : List Symbol) :
    parts? (p.lowerChars ++ '1' :: symbols.map charOfSymbol) = some (p.lower, symbols) := by
  refine parts?_eq_some_iff.2 ⟨_, rfl, map_toLower_map_charOfSymbol symbols, ?_⟩
  rw [← map_toLower_lowerChars_append, mixesCase_map_toLower]

/-- A text whose symbols do not bring the register to one is not read. -/
theorem decodeChars_of_residue_ne_one {p : Prefix} {symbols : List Symbol}
    (h : residue p.lowerChars symbols ≠ 1) :
    decodeChars (p.lowerChars ++ '1' :: symbols.map charOfSymbol) = .error .badChecksum := by
  unfold decodeChars
  rw [parts?_lower]
  refine if_neg fun hverified => h ?_
  rw [← p.lowerChars_lower]
  exact hverified.2.2

/-! ## Changed texts -/

/-- A change to a text: in a window of at most six characters, with a number of characters in
front of it, some are replaced by others that stand for symbols. -/
structure Corruption (inFront : Nat) (text changed : List Char) where
  front : List Char
  old : List Char
  new : List Char
  back : List Char
  text_eq : text = front ++ old ++ back
  changed_eq : changed = front ++ new ++ back
  le_front : inFront ≤ front.length
  length_old : old.length ≤ 6
  length_new : new.length = old.length
  new_ne : new ≠ old
  mem_alphabet : ∀ c ∈ new, c ∈ alphabet

variable {p : Prefix}

/-- A window behind the separator holds the characters of some of the symbols. -/
theorem exists_window {symbols : List Symbol} {front old back : List Char}
    (h : p.lowerChars ++ '1' :: symbols.map charOfSymbol = front ++ old ++ back)
    (hfront : p.chars.length + 1 ≤ front.length) :
    ∃ u w v : List Symbol, symbols = u ++ w ++ v ∧
      front = p.lowerChars ++ '1' :: u.map charOfSymbol ∧ old = w.map charOfSymbol ∧
        back = v.map charOfSymbol := by
  have hone : p.lowerChars ++ ['1'] <+: front ++ old ++ back :=
    ⟨symbols.map charOfSymbol, by rw [← h, List.append_assoc]; rfl⟩
  have hall : front <+: front ++ old ++ back := ⟨old ++ back, (List.append_assoc ..).symm⟩
  have hlen : (p.lowerChars ++ ['1']).length ≤ front.length := by
    rwa [List.length_append, Prefix.lowerChars, List.length_map]
  obtain ⟨rest, rfl⟩ := List.prefix_of_prefix_length_le hone hall hlen
  have hsymbols : symbols.map charOfSymbol = rest ++ (old ++ back) := by simpa using h
  obtain ⟨u, wv, rfl, rfl, hwv⟩ := List.map_eq_append_iff.1 hsymbols
  obtain ⟨w, v, rfl, rfl, rfl⟩ := List.map_eq_append_iff.1 hwv
  exact ⟨u, w, v, (List.append_assoc ..).symm, by simp, rfl, rfl⟩

variable {data : List Symbol}

/-- A written text holds characters of symbols behind the separator. -/
theorem mem_alphabet_of_encodeChars {front back : List Char} (h : encodeChars p data = front ++ back)
    (hfront : p.chars.length + 1 ≤ front.length) {c : Char} (hc : c ∈ back) : c ∈ alphabet := by
  rw [← List.append_nil (front ++ back)] at h
  obtain ⟨-, w, -, -, -, rfl, -⟩ := exists_window h hfront
  obtain ⟨s, -, rfl⟩ := List.mem_map.1 hc
  exact mem_alphabet_iff.2 ⟨s, rfl⟩

/-- A written text that is changed behind the separator has a wrong checksum. -/
theorem Corruption.decodeChars_eq_error {changed : List Char}
    (corruption : Corruption (p.chars.length + 1) (encodeChars p data) changed) :
    decodeChars changed = .error .badChecksum := by
  obtain ⟨front, old, new, back, htext, rfl, hfront, hsix, hlen, hne, hnew⟩ := corruption
  obtain ⟨u, w, v, hsymbols, rfl, rfl, rfl⟩ := exists_window htext hfront
  obtain ⟨w', rfl⟩ := exists_map_charOfSymbol_eq hnew
  rw [List.length_map] at hsix
  rw [List.length_map, List.length_map] at hlen
  have hchange : w' ≠ w := fun he => hne (by rw [he])
  have hwrong : residue p.lowerChars (u ++ w' ++ v) ≠ 1 := by
    rw [← residue_append_checksum p.lowerChars data, hsymbols]
    exact residue_ne_of_window hlen.symm hsix hchange
  have hchars : p.lowerChars ++ '1' :: u.map charOfSymbol ++ w'.map charOfSymbol ++
      v.map charOfSymbol = p.lowerChars ++ '1' :: (u ++ w' ++ v).map charOfSymbol := by
    simp
  rw [hchars]
  exact decodeChars_of_residue_ne_one hwrong

end CoinTransfer.Bech32
