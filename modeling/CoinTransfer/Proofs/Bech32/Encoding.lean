import CoinTransfer.Proofs.Bech32.Prefix
import CoinTransfer.Proofs.Except

/-!
# CoinTransfer.Proofs.Bech32.Encoding

What is read as a Bech32 text.  A character stands for a symbol exactly if it is
the symbol's own in lower case, so reading does not see case, and the checksum of
a prefix and its data is unique.  A text that is read is therefore, in lower case,
what its prefix and data are written as (`map_toLower_of_decodeChars`), and every
text that is written so but for case is read (`exists_decodeChars_eq_ok`).
-/

namespace CoinTransfer.Bech32

variable {text : List Char} {hrp : Prefix} {data symbols : List Symbol}

/-! ## Characters and symbols -/

/-- The separator has no other case. -/
theorem toLower_eq_one_iff {c : Char} : c.toLower = '1' ↔ c = '1' := by
  constructor
  · intro h
    by_cases hu : c.isUpper = true
    · -- A capital turns into a letter.
      have halpha : c.toLower.isAlpha = true := by
        rw [Char.isAlpha_toLower_eq_isAlpha, Char.isAlpha, hu, Bool.true_or]
      rw [h] at halpha
      exact absurd halpha (by decide)
    · rwa [Char.toLower_eq_of_not_isUpper hu] at h
  · rintro rfl
    rfl

/-- Symbols are written in lower case. -/
theorem toLower_charOfSymbol (s : Symbol) : (charOfSymbol s).toLower = charOfSymbol s :=
  Char.toLower_eq_of_not_isUpper (by rw [isUpper_charOfSymbol]; decide)

/-- The alphabet holds the characters of the symbols. -/
theorem mem_alphabet_iff {c : Char} : c ∈ alphabet ↔ ∃ s, charOfSymbol s = c := by
  constructor
  · intro h
    obtain ⟨i, rfl⟩ := List.get_of_mem h
    exact ⟨⟨i⟩, rfl⟩
  · rintro ⟨s, rfl⟩
    exact List.get_mem ..

/-- The characters of a symbol are its own one in either case. -/
theorem symbolOfChar?_eq_some_iff {c : Char} {s : Symbol} :
    symbolOfChar? c = some s ↔ c.toLower = charOfSymbol s := by
  constructor
  · exact toLower_eq_of_symbolOfChar?
  · intro h
    have hsame : symbolOfChar? c = symbolOfChar? c.toLower := by
      rw [symbolOfChar?, symbolOfChar?, Char.toLower_toLower_eq_toLower]
    rw [hsame, h, symbolOfChar?_charOfSymbol]

/-- Characters spell symbols if they are theirs in lower case. -/
theorem mapM_symbolOfChar?_eq_some_iff {chars : List Char} :
    chars.mapM symbolOfChar? = some symbols ↔
      chars.map Char.toLower = symbols.map charOfSymbol := by
  induction chars generalizing symbols with
  | nil => cases symbols <;> simp
  | cons c chars ih =>
    simp only [List.mapM_cons, Option.bind_eq_bind, Option.bind_eq_some_iff, Option.pure_def,
      Option.some.injEq, symbolOfChar?_eq_some_iff, ih, List.map_cons]
    constructor
    · rintro ⟨s, hs, rest, hrest, rfl⟩
      rw [List.map_cons, hs, hrest]
    · intro h
      obtain ⟨s, rest, rfl, hs, hrest⟩ := List.map_eq_cons_iff.1 h.symm
      exact ⟨s, hs.symm, rest, hrest.symm, rfl⟩

/-- The separator is no symbol, so it is not found among them. -/
theorem one_not_mem_of_map_toLower {back : List Char}
    (h : back.map Char.toLower = symbols.map charOfSymbol) : '1' ∉ back := by
  intro hone
  have hmem : '1' ∈ symbols.map charOfSymbol := by
    rw [← h]
    exact List.mem_map_of_mem (f := Char.toLower) hone
  obtain ⟨s, -, hs⟩ := List.mem_map.1 hmem
  exact charOfSymbol_ne_one s hs

/-! ## The parts of a text -/

/-- A text falls into a prefix and symbols at its last separator, if it does not mix cases. -/
theorem parts?_eq_some_iff :
    parts? text = some (hrp, symbols) ↔
      ∃ back, text = hrp.chars ++ '1' :: back ∧
        back.map Char.toLower = symbols.map charOfSymbol ∧ mixesCase text = false := by
  simp only [parts?, Option.bind_eq_bind, Option.bind_eq_some_iff, Prod.exists,
    splitAtSeparator_eq_some_iff, mapM_symbolOfChar?_eq_some_iff, Except.toOption_eq_some_iff,
    Prefix.ofChars_eq_ok_iff, Bool.not_eq_true]
  constructor
  · rintro ⟨front, back, ⟨rfl, -⟩, p, rfl, ss, hss, u, hcase, h⟩
    cases h
    exact ⟨back, rfl, hss, by simpa using hcase⟩
  · rintro ⟨back, rfl, hback, hcase⟩
    exact ⟨hrp.chars, back, ⟨rfl, one_not_mem_of_map_toLower hback⟩, hrp, rfl, symbols, hback,
      (), by simp [hcase], rfl⟩

/-- A text is read exactly if it is a prefix, the separator, and characters that
stand for some data and their checksum. -/
theorem decodeChars_eq_ok_iff :
    decodeChars text = .ok (hrp, data) ↔
      ∃ back, text = hrp.chars ++ '1' :: back ∧
        back.map Char.toLower = (data ++ checksum hrp.lowerChars data).map charOfSymbol ∧
          mixesCase text = false ∧ text.length ≤ maxLength := by
  constructor
  · intro h
    unfold decodeChars at h
    split at h
    · cases h
    · next p symbols hparts =>
      split at h
      · next hverified =>
        cases h
        obtain ⟨hlen, hsix, hresidue⟩ := hverified
        obtain ⟨back, htext, hback, hcase⟩ := parts?_eq_some_iff.1 hparts
        -- The symbols are some data and six more, which are the checksum of the data.
        have hsplit := List.take_append_drop (symbols.length - checksumLength) symbols
        have hdrop : (symbols.drop (symbols.length - checksumLength)).length = checksumLength := by
          rw [List.length_drop]
          omega
        rw [← hsplit, residue_append_eq_one_iff hdrop] at hresidue
        refine ⟨back, htext, ?_, hcase, hlen⟩
        rw [← hresidue, hsplit, hback]
      · cases h
  · rintro ⟨back, htext, hback, hcase, hlen⟩
    have hparts := parts?_eq_some_iff.2 ⟨back, htext, hback, hcase⟩
    have hverified : Verified text hrp (data ++ checksum hrp.lowerChars data) := by
      refine ⟨hlen, ?_, residue_append_checksum ..⟩
      rw [List.length_append, length_checksum]
      omega
    unfold decodeChars
    rw [hparts]
    simp only [if_pos hverified, List.length_append, length_checksum, Nat.add_sub_cancel,
      List.take_left']

/-! ## Reading and writing -/

/-- The case of a prefix does not show in what is written. -/
theorem encodeChars_congr {p q : Prefix} (h : p.Same q) (data : List Symbol) :
    encodeChars p data = encodeChars q data := by
  rw [encodeChars, encodeChars, show p.lowerChars = q.lowerChars from h]

/-- Symbols have characters of their own. -/
theorem charOfSymbol_injective : Function.Injective charOfSymbol := by
  intro s t h
  have := congrArg symbolOfChar? h
  rwa [symbolOfChar?_charOfSymbol, symbolOfChar?_charOfSymbol, Option.some.injEq] at this

/-- A text over the alphabet spells symbols. -/
theorem exists_map_charOfSymbol_eq {chars : List Char} (h : ∀ c ∈ chars, c ∈ alphabet) :
    ∃ symbols : List Symbol, symbols.map charOfSymbol = chars := by
  have hrange : chars ∈ Set.range (List.map charOfSymbol) := by
    rw [Set.range_list_map]
    exact fun c hc => mem_alphabet_iff.1 (h c hc)
  exact hrange

/-- Different data is written differently. -/
theorem encodeChars_injective (hrp : Prefix) : Function.Injective (encodeChars hrp) := by
  intro data data' h
  have hback := List.cons.inj (List.append_cancel_left h)
  have hsymbols := List.map_injective_iff.2 charOfSymbol_injective hback.2
  exact (List.append_inj' hsymbols (by rw [length_checksum, length_checksum])).1

theorem map_toLower_map_charOfSymbol (symbols : List Symbol) :
    (symbols.map charOfSymbol).map Char.toLower = symbols.map charOfSymbol := by
  rw [List.map_map]
  exact List.map_congr_left fun s _ => toLower_charOfSymbol s

/-- Prefixes in lower case and symbols are left as they are by a change to lower case. -/
theorem map_toLower_lowerChars_append (hrp : Prefix) (symbols : List Symbol) :
    (hrp.lowerChars ++ '1' :: symbols.map charOfSymbol).map Char.toLower =
      hrp.lowerChars ++ '1' :: symbols.map charOfSymbol := by
  rw [List.map_append, List.map_cons, map_toLower_map_charOfSymbol, hrp.map_toLower_lowerChars]
  rfl

/-- Texts are written in lower case. -/
@[simp] theorem map_toLower_encodeChars (hrp : Prefix) (data : List Symbol) :
    (encodeChars hrp data).map Char.toLower = encodeChars hrp data :=
  map_toLower_lowerChars_append hrp (data ++ checksum hrp.lowerChars data)

/-- A text that is read is, in lower case, what its prefix and data are written as. -/
theorem map_toLower_of_decodeChars (h : decodeChars text = .ok (hrp, data)) :
    text.map Char.toLower = encodeChars hrp data := by
  obtain ⟨back, rfl, hback, -⟩ := decodeChars_eq_ok_iff.1 h
  rw [List.map_append, List.map_cons, hback]
  rfl

/-- A change to lower case leaves the separator where it is. -/
theorem map_toLower_eq_append_one_iff {lowerFront lowerBack : List Char} :
    text.map Char.toLower = lowerFront ++ '1' :: lowerBack ↔
      ∃ front back, text = front ++ '1' :: back ∧
        front.map Char.toLower = lowerFront ∧ back.map Char.toLower = lowerBack := by
  constructor
  · intro h
    obtain ⟨front, rest, rfl, hfront, hrest⟩ := List.map_eq_append_iff.1 h
    obtain ⟨c, back, rfl, hone, hback⟩ := List.map_eq_cons_iff.1 hrest
    obtain rfl := toLower_eq_one_iff.1 hone
    exact ⟨front, back, rfl, hfront, hback⟩
  · rintro ⟨front, back, rfl, rfl, rfl⟩
    rw [List.map_append, List.map_cons]
    rfl

/-- A text is read that is written as a prefix and its data are, but for case.  The
prefix that is read is the one that the text begins with. -/
theorem exists_decodeChars_eq_ok {p : Prefix}
    (h : text.map Char.toLower = encodeChars p data) (hcase : mixesCase text = false)
    (hlen : text.length ≤ maxLength) :
    ∃ hrp : Prefix, hrp.chars = text.take p.chars.length ∧ hrp.Same p ∧
      decodeChars text = .ok (hrp, data) := by
  obtain ⟨front, back, rfl, hfront, hback⟩ := map_toLower_eq_append_one_iff.1 h
  have hsound := Prefix.problem?_eq_none_of_map_toLower hfront (mixesCase_of_append hcase)
  have hcount : front.length = p.chars.length := by
    have := congrArg List.length hfront
    rwa [List.length_map, Prefix.lowerChars, List.length_map] at this
  let hrp : Prefix := ⟨front, hsound⟩
  have hlower : hrp.lowerChars = p.lowerChars := hfront
  refine ⟨hrp, (List.take_left' hcount).symm, hlower, ?_⟩
  exact decodeChars_eq_ok_iff.2 ⟨back, rfl, by rw [hlower, hback], hcase, hlen⟩

end CoinTransfer.Bech32
