import CoinTransfer.Proofs.Address.Codec
import CoinTransfer.Proofs.Bech32.Detection

/-!
# CoinTransfer.Proofs.Address.Grammar

The texts that are read as addresses, described without the reader.  Such a text is made of
`Parts`: the prefix, the separator, and the characters of thirty-two symbols, of one more or
none, and of a checksum.  Data has one checksum only, so the grammar is not larger than the
set of spellings (`decode_eq_ok_iff_parts`).

As a checksum shows every change to six symbols in a row, a written address that is changed
there is refused under every prefix (`decode_of_corrupted`).
-/

namespace CoinTransfer

open Bech32

namespace AddressCodec

variable {codec : AddressCodec} {a : Address} {text : String}

/-! ## The grammar -/

/-- The parts of a text of an address: what precedes the separator, what follows it, and the
symbols that the latter stands for, with the six at the end apart. -/
structure Parts (codec : AddressCodec) (a : Address) (text : String) where
  front : List Char
  back : List Char
  data : List Symbol
  six : List Symbol
  text_eq : text.toList = front ++ '1' :: back
  /-- The prefix is that of the codec, but for case. -/
  front_eq : front.map Char.toLower = codec.hrp.chars.map Char.toLower
  one_case : ¬ (text.toList.any Char.isLower ∧ text.toList.any Char.isUpper)
  length_back : back.length = 38 ∨ back.length = 39
  /-- Characters of either case stand for the symbols. -/
  back_eq : back.map Char.toLower = (data ++ six).map charOfSymbol
  /-- The first symbols hold the bits of the address, most significant first. -/
  bits_eq : (data.take 32).flatMap bits = a.bytes.flatMap fun b => bits b.toBitVec
  length_six : six.length = 6
  /-- The last symbols are a checksum of the prefix and of the symbols before them. -/
  residue_eq : residue (front.map Char.toLower) (data ++ six) = 1

theorem length_symbolsOfBytes_bytes (a : Address) : (symbolsOfBytes a.bytes).length = 32 := by
  have := length_symbolsOfBytes (bytes_fill a)
  rw [a.length_bytes] at this
  omega

/-- Thirty-two symbols and at most one more hold the bits of an address in the first of them
exactly if these are the symbols of the address. -/
theorem eq_symbolsOfBytes_append_iff {data : List Symbol} :
    (∃ extra : Option Symbol, data = symbolsOfBytes a.bytes ++ extra.toList) ↔
      (data.length = 32 ∨ data.length = 33) ∧
        (data.take 32).flatMap bits = a.bytes.flatMap fun b => bits b.toBitVec := by
  have hlen := length_symbolsOfBytes_bytes a
  constructor
  · rintro ⟨extra, rfl⟩
    refine ⟨?_, ?_⟩
    · cases extra <;> simp [hlen]
    · rw [List.take_left' hlen, flatMap_bits_symbolsOfBytes (bytes_fill a)]
  · rintro ⟨hcount, hbits⟩
    have htake : data.take 32 = symbolsOfBytes a.bytes := by
      rw [symbolsOfBytes, ← hbits, symbolsOfBits_flatMap_bits]
    obtain ⟨extra, hextra⟩ := exists_eq_toList (l := data.drop 32) (by
      rw [List.length_drop]
      omega)
    exact ⟨extra, by rw [← htake, ← hextra, List.take_append_drop]⟩

/-- What has the parts of an address is a spelling of it, but for case. -/
theorem Parts.decode_eq_ok (parts : Parts codec a text) : codec.decode text = .ok a := by
  obtain ⟨front, back, data, six, htext, hfront, hcase, hcount, hback, hbits, hsix, hresidue⟩ :=
    parts
  have hlen := congrArg List.length hback
  rw [List.length_map, List.length_map, List.length_append, hsix] at hlen
  obtain ⟨extra, rfl⟩ := eq_symbolsOfBytes_append_iff.2 ⟨by omega, hbits⟩
  obtain rfl := (residue_append_eq_one_iff hsix).1 hresidue
  refine decode_eq_ok_iff.2 ⟨?_, extra, String.toList_inj.1 ?_⟩
  · rwa [mixesCase, ← Bool.not_eq_true, Bool.and_eq_true]
  · rw [Text.toList_toLower, toList_spelling, encodeChars, map_toLower_eq_append_one_iff]
    exact ⟨front, back, htext, hfront, by rw [hback, hfront]; rfl⟩

/-- Conversely every text that is read as an address has its parts. -/
theorem nonempty_parts_of_decode (h : codec.decode text = .ok a) :
    Nonempty (Parts codec a text) := by
  obtain ⟨hcase, extra, hlower⟩ := decode_eq_ok_iff.1 h
  have hchars := congrArg String.toList hlower
  rw [Text.toList_toLower, toList_spelling, encodeChars, map_toLower_eq_append_one_iff] at hchars
  obtain ⟨front, back, htext, hfront, hback⟩ := hchars
  obtain ⟨hcount, hbits⟩ := eq_symbolsOfBytes_append_iff.1 ⟨extra, rfl⟩
  have hlen := congrArg List.length hback
  rw [List.length_map, List.length_map, List.length_append, length_checksum, checksumLength] at hlen
  refine ⟨⟨front, back, _, _, htext, hfront, ?_, by omega, hback, hbits, length_checksum .., ?_⟩⟩
  · rwa [mixesCase, ← Bool.not_eq_true, Bool.and_eq_true] at hcase
  · rw [hfront]
    exact residue_append_checksum ..

/-- **Grammar**: a text is read as an address exactly if it has its parts, and for any prefix
and data there is one checksum. -/
theorem decode_eq_ok_iff_parts (codec : AddressCodec) :
    (∀ text a, codec.decode text = .ok a ↔ Nonempty (Parts codec a text)) ∧
      ∀ (lowerChars : List Char) (data : List Symbol),
        ∃! six : List Symbol, six.length = 6 ∧ residue lowerChars (data ++ six) = 1 := by
  refine ⟨fun text a => ⟨nonempty_parts_of_decode, fun ⟨parts⟩ => parts.decode_eq_ok⟩,
    fun lowerChars data => ⟨checksum lowerChars data, ?_, ?_⟩⟩
  · exact ⟨length_checksum .., residue_append_checksum ..⟩
  · rintro six ⟨hlen, hresidue⟩
    exact (residue_append_eq_one_iff hlen).1 hresidue

/-! ## Changes that are noticed -/

/-- What is written for an address is what is written for its symbols. -/
theorem toList_of_encode (h : codec.encode a = .ok text) :
    text.toList = encodeChars codec.hrp (symbolsOfBytes a.bytes) := by
  rw [encode_eq_ok, Except.ok.injEq] at h
  rw [← h, toList_spelling, Option.toList_none, List.append_nil]

/-- A written address that is changed behind the separator is refused. -/
theorem decode_of_corruption {p : AddressCodec} (hwrite : p.encode a = .ok text)
    (q : AddressCodec) {changed : String}
    (corruption : Corruption (p.hrp.text.length + 1) text.toList changed.toList) :
    q.decode changed = .error (.notBech32 .badChecksum) := by
  rw [toList_of_encode hwrite, Prefix.text, String.length_ofList] at corruption
  exact decode_of_badChecksum corruption.decodeChars_eq_error

/-- **Corruption**: a written address of which some of at most six characters in a row are
changed, behind the separator and to characters of symbols, is refused for its checksum, under
every prefix.  So it is if one character is mistyped, or if two neighbours that differ are
swapped. -/
theorem decode_of_corrupted {p : AddressCodec} {a : Address} {text : String}
    (hwrite : p.encode a = .ok text) (q : AddressCodec) :
    (∀ changed : String, Corruption (p.hrp.text.length + 1) text.toList changed.toList →
      q.decode changed = .error (.notBech32 .badChecksum)) ∧
    (∀ front x y back, text.toList = front ++ x :: back → p.hrp.text.length + 1 ≤ front.length →
      y ∈ alphabet → y ≠ x →
      q.decode (String.ofList (front ++ y :: back)) = .error (.notBech32 .badChecksum)) ∧
    ∀ front x y back, text.toList = front ++ x :: y :: back →
      p.hrp.text.length + 1 ≤ front.length → x ≠ y →
      q.decode (String.ofList (front ++ y :: x :: back)) = .error (.notBech32 .badChecksum) := by
  refine ⟨fun changed corruption => decode_of_corruption hwrite q corruption, ?_, ?_⟩
  · intro front x y back htext hfront hy hne
    refine decode_of_corruption hwrite q ⟨front, [x], [y], back, ?_, ?_, hfront, ?_, rfl, ?_, ?_⟩
    · simpa using htext
    · simp
    · simp
    · simpa using hne
    · simpa using hy
  · intro front x y back htext hfront hne
    have hold {c : Char} (hc : c ∈ x :: y :: back) : c ∈ alphabet := by
      refine mem_alphabet_of_encodeChars ((toList_of_encode hwrite).symm.trans htext) ?_ hc
      rwa [Prefix.text, String.length_ofList] at hfront
    refine decode_of_corruption hwrite q
      ⟨front, [x, y], [y, x], back, ?_, ?_, hfront, ?_, rfl, ?_, ?_⟩
    · simpa using htext
    · simp
    · simp
    · simp [hne]
    · simp [hold]

end AddressCodec

namespace AddressCodec

namespace Example

/-- What is written for the address, with another checksum. -/
def tampered : String := "no1va1qqqsyqcyq5rqwzqfpg9scrgwpugpzysnqqqqqq"

theorem encode_counting : codec.encode counting = .ok written :=
  Except.toOption_eq_some_iff.1 (by decide +kernel)

/-- The window is what the checksum takes up. -/
def tampering : Corruption 6 written.toList tampered.toList where
  front := "no1va1qqqsyqcyq5rqwzqfpg9scrgwpugpzysn".toList
  old := ['t', '3', 'z', 'y', 'k', '6']
  new := List.replicate 6 'q'
  back := []
  text_eq := by decide +kernel
  changed_eq := by decide +kernel
  le_front := by decide +kernel
  length_old := by decide
  length_new := rfl
  new_ne := by decide
  mem_alphabet c hc := by
    rw [List.eq_of_mem_replicate hc]
    exact List.mem_cons_self

end Example

open Example

/-- The six characters of a checksum are changed, and the two before it are swapped. -/
theorem decode_of_corrupted_example :
    codec.encode counting = .ok written ∧
      AddressCodec.decode ⟨capitals⟩ tampered = .error (.notBech32 .badChecksum) ∧
      AddressCodec.decode ⟨shorter⟩ "no1va1qqqsyqcyq5rqwzqfpg9scrgwpugpzynst3zyk6" =
        .error (.notBech32 .badChecksum) := by
  refine ⟨encode_counting, (decode_of_corrupted encode_counting ⟨capitals⟩).1 _ tampering, ?_⟩
  exact (decode_of_corrupted encode_counting ⟨shorter⟩).2.2
    "no1va1qqqsyqcyq5rqwzqfpg9scrgwpugpzy".toList 's' 'n' "t3zyk6".toList (by decide +kernel)
    (by decide +kernel) (by decide)

end AddressCodec

end CoinTransfer
