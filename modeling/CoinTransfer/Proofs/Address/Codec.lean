import CoinTransfer.Address.Codec
import CoinTransfer.Proofs.Bech32.Encoding
import CoinTransfer.Proofs.Bech32.Regroup

/-!
# CoinTransfer.Proofs.Address.Codec

Addresses as text.  A `spelling` of an address is its thirty-two symbols under the
codec's prefix, with one more symbol or without, and the checksum of those.  The
writer leaves the further symbol out, and the reader drops it whatever it is, so:

* what is written is read back, under every prefix that agrees but for case, and
  every other prefix is told apart (`Address.ofBech32_toBech32`);
* the texts that are read as an address are its thirty-three spellings, up to case
  (`texts_of_address`); of these only one is written.
-/

namespace CoinTransfer

open Bech32

namespace AddressCodec

variable {codec : AddressCodec} {a : Address} {text : String} {extra : Option Symbol}

/-! ## Spellings -/

/-- The symbols of an address under a prefix, one more if there is any, and the
checksum of those. -/
def spelling (codec : AddressCodec) (a : Address) (extra : Option Symbol) : String :=
  String.ofList (encodeChars codec.hrp (symbolsOfBytes a.bytes ++ extra.toList))

@[simp] theorem toList_spelling (codec : AddressCodec) (a : Address) (extra : Option Symbol) :
    (codec.spelling a extra).toList =
      encodeChars codec.hrp (symbolsOfBytes a.bytes ++ extra.toList) :=
  String.toList_ofList

/-- The bytes of an address fill their symbols. -/
theorem bytes_fill (a : Address) : a.bytes.length % 5 = 0 := by
  rw [a.length_bytes]

/-- The text of an address: the prefix, the separator, thirty-two symbols of data and six of the
checksum, and one more if there is an extra one. -/
theorem length_spelling (codec : AddressCodec) (a : Address) (extra : Option Symbol) :
    (codec.spelling a extra).length = codec.hrp.text.length + 39 + extra.toList.length := by
  have hsymbols := length_symbolsOfBytes (bytes_fill a)
  have hbytes := a.length_bytes
  have hprefix : codec.hrp.text.length = codec.hrp.chars.length := String.length_ofList
  rw [← String.length_toList, toList_spelling, length_encodeChars, List.length_append, hprefix,
    checksumLength]
  omega

/-- No text of an address is too long to be read. -/
theorem length_spelling_le (codec : AddressCodec) (a : Address) (extra : Option Symbol) :
    (codec.spelling a extra).toList.length ≤ Bech32.maxLength := by
  have hprefix : codec.hrp.text.length ≤ Prefix.maxLength := by
    rw [Prefix.text, String.length_ofList]
    exact (Prefix.problem?_eq_none_iff.1 codec.hrp.sound).2.1
  have hextra : extra.toList.length ≤ 1 := by cases extra <;> simp
  rw [String.length_toList, length_spelling, Bech32.maxLength]
  rw [Prefix.maxLength] at hprefix
  omega

/-- Another extra symbol makes another text. -/
theorem spelling_injective (codec : AddressCodec) (a : Address) :
    Function.Injective (codec.spelling a) := by
  intro x y h
  have hchars := congrArg String.toList h
  rw [toList_spelling, toList_spelling] at hchars
  have hdata := List.append_cancel_left (encodeChars_injective codec.hrp hchars)
  cases x <;> cases y <;> simp_all

/-- The writer never fails. -/
theorem encode_eq_ok (codec : AddressCodec) (a : Address) :
    codec.encode a = .ok (codec.spelling a none) := by
  have hlen := length_spelling_le codec a none
  rw [toList_spelling, Option.toList_none, List.append_nil] at hlen
  rw [encode, Bech32.encode, if_pos hlen, spelling, Option.toList_none, List.append_nil]
  rfl

/-! ## Reading -/

/-- A text of blanks has no separator. -/
theorem decodeChars_of_all_isBlank {chars : List Char} (h : chars.all Text.isBlank = true) :
    decodeChars chars = .error .malformed := by
  have hone : '1' ∉ chars := fun hmem => absurd (List.all_eq_true.1 h '1' hmem) (by decide)
  rw [decodeChars, parts?, splitAtSeparator_eq_none_iff.2 hone]
  rfl

/-- The reader of a text that is a Bech32 text. -/
theorem decode_of_decodeChars {hrp : Prefix} {data : List Symbol}
    (h : decodeChars text.toList = .ok (hrp, data)) :
    codec.decode text =
      if hrp.Same codec.hrp then Address.ofBytes (bytesOfSymbols data)
      else .error (.foreignPrefix codec.hrp.text hrp.text) := by
  have hblank : ¬ text.toList.all Text.isBlank = true := fun hall => by
    rw [decodeChars_of_all_isBlank hall] at h
    cases h
  rw [decode, if_neg hblank, Bech32.decode, h]

/-- The reader of a text with a wrong checksum. -/
theorem decode_of_badChecksum (h : decodeChars text.toList = .error .badChecksum) :
    codec.decode text = .error (.notBech32 .badChecksum) := by
  have hblank : ¬ text.toList.all Text.isBlank = true := fun hall => by
    rw [decodeChars_of_all_isBlank hall] at h
    cases h
  rw [decode, if_neg hblank, Bech32.decode, h]

/-- A text in the spelling of an address is read as this address under the prefix of
the spelling, and as one with a foreign prefix under others. -/
theorem decode_of_toLower {p : AddressCodec} (h : text.toLower = p.spelling a extra)
    (hcase : mixesCase text.toList = false) :
    codec.decode text =
      if p.hrp.Same codec.hrp then .ok a
      else .error (.foreignPrefix codec.hrp.text
        (String.ofList (text.toList.take p.hrp.chars.length))) := by
  have hlower : text.toList.map Char.toLower =
      encodeChars p.hrp (symbolsOfBytes a.bytes ++ extra.toList) := by
    rw [← toList_spelling, ← h, Text.toList_toLower]
  have hlen : text.toList.length ≤ Bech32.maxLength := by
    have := length_spelling_le p a extra
    rwa [toList_spelling, ← hlower, List.length_map] at this
  obtain ⟨hrp, hchars, hsame, hdecode⟩ := exists_decodeChars_eq_ok hlower hcase hlen
  have hiff : hrp.Same codec.hrp ↔ p.hrp.Same codec.hrp := by
    rw [Prefix.Same, show hrp.lowerChars = p.hrp.lowerChars from hsame, Prefix.Same]
  have hbytes := (bytesOfSymbols_eq_iff (bytes_fill a)).2 ⟨extra, rfl⟩
  have htext : hrp.text = String.ofList (text.toList.take p.hrp.chars.length) := by
    rw [Prefix.text, hchars]
  rw [decode_of_decodeChars hdecode, hbytes, Address.ofBytes_bytes, htext]
  simp only [hiff]

/-- The texts that are read as an address are its spellings, in one case throughout. -/
theorem decode_eq_ok_iff :
    codec.decode text = .ok a ↔
      mixesCase text.toList = false ∧ ∃ extra, text.toLower = codec.spelling a extra := by
  constructor
  · intro h
    unfold decode at h
    split at h
    · cases h
    · split at h
      · cases h
      · next hrp data hdecode =>
        split at h
        · next hsame =>
          have hbytes := (Address.ofBytes_eq_ok_iff.1 h).symm
          obtain ⟨extra, rfl⟩ := (bytesOfSymbols_eq_iff (bytes_fill a)).1 hbytes
          obtain ⟨-, -, -, hcase, -⟩ := decodeChars_eq_ok_iff.1 hdecode
          refine ⟨hcase, extra, String.toList_inj.1 ?_⟩
          rw [Text.toList_toLower, map_toLower_of_decodeChars hdecode, encodeChars_congr hsame,
            toList_spelling]
        · cases h
  · rintro ⟨hcase, extra, h⟩
    rw [decode_of_toLower h hcase]
    exact if_pos rfl

/-- A codec has no prefix to object to. -/
theorem decode_ne_invalidPrefix (codec : AddressCodec) (text got : String) :
    codec.decode text ≠ .error (.invalidPrefix got) := by
  intro h
  unfold decode at h
  split at h
  · cases h
  · split at h
    · cases h
    · split at h
      · unfold Address.ofBytes at h
        split at h <;> cases h
      · cases h

/-! ## Written addresses are read back -/

/-- Spellings are in lower case. -/
theorem toLower_spelling (codec : AddressCodec) (a : Address) (extra : Option Symbol) :
    (codec.spelling a extra).toLower = codec.spelling a extra := by
  rw [← String.toList_inj, Text.toList_toLower, toList_spelling, map_toLower_encodeChars]

/-- Spellings do not mix cases. -/
theorem mixesCase_spelling (codec : AddressCodec) (a : Address) (extra : Option Symbol) :
    mixesCase (codec.spelling a extra).toList = false := by
  rw [toList_spelling, ← map_toLower_encodeChars, mixesCase_map_toLower]

/-- What is written under one prefix, when it is read under another. -/
theorem decode_spelling (p q : AddressCodec) (a : Address) (extra : Option Symbol) :
    q.decode (p.spelling a extra) =
      if p.hrp.Same q.hrp then .ok a
      else .error (.foreignPrefix q.hrp.text p.hrp.text.toLower) := by
  have hprefix : String.ofList ((p.spelling a extra).toList.take p.hrp.chars.length) =
      p.hrp.text.toLower := by
    rw [← String.toList_inj, Text.toList_toLower, String.toList_ofList, Prefix.text,
      String.toList_ofList, toList_spelling, encodeChars]
    exact List.take_left' (by rw [Prefix.lowerChars, List.length_map])
  rw [decode_of_toLower (toLower_spelling p a extra) (mixesCase_spelling p a extra), hprefix]

/-- Capitals do not keep a text from being read. -/
theorem decode_toUpper_spelling {p q : AddressCodec} (h : p.hrp.Same q.hrp) (a : Address)
    (extra : Option Symbol) : q.decode (p.spelling a extra).toUpper = .ok a := by
  have hlower : (p.spelling a extra).toUpper.toLower = p.spelling a extra := by
    rw [Text.toLower_toUpper, toLower_spelling]
  rw [decode_of_toLower hlower (by simp), if_pos h]

end AddressCodec

/-- Prefixes agree but for case if their texts do. -/
theorem Bech32.Prefix.same_iff {p q : Prefix} :
    p.Same q ↔ p.text.toLower = q.text.toLower := by
  rw [← String.toList_inj, Text.toList_toLower, Text.toList_toLower, Prefix.text, Prefix.text,
    String.toList_ofList, String.toList_ofList]
  rfl

/-- **Round trip**: an address is written under every prefix, in thirty-nine characters
after those of the prefix.  What is written is read back under every prefix that
agrees but for case, also in capitals, and is told apart under every other prefix.  The
codec of a prefix does the same, and never objects to its prefix. -/
theorem Address.ofBech32_toBech32 {own other : String} {p q : Prefix}
    (hp : Prefix.parse own = .ok p) (hq : Prefix.parse other = .ok q) (a : Address) :
    AddressCodec.ofText own = .ok ⟨p⟩ ∧ AddressCodec.ofText other = .ok ⟨q⟩ ∧
    ∃ text : String,
      a.toBech32 own = .ok text ∧ AddressCodec.encode ⟨p⟩ a = .ok text ∧
      text.length = own.length + 39 ∧
      (own.toLower = other.toLower →
        Address.ofBech32 text other = .ok a ∧ AddressCodec.decode ⟨q⟩ text = .ok a ∧
        Address.ofBech32 text.toUpper other = .ok a ∧
        AddressCodec.decode ⟨q⟩ text.toUpper = .ok a) ∧
      (own.toLower ≠ other.toLower →
        Address.ofBech32 text other = .error (.foreignPrefix other own.toLower) ∧
        AddressCodec.decode ⟨q⟩ text = .error (.foreignPrefix other own.toLower)) ∧
      ∀ s got : String, AddressCodec.decode ⟨q⟩ s ≠ .error (.invalidPrefix got) := by
  have hown : AddressCodec.ofText own = .ok ⟨p⟩ := by rw [AddressCodec.ofText, hp]
  have hother : AddressCodec.ofText other = .ok ⟨q⟩ := by rw [AddressCodec.ofText, hq]
  have hwrite : a.toBech32 own = AddressCodec.encode ⟨p⟩ a := by
    rw [toBech32, hown]
    rfl
  have hread (s : String) : Address.ofBech32 s other = AddressCodec.decode ⟨q⟩ s := by
    rw [ofBech32, hother]
    rfl
  obtain rfl := Prefix.parse_eq_ok_iff.1 hp
  obtain rfl := Prefix.parse_eq_ok_iff.1 hq
  have hencode := AddressCodec.encode_eq_ok ⟨p⟩ a
  have hdecode := AddressCodec.decode_spelling ⟨p⟩ ⟨q⟩ a none
  refine ⟨hown, hother, AddressCodec.spelling ⟨p⟩ a none, hwrite.trans hencode, hencode,
    AddressCodec.length_spelling ⟨p⟩ a none, fun h => ?_, fun h => ?_,
    AddressCodec.decode_ne_invalidPrefix ⟨q⟩⟩
  · have hsame : p.Same q := Prefix.same_iff.2 h
    rw [if_pos hsame] at hdecode
    have hupper := AddressCodec.decode_toUpper_spelling (p := ⟨p⟩) (q := ⟨q⟩) hsame a none
    exact ⟨(hread _).trans hdecode, hdecode, (hread _).trans hupper, hupper⟩
  · have hsame : ¬ p.Same q := fun hsame => h (Prefix.same_iff.1 hsame)
    rw [if_neg hsame] at hdecode
    exact ⟨(hread _).trans hdecode, hdecode⟩

namespace AddressCodec.Example

/-- The address of the bytes from zero to nineteen. -/
def counting : Address := ⟨(List.range 20).map UInt8.ofNat, rfl⟩

/-- A prefix that holds the separator. -/
def inner : Prefix := ⟨"no1va".toList, by decide⟩

def capitals : Prefix := ⟨"NO1VA".toList, by decide⟩

def shorter : Prefix := ⟨"no".toList, by decide⟩

end AddressCodec.Example

open AddressCodec.Example in
/-- An address under a prefix that holds the separator, read under the same prefix in
capitals, and under what the prefix has before its separator. -/
theorem Address.ofBech32_toBech32_example :
    Prefix.parse "no1va" = .ok inner ∧ Prefix.parse "NO1VA" = .ok capitals ∧
    Prefix.parse "no" = .ok shorter ∧
    (∃ text, counting.toBech32 "no1va" = .ok text ∧ text.length = 44 ∧
      Address.ofBech32 text "NO1VA" = .ok counting) ∧
    ∃ text, counting.toBech32 "no1va" = .ok text ∧
      Address.ofBech32 text "no" = .error (.foreignPrefix "no" "no1va") := by
  have hinner : Prefix.parse "no1va" = .ok inner := Prefix.parse_eq_ok_iff.2 String.ofList_toList
  have hcapitals : Prefix.parse "NO1VA" = .ok capitals :=
    Prefix.parse_eq_ok_iff.2 String.ofList_toList
  have hshorter : Prefix.parse "no" = .ok shorter := Prefix.parse_eq_ok_iff.2 String.ofList_toList
  have hlength : "no1va".length = 5 := rfl
  have hsame : "no1va".toLower = "NO1VA".toLower := String.toList_inj.1 (by simp)
  have hother : "no1va".toLower ≠ "no".toLower := by simp [← String.toList_inj]
  have hlower : "no1va".toLower = "no1va" := String.toList_inj.1 (by simp)
  refine ⟨hinner, hcapitals, hshorter, ?_, ?_⟩
  · obtain ⟨-, -, text, hwrite, -, hlen, hread, -⟩ := ofBech32_toBech32 hinner hcapitals counting
    rw [hlength] at hlen
    exact ⟨text, hwrite, hlen, (hread hsame).1⟩
  · obtain ⟨-, -, text, hwrite, -, -, -, hforeign, -⟩ := ofBech32_toBech32 hinner hshorter counting
    have herror := (hforeign hother).1
    rw [hlower] at herror
    exact ⟨text, hwrite, herror⟩

/-! ## The texts of an address -/

namespace AddressCodec

/-- **The texts of an address** are its spellings, but for case.  One of them is
written, and it is the only one that has no symbol to be dropped. -/
theorem texts_of_address (codec : AddressCodec) (a : Address) :
    codec.encode a = .ok (codec.spelling a none) ∧
    Function.Injective (codec.spelling a) ∧
    (∀ extra, (codec.spelling a extra).length =
      codec.hrp.text.length + 39 + extra.toList.length) ∧
    ∀ text,
      (codec.decode text = .ok a ↔
        mixesCase text.toList = false ∧ ∃ extra, text.toLower = codec.spelling a extra) ∧
      (codec.decode text = .ok a → text.length = codec.hrp.text.length + 39 →
        codec.encode a = .ok text.toLower) := by
  refine ⟨encode_eq_ok codec a, spelling_injective codec a, length_spelling codec a,
    fun text => ⟨decode_eq_ok_iff, fun hread hlen => ?_⟩⟩
  obtain ⟨-, extra, hlower⟩ := decode_eq_ok_iff.1 hread
  -- The length leaves no room for a further symbol.
  have hnone : extra = none := by
    have hsize : text.toLower.length = text.length := by
      rw [← String.length_toList, Text.toList_toLower, List.length_map, String.length_toList]
    rw [hlower, length_spelling, hlen] at hsize
    cases extra with
    | none => rfl
    | some x => simp at hsize
  rw [hlower, hnone, encode_eq_ok]

namespace Example

def codec : AddressCodec := ⟨inner⟩

/-- What is written for the address. -/
def written : String := "no1va1qqqsyqcyq5rqwzqfpg9scrgwpugpzysnt3zyk6"

/-- The address with one more symbol. -/
def longer : String := "no1va1qqqsyqcyq5rqwzqfpg9scrgwpugpzysnqp94vtr"

theorem decode_written : codec.decode written.toUpper = .ok counting :=
  Except.toOption_eq_some_iff.1 (by decide +kernel)

theorem decode_longer : codec.decode longer = .ok counting :=
  Except.toOption_eq_some_iff.1 (by decide +kernel)

end Example

open Example

/-- An address in capitals, of the length that is written. -/
theorem texts_of_address_example :
    codec.decode written.toUpper = .ok counting ∧ written.toUpper.length = codec.hrp.text.length + 39 ∧
      codec.encode counting = .ok written.toUpper.toLower := by
  have hlen : written.toUpper.length = codec.hrp.text.length + 39 := by decide +kernel
  exact ⟨decode_written, hlen, ((texts_of_address codec counting).2.2.2 _).2 decode_written hlen⟩

/-- A text that is read need not be what is written for its address, in any case, and
an address has texts that differ in more than case. -/
theorem decode_not_canonical :
    ¬ (∀ (codec : AddressCodec) (text : String) (a : Address),
      codec.decode text = .ok a → codec.encode a = .ok text.toLower) ∧
    ¬ ∀ (codec : AddressCodec) (text text' : String) (a : Address),
      codec.decode text = .ok a → codec.decode text' = .ok a → text.toLower = text'.toLower := by
  constructor
  · intro h
    have hsame := h codec longer counting decode_longer
    rw [encode_eq_ok, Except.ok.injEq] at hsame
    exact absurd hsame (by decide +kernel)
  · intro h
    have hsame := h codec written.toUpper longer counting decode_written decode_longer
    exact absurd hsame (by decide +kernel)

end AddressCodec

end CoinTransfer
