import CoinTransfer.Address.Binary
import CoinTransfer.Address.Json
import CoinTransfer.Proofs.Hex
import CoinTransfer.Proofs.Json.Reads

/-!
# CoinTransfer.Proofs.Address.Forms

The two forms in which addresses are stored.  In JSON an address is a text, and the texts
that are read are those of forty hexadecimal digits.  In binary it is the number twenty as a
word of eight bytes and the bytes, and whatever begins so is read.
-/

namespace CoinTransfer.Address

open Json

variable {a : Address} {text : String} {document : String}

theorem mapError_ofBytes_eq_ok_iff {ε : Type} {reason : AddressError → ε} {bytes : List UInt8} :
    (ofBytes bytes).mapError reason = .ok a ↔ a.bytes = bytes := by
  rw [← ofBytes_eq_ok_iff]
  cases ofBytes bytes <;> simp [Except.mapError]

/-! ## From hexadecimal digits -/

/-- Why a text is not an address in hexadecimal. -/
inductive HexFault (text : List Char) : String → Prop
  | notBytes {e : Hex.Error} (h : Hex.Fault (Text.utf8 text) e) : HexFault text e.message
  | wrongLength (even : text.length % 2 = 0) (digits : ∀ c ∈ text, c ∈ Hex.alphabet)
      (ne : text.length ≠ 40) :
      HexFault text (AddressError.wrongLength (text.length / 2)).message

theorem ofHex_of_decode {bytes : List UInt8} (h : Hex.decode text.toList = .ok bytes) :
    ofHex text = (ofBytes bytes).mapError AddressError.message := by
  rw [ofHex, h]
  rfl

theorem ofHex_of_decode_error {e : Hex.Error} (h : Hex.decode text.toList = .error e) :
    ofHex text = .error e.message := by
  rw [ofHex, h]
  rfl

theorem toLower_eq_hex_iff : text.toLower = a.hex ↔ Hex.decode text.toList = .ok a.bytes := by
  rw [Hex.decode_eq_ok_iff, ← String.toList_inj, Text.toList_toLower, hex, Hex.encode,
    String.toList_ofList]

/-- The texts of an address are those that are written for it, in either case. -/
theorem ofHex_eq_ok_iff : ofHex text = .ok a ↔ text.toLower = a.hex := by
  rw [toLower_eq_hex_iff]
  cases hdecode : Hex.decode text.toList with
  | error e => simp [ofHex_of_decode_error hdecode]
  | ok bytes => rw [ofHex_of_decode hdecode, mapError_ofBytes_eq_ok_iff, Except.ok.injEq, eq_comm]

theorem exists_ofHex_eq_ok_iff :
    (∃ a, ofHex text = .ok a) ↔ text.length = 40 ∧ ∀ c ∈ text.toList, c ∈ Hex.alphabet := by
  rw [← String.length_toList, ← Hex.exists_decode_eq_ok_iff (n := 20)]
  constructor
  · rintro ⟨a, h⟩
    rw [ofHex_eq_ok_iff, toLower_eq_hex_iff] at h
    exact ⟨a.bytes, h, a.length_bytes⟩
  · rintro ⟨bytes, hdecode, hlen⟩
    exact ⟨⟨bytes, hlen⟩, by rw [ofHex_of_decode hdecode, mapError_ofBytes_eq_ok_iff]⟩

/-- What is reported of a text is what is wrong with it. -/
theorem ofHex_eq_error_iff {reason : String} :
    ofHex text = .error reason ↔ HexFault text.toList reason := by
  constructor
  · intro h
    cases hdecode : Hex.decode text.toList with
    | error e =>
      rw [ofHex_of_decode_error hdecode, Except.error.injEq] at h
      exact h ▸ .notBytes (Hex.decode_eq_error_iff.1 hdecode)
    | ok bytes =>
      obtain ⟨hlen, hdigits⟩ := Hex.exists_decode_eq_ok_iff.1 ⟨bytes, hdecode, rfl⟩
      rw [ofHex_of_decode hdecode, ofBytes] at h
      split at h
      · cases h
      · cases h
        have hhalf : bytes.length = text.toList.length / 2 := by omega
        rw [hhalf]
        exact .wrongLength (by omega) hdigits (by omega)
  · rintro (hfault | ⟨heven, hdigits, hne⟩)
    · exact ofHex_of_decode_error (Hex.decode_of_fault hfault)
    · obtain ⟨bytes, hdecode, hlen⟩ := Hex.exists_decode_eq_ok_iff.2
        ⟨(by omega : text.toList.length = 2 * (text.toList.length / 2)), hdigits⟩
      rw [ofHex_of_decode hdecode, ofBytes, dif_neg (by omega), hlen]
      rfl

/-- A document that holds a text is read as the address of the text. -/
theorem parse_read_of_parse_text (h : Json.parse Json.text document = .ok text) :
    Json.parse Address.read document = (ofHex text).mapError .rejected := by
  cases haddress : ofHex text with
  | ok a => exact parse_bind_of_ok h (by rw [haddress])
  | error reason => exact parse_bind_of_throw h (by rw [haddress])

/-! ## From bytes -/

/-- Eight bytes or any other number of them are told apart by what they stand for. -/
theorem numberOfBytes_inj {word word' : List UInt8} (hlen : word.length = word'.length)
    (h : numberOfBytes word = numberOfBytes word') : word = word' := by
  induction word generalizing word' with
  | nil => exact (List.length_eq_zero_iff.1 hlen.symm).symm
  | cons b rest ih =>
    obtain _ | ⟨b', rest'⟩ := word'
    · cases hlen
    · have hb := b.toNat_lt
      have hb' := b'.toNat_lt
      rw [numberOfBytes, numberOfBytes] at h
      -- The first byte is the remainder by 256.
      rw [UInt8.toNat_inj.1 (by omega : b.toNat = b'.toNat),
        ih (Nat.succ.inj hlen) (by omega)]

theorem lengthWord_twenty : lengthWord 20 = 20 :: List.replicate 7 0 := by
  decide

/-- The bytes that are read as an address are those that begin with its binary form. -/
theorem ofBinary_eq_ok_iff {bytes : List UInt8} :
    ofBinary bytes = .ok a ↔ ∃ rest, bytes = a.toBinary ++ rest := by
  constructor
  · intro h
    unfold ofBinary at h
    dsimp only at h
    split at h
    · cases h
    · next hlong =>
      rw [mapError_ofBytes_eq_ok_iff] at h
      have hsize := congrArg List.length h
      rw [a.length_bytes, List.length_take] at hsize
      -- As many bytes were taken as the word says, and they are twenty.
      have hword : bytes.take 8 = lengthWord a.bytes.length := by
        rw [a.length_bytes]
        refine numberOfBytes_inj ?_ ?_
        · rw [List.length_take, length_lengthWord]
          omega
        · rw [show numberOfBytes (lengthWord 20) = 20 by decide]
          omega
      refine ⟨(bytes.drop 8).drop (numberOfBytes (bytes.take 8)), ?_⟩
      rw [toBinary, ← hword, h, List.append_assoc, List.take_append_drop, List.take_append_drop]
  · rintro ⟨rest, rfl⟩
    exact ofBinary_toBinary_append a rest

/-! ## Both forms -/

/-- **Forms**: a document that holds a text is read as an address exactly if the text consists
of forty hexadecimal digits, of either case; the address is written as the text in lower case.
Any other text is refused for its `HexFault`: an odd number of bytes before the first byte that
is no digit, and that before the number of digits.  In binary, an address is written as the
number twenty in eight bytes and its own bytes, and it is read from what begins so. -/
theorem forms_read_exactly :
    ((∀ text, Json.parse Json.text (Value.text text).render = .ok text) ∧
      ∀ text document, Json.parse Json.text document = .ok text →
        ((∃ a, Json.parse Address.read document = .ok a) ↔
          text.length = 40 ∧ ∀ c ∈ text.toList, c ∈ Hex.alphabet) ∧
        (∀ a, Json.parse Address.read document = .ok a →
          a.toJson.render = (Value.text text.toLower).render) ∧
        ∀ e, Json.parse Address.read document = .error e ↔
          ∃ reason, HexFault text.toList reason ∧ e = .rejected reason) ∧
    (∀ a : Address, a.toBinary = 20 :: List.replicate 7 0 ++ a.bytes ∧ a.toBinary.length = 28) ∧
    ∀ bytes a, ofBinary bytes = .ok a ↔
      ∃ rest, bytes = 20 :: List.replicate 7 0 ++ a.bytes ++ rest := by
  have hbinary (a : Address) : a.toBinary = 20 :: List.replicate 7 0 ++ a.bytes := by
    rw [toBinary, a.length_bytes, lengthWord_twenty]
  refine ⟨⟨fun text => (reads_text text).parse, fun text document htext => ?_⟩,
    fun a => ⟨hbinary a, ?_⟩, fun bytes a => ?_⟩
  · rw [parse_read_of_parse_text htext]
    have hok (a : Address) :
        (ofHex text).mapError Json.Error.rejected = .ok a ↔ ofHex text = .ok a := by
      cases ofHex text <;> simp [Except.mapError]
    refine ⟨?_, fun a ha => ?_, fun e => ?_⟩
    · simp only [hok]
      exact exists_ofHex_eq_ok_iff
    · rw [toJson, ofHex_eq_ok_iff.1 ((hok a).1 ha)]
    · simp only [← ofHex_eq_error_iff]
      cases ofHex text <;> simp [Except.mapError, eq_comm]
  · rw [toBinary, List.length_append, length_lengthWord, a.length_bytes]
  · rw [ofBinary_eq_ok_iff, hbinary]

namespace Example

/-- Forty digits of either case, as they may stand in a document. -/
def mixed : String := "Abcdef000102030405060708090A0B0C0D0E0F10"

/-- The first digit is written as an escape. -/
def escaped : String := " \"\\u0041bcdef000102030405060708090A0B0C0D0E0F10\""

end Example

open Example

/-- Digits are read from an escape, and two bytes are no digits where they stand for one
character. -/
theorem forms_read_exactly_example :
    (∃ a, Json.parse Address.read escaped = .ok a) ∧
      Json.parse Address.read "\"0é0\"" =
        .error (.rejected "Invalid character 'Ã' at position 1") := by
  have hmixed : Json.parse Json.text escaped = .ok mixed := by decide +kernel
  have hdigits : mixed.toList.all (· ∈ Hex.alphabet) = true := by decide +kernel
  have hother : Json.parse Json.text "\"0é0\"" = .ok "0é0" := by decide +kernel
  have hfault : Hex.Fault (Text.utf8 "0é0".toList) (.badDigit 0xC3 1) := by
    rw [show Text.utf8 "0é0".toList = [0x30] ++ 0xC3 :: [0xA9, 0x30] by decide +kernel]
    exact .badDigit (by decide) (by decide +kernel) (by decide +kernel)
  refine ⟨(forms_read_exactly.1.2 _ _ hmixed).1.2 ⟨by decide +kernel, fun c hc => ?_⟩, ?_⟩
  · exact of_decide_eq_true (List.all_eq_true.1 hdigits c hc)
  · exact ((forms_read_exactly.1.2 _ _ hother).2.2 _).2 ⟨_, .notBytes hfault, by decide +kernel⟩

end CoinTransfer.Address
