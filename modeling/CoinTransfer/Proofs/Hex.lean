import CoinTransfer.Hex
import CoinTransfer.Proofs.Text.Ascii

/-!
# CoinTransfer.Proofs.Hex

Which texts are bytes in hexadecimal, and what is reported of the others.  The reader works
on the bytes of a text, but only ASCII stands for digits, so the texts it reads are those
that are written, in either case (`decode_eq_ok_iff`).  Any other text has one `Fault`, which
is the one reported (`decode_eq_error_iff`): an odd number of bytes, or else the first byte
that is no digit.
-/

namespace CoinTransfer.Hex

variable {b v : UInt8} {c : Char} {bytes out : List UInt8} {text : List Char}

/-! ## Digits -/

/-- The characters of digits, of either case. -/
def alphabet : List Char := "0123456789abcdefABCDEF".toList

/-- The bytes that have a value are those of the alphabet. -/
theorem isSome_digit?_iff : (digit? b).isSome ↔ b ∈ Text.utf8 alphabet := by
  have hall : ∀ n < 256, (digit? (UInt8.ofNat n)).isSome ↔ UInt8.ofNat n ∈ Text.utf8 alphabet := by
    decide +kernel
  simpa using hall b.toNat b.toNat_lt

/-- The bytes that are no digits are those outside of the alphabet. -/
theorem digit?_eq_none_iff : digit? b = none ↔ b ∉ Text.utf8 alphabet := by
  rw [← isSome_digit?_iff, Option.not_isSome_iff_eq_none]

/-- A digit stands for half a byte. -/
theorem lt_of_digit?_eq_some (h : digit? b = some v) : v < 16 := by
  grind [digit?]

/-- Bytes beyond ASCII are no digits. -/
theorem digit?_eq_none_of_le (h : 128 ≤ b) : digit? b = none := by
  grind [digit?]

/-! ## Characters of digits -/

/-- Beyond ASCII no byte is a digit. -/
theorem digit?_eq_none_of_mem_utf8EncodeChar (h : 128 ≤ c.toNat)
    (hb : b ∈ String.utf8EncodeChar c) : digit? b = none :=
  digit?_eq_none_of_le (Text.le_of_mem_utf8EncodeChar h hb)

theorem toNat_lt_of_mem_alphabet (h : c ∈ alphabet) : c.toNat < 128 := by
  have hall : alphabet.all (·.toNat < 128) = true := by decide +kernel
  simpa using List.all_eq_true.1 hall c h

/-- A character is a digit if the bytes of its form are. -/
theorem forall_mem_utf8EncodeChar_iff :
    (∀ b ∈ String.utf8EncodeChar c, b ∈ Text.utf8 alphabet) ↔ c ∈ alphabet := by
  refine ⟨fun h => ?_, fun hc b hb => List.mem_flatMap.2 ⟨c, hc, hb⟩⟩
  by_cases hascii : c.toNat < 128
  · have hall : ∀ n < 128, UInt8.ofNat n ∈ Text.utf8 alphabet → Char.ofNat n ∈ alphabet := by
      decide +kernel
    rw [Text.utf8EncodeChar_of_lt hascii, List.forall_mem_singleton] at h
    simpa using hall c.toNat hascii h
  · obtain ⟨b, rest, hform⟩ := List.exists_cons_of_ne_nil (String.utf8EncodeChar_ne_nil (c := c))
    have hb : b ∈ String.utf8EncodeChar c := hform ▸ List.mem_cons_self
    have hnone := digit?_eq_none_of_mem_utf8EncodeChar (Nat.le_of_not_lt hascii) hb
    exact absurd (h b hb) (digit?_eq_none_iff.1 hnone)

/-- The bytes of a text are digits if its characters are. -/
theorem forall_mem_utf8_iff :
    (∀ b ∈ Text.utf8 text, b ∈ Text.utf8 alphabet) ↔ ∀ c ∈ text, c ∈ alphabet := by
  simp only [← forall_mem_utf8EncodeChar_iff, ← List.forall_mem_flatMap]
  rfl

/-- A value comes first if the first character is, in lower case, the digit of the value. -/
theorem map_digit?_utf8EncodeChar_append_iff (hv : v < 16) {rest : List UInt8}
    {values : List (Option UInt8)} :
    (String.utf8EncodeChar c ++ rest).map digit? = some v :: values ↔
      c.toLower = Nat.digitChar v.toNat ∧ rest.map digit? = values := by
  have hlt : v.toNat < 16 := UInt8.lt_iff_toNat_lt.1 hv
  by_cases hascii : c.toNat < 128
  · have hall : ∀ n < 128, ∀ m < 16, digit? (UInt8.ofNat n) = some (UInt8.ofNat m) ↔
        (Char.ofNat n).toLower = Nat.digitChar m := by
      decide +kernel
    have hdigit := hall c.toNat hascii v.toNat hlt
    rw [UInt8.ofNat_toNat, Char.ofNat_toNat] at hdigit
    rw [Text.utf8EncodeChar_of_lt hascii, List.singleton_append, List.map_cons, List.cons.injEq, hdigit]
  · -- Neither the character nor the first byte of its form is a digit.
    have hdigit : ∀ m < 16, (Nat.digitChar m).toNat < 128 := by decide
    obtain ⟨b, more, hform⟩ := List.exists_cons_of_ne_nil (String.utf8EncodeChar_ne_nil (c := c))
    have hnone : digit? b = none :=
      digit?_eq_none_of_mem_utf8EncodeChar (Nat.le_of_not_lt hascii) (hform ▸ List.mem_cons_self)
    constructor
    · intro h
      rw [hform, List.cons_append, List.map_cons, hnone] at h
      cases h
    · rintro ⟨h, -⟩
      exact absurd (Text.toNat_lt_of_toLower (h ▸ hdigit _ hlt)) hascii

/-- A text has values if, in lower case, it consists of their digits. -/
theorem map_digit?_utf8_iff {values : List UInt8} (h : ∀ v ∈ values, v < 16) :
    (Text.utf8 text).map digit? = values.map some ↔
      text.map Char.toLower = values.map fun v => Nat.digitChar v.toNat := by
  induction text generalizing values with
  | nil => cases values <;> simp
  | cons c text ih =>
    cases values with
    | nil => simp
    | cons v values =>
      obtain ⟨hv, hvalues⟩ := List.forall_mem_cons.1 h
      rw [Text.utf8_cons, List.map_cons, map_digit?_utf8EncodeChar_append_iff hv, ih hvalues,
        List.map_cons, List.map_cons, List.cons.injEq]

/-! ## Pairs of digits -/

/-- The values of the digits of bytes. -/
def nibbles (bytes : List UInt8) : List UInt8 := bytes.flatMap fun b => [b / 16, b % 16]

@[simp] theorem nibbles_cons (b : UInt8) (bytes : List UInt8) :
    nibbles (b :: bytes) = b / 16 :: b % 16 :: nibbles bytes := rfl

/-- Halves of bytes are numbers below sixteen. -/
theorem lt_of_mem_nibbles (h : v ∈ nibbles bytes) : v < 16 := by
  obtain ⟨b, -, hv⟩ := List.mem_flatMap.1 h
  have hb := b.toNat_lt
  obtain rfl | rfl : v = b / 16 ∨ v = b % 16 := by simpa using hv
  · rw [UInt8.lt_iff_toNat_lt, UInt8.toNat_div]
    simp
    omega
  · rw [UInt8.lt_iff_toNat_lt, UInt8.toNat_mod]
    simp
    omega

/-- Bytes are written as the digits of their halves. -/
theorem digits_eq_map_nibbles (bytes : List UInt8) :
    digits bytes = (nibbles bytes).map fun v => Nat.digitChar v.toNat := by
  have hbyte (b : UInt8) : ofByte b = [b / 16, b % 16].map fun v => Nat.digitChar v.toNat := by
    simp [ofByte]
  simp only [digits, nibbles, List.map_flatMap, ← hbyte]

/-- There are two halves to a byte. -/
theorem length_nibbles (bytes : List UInt8) : (nibbles bytes).length = 2 * bytes.length := by
  rw [← length_digits, digits_eq_map_nibbles, List.length_map]

section Pairs

variable {high low x y : UInt8} {rest : List UInt8} {position : Nat}

/-- Two digits are read as one byte. -/
theorem decodePairs_of_some (hx : digit? high = some x) (hy : digit? low = some y) :
    decodePairs position (high :: low :: rest) =
      (decodePairs (position + 2) rest).map ((16 * x + y) :: ·) := by
  simp only [decodePairs, digitAt, hx, hy]
  cases decodePairs (position + 2) rest <;> rfl

/-- A bad first digit of a pair is reported at its own position. -/
theorem decodePairs_of_high (hx : digit? high = none) :
    decodePairs position (high :: low :: rest) = .error (.badDigit high position) := by
  simp only [decodePairs, digitAt, hx]
  rfl

/-- A bad second digit of a pair is reported at the position after the first. -/
theorem decodePairs_of_low (hx : digit? high = some x) (hy : digit? low = none) :
    decodePairs position (high :: low :: rest) = .error (.badDigit low (position + 1)) := by
  simp only [decodePairs, digitAt, hx, hy]
  rfl

theorem length_mod_two_of_pair (h : (high :: low :: rest).length % 2 = 0) :
    rest.length % 2 = 0 := by
  simp only [List.length_cons] at h
  omega

end Pairs

/-- A byte is made of its two halves. -/
theorem mul_add_eq_iff {x y : UInt8} (hx : x < 16) (hy : y < 16) :
    16 * x + y = b ↔ x = b / 16 ∧ y = b % 16 := by
  have hx : x.toNat < 16 := UInt8.lt_iff_toNat_lt.1 hx
  have hy : y.toNat < 16 := UInt8.lt_iff_toNat_lt.1 hy
  have hb := b.toNat_lt
  have h16 : (16 : UInt8).toNat = 16 := rfl
  simp only [← UInt8.toNat_inj, UInt8.toNat_add, UInt8.toNat_mul, UInt8.toNat_div,
    UInt8.toNat_mod, h16]
  omega

/-- Pairs of digits are read as the bytes whose values they have. -/
theorem decodePairs_eq_ok_iff {position : Nat} :
    decodePairs position bytes = .ok out ↔ bytes.map digit? = (nibbles out).map some := by
  induction position, bytes using decodePairs.induct generalizing out with
  | case1 position => cases out <;> simp [decodePairs, nibbles]
  | case2 position b => cases out <;> simp [decodePairs, nibbles]
  | case3 position high low rest ih =>
    cases hx : digit? high with
    | none =>
      rw [decodePairs_of_high hx]
      cases out <;> simp [hx, nibbles]
    | some x =>
      cases hy : digit? low with
      | none =>
        rw [decodePairs_of_low hx hy]
        cases out <;> simp [hx, hy, nibbles]
      | some y =>
        have hsum {b : UInt8} : 16 * x + y = b ↔ x = b / 16 ∧ y = b % 16 :=
          mul_add_eq_iff (lt_of_digit?_eq_some hx) (lt_of_digit?_eq_some hy)
        rw [decodePairs_of_some hx hy]
        cases out with
        | nil => cases decodePairs (position + 2) rest <;> simp [Except.map, nibbles]
        | cons b out =>
          have hmap : (decodePairs (position + 2) rest).map ((16 * x + y) :: ·) = .ok (b :: out) ↔
              16 * x + y = b ∧ decodePairs (position + 2) rest = .ok out := by
            cases decodePairs (position + 2) rest <;> simp [Except.map]
          rw [hmap, ih, hsum]
          simp [hx, hy, and_assoc]

/-- **Reading**: the texts that are read as bytes are those that are written for them, in
either case. -/
theorem decode_eq_ok_iff : decode text = .ok out ↔ text.map Char.toLower = digits out := by
  rw [digits_eq_map_nibbles, ← map_digit?_utf8_iff fun _ => lt_of_mem_nibbles]
  have heven (h : (Text.utf8 text).map digit? = (nibbles out).map some) :
      ¬ (Text.utf8 text).length % 2 = 1 := by
    have hlen := congrArg List.length h
    rw [List.length_map, List.length_map, length_nibbles] at hlen
    omega
  rw [decode]
  constructor
  · intro h
    split at h
    · cases h
    · exact decodePairs_eq_ok_iff.1 h
  · intro h
    rw [if_neg (heven h)]
    exact decodePairs_eq_ok_iff.2 h

/-! ## Faults -/

/-- What is wrong with bytes that are not pairs of digits. -/
inductive Fault : List UInt8 → Error → Prop
  | oddLength {bytes : List UInt8} (h : bytes.length % 2 = 1) : Fault bytes .oddLength
  /-- All bytes before this one are digits. -/
  | badDigit {front back : List UInt8} {b : UInt8} (even : (front ++ b :: back).length % 2 = 0)
      (digits : ∀ x ∈ front, x ∈ Text.utf8 alphabet) (bad : b ∉ Text.utf8 alphabet) :
      Fault (front ++ b :: back) (.badDigit b front.length)

/-- Every member of the alphabet is a digit. -/
theorem exists_digit?_eq_some (h : b ∈ Text.utf8 alphabet) : ∃ v, digit? b = some v :=
  Option.isSome_iff_exists.1 (isSome_digit?_iff.2 h)

/-- Pairs of digits are read. -/
theorem exists_decodePairs_eq_ok (position : Nat) (bytes : List UInt8)
    (heven : bytes.length % 2 = 0) (hdigits : ∀ b ∈ bytes, b ∈ Text.utf8 alphabet) :
    ∃ out, decodePairs position bytes = .ok out := by
  induction position, bytes using decodePairs.induct with
  | case1 position => exact ⟨[], rfl⟩
  | case2 position b => cases heven
  | case3 position high low rest ih =>
    simp only [List.forall_mem_cons] at hdigits
    obtain ⟨hhigh, hlow, hrest⟩ := hdigits
    obtain ⟨x, hx⟩ := exists_digit?_eq_some hhigh
    obtain ⟨y, hy⟩ := exists_digit?_eq_some hlow
    obtain ⟨out, hout⟩ := ih (length_mod_two_of_pair heven) hrest
    exact ⟨(16 * x + y) :: out, by rw [decodePairs_of_some hx hy, hout]; rfl⟩

/-- The first byte that is no digit is reported with its position. -/
theorem decodePairs_of_bad (position : Nat) (front : List UInt8) {back : List UInt8}
    (heven : (front ++ b :: back).length % 2 = 0)
    (hdigits : ∀ x ∈ front, x ∈ Text.utf8 alphabet) (hbad : b ∉ Text.utf8 alphabet) :
    decodePairs position (front ++ b :: back) = .error (.badDigit b (position + front.length)) := by
  induction position, front using decodePairs.induct with
  | case1 position =>
    cases back with
    | nil => cases heven
    | cons low rest => exact decodePairs_of_high (digit?_eq_none_iff.2 hbad)
  | case2 position high =>
    obtain ⟨x, hx⟩ := exists_digit?_eq_some (hdigits high List.mem_cons_self)
    exact decodePairs_of_low hx (digit?_eq_none_iff.2 hbad)
  | case3 position high low rest ih =>
    simp only [List.forall_mem_cons] at hdigits
    obtain ⟨hhigh, hlow, hrest⟩ := hdigits
    obtain ⟨x, hx⟩ := exists_digit?_eq_some hhigh
    obtain ⟨y, hy⟩ := exists_digit?_eq_some hlow
    rw [List.cons_append, List.cons_append, decodePairs_of_some hx hy,
      ih (length_mod_two_of_pair heven) hrest, List.length_cons, List.length_cons, Nat.add_assoc,
      Nat.add_comm 2]
    rfl

/-- Bytes have a fault unless they are pairs of digits. -/
theorem exists_fault_or (bytes : List UInt8) :
    (∃ e, Fault bytes e) ∨ bytes.length % 2 = 0 ∧ ∀ b ∈ bytes, b ∈ Text.utf8 alphabet := by
  obtain heven | hodd := Nat.mod_two_eq_zero_or_one bytes.length
  · cases hfind : bytes.find? (· ∉ Text.utf8 alphabet) with
    | none => exact .inr ⟨heven, by simpa using List.find?_eq_none.1 hfind⟩
    | some b =>
      obtain ⟨hbad, front, back, rfl, hfront⟩ := List.find?_eq_some_iff_append.1 hfind
      exact .inl ⟨_, .badDigit heven (by simpa using hfront) (by simpa using hbad)⟩
  · exact .inl ⟨_, .oddLength hodd⟩

/-- A text with a fault is refused for that fault. -/
theorem decode_of_fault {e : Error} (h : Fault (Text.utf8 text) e) : decode text = .error e := by
  rw [decode]
  generalize Text.utf8 text = bytes at h
  cases h with
  | oddLength h => exact if_pos h
  | badDigit even digits bad =>
    rw [if_neg (by omega), decodePairs_of_bad 0 _ even digits bad, Nat.zero_add]

/-- An even number of digits can always be read. -/
theorem exists_decode_eq_ok (heven : (Text.utf8 text).length % 2 = 0)
    (hdigits : ∀ b ∈ Text.utf8 text, b ∈ Text.utf8 alphabet) : ∃ out, decode text = .ok out := by
  rw [decode, if_neg (by omega)]
  exact exists_decodePairs_eq_ok 0 _ heven hdigits

/-- **Faults**: what is reported of a text is what is wrong with its bytes. -/
theorem decode_eq_error_iff {e : Error} : decode text = .error e ↔ Fault (Text.utf8 text) e := by
  refine ⟨fun h => ?_, decode_of_fault⟩
  obtain ⟨e', hfault⟩ | ⟨heven, hdigits⟩ := exists_fault_or (Text.utf8 text)
  · rw [decode_of_fault hfault, Except.error.injEq] at h
    exact h ▸ hfault
  · obtain ⟨out, hout⟩ := exists_decode_eq_ok heven hdigits
    rw [hout] at h
    cases h

/-- The texts of a number of bytes have twice as many characters, all of them digits. -/
theorem exists_decode_eq_ok_iff {n : Nat} :
    (∃ out, decode text = .ok out ∧ out.length = n) ↔
      text.length = 2 * n ∧ ∀ c ∈ text, c ∈ alphabet := by
  have hlength (h : ∀ c ∈ text, c ∈ alphabet) : (Text.utf8 text).length = text.length :=
    Text.length_utf8_of_ascii fun c hc => toNat_lt_of_mem_alphabet (h c hc)
  have hsize {out : List UInt8} (h : decode text = .ok out) : text.length = 2 * out.length := by
    rw [← length_digits, ← decode_eq_ok_iff.1 h, List.length_map]
  constructor
  · rintro ⟨out, hout, rfl⟩
    refine ⟨hsize hout, forall_mem_utf8_iff.1 ?_⟩
    obtain ⟨e, hfault⟩ | ⟨-, hdigits⟩ := exists_fault_or (Text.utf8 text)
    · rw [decode_of_fault hfault] at hout
      cases hout
    · exact hdigits
  · rintro ⟨hlen, hdigits⟩
    obtain ⟨out, hout⟩ := exists_decode_eq_ok (by rw [hlength hdigits]; omega)
      (forall_mem_utf8_iff.2 hdigits)
    have := hsize hout
    exact ⟨out, hout, by omega⟩

end CoinTransfer.Hex
