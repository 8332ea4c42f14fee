import CoinTransfer.Bech32.Symbol

/-!
# CoinTransfer.Bech32.Regroup

Bytes as symbols and symbols as bytes.  Both are read as one row of bits, most
significant first, and the row is cut again: into groups of five, the last one
filled up with zeros, or into groups of eight, where bits that do not fill a
byte are dropped, whatever their number and value.
-/

namespace CoinTransfer.Bech32

/-! ## Rows of bits -/

/-- The bits of a word, most significant first. -/
def bits {w : Nat} (x : BitVec w) : List Bool := (List.range w).map x.getMsbD

/-- The word of a row of bits, most significant first. -/
def word (w : Nat) (row : List Bool) : BitVec w :=
  row.foldl (fun x b => (x <<< 1) ||| (BitVec.ofBool b).setWidth w) 0

@[simp] theorem length_bits {w : Nat} (x : BitVec w) : (bits x).length = w := by simp [bits]

/-- A symbol is the word of its bits. -/
theorem word_bits_symbol (s : Symbol) : word 5 (bits s) = s := by
  revert s; decide

/-! ## Groups of five -/

/-- The symbols of a row of bits; zeros fill the last one up. -/
def symbolsOfBits : List Bool → List Symbol
  | a :: b :: c :: d :: e :: rest => word 5 [a, b, c, d, e] :: symbolsOfBits rest
  | [a, b, c, d] => [word 5 [a, b, c, d, false]]
  | [a, b, c] => [word 5 [a, b, c, false, false]]
  | [a, b] => [word 5 [a, b, false, false, false]]
  | [a] => [word 5 [a, false, false, false, false]]
  | [] => []

/-- The symbols that stand for a list of bytes. -/
def symbolsOfBytes (bytes : List UInt8) : List Symbol :=
  symbolsOfBits (bytes.flatMap fun b => bits b.toBitVec)

/-! ## Groups of eight -/

/-- The whole bytes of a row of bits. -/
def bytesOfBits : List Bool → List UInt8
  | a :: b :: c :: d :: e :: f :: g :: h :: rest =>
      ⟨word 8 [a, b, c, d, e, f, g, h]⟩ :: bytesOfBits rest
  | _ => []

/-- The whole bytes that a list of symbols stands for. -/
def bytesOfSymbols (symbols : List Symbol) : List UInt8 := bytesOfBits (symbols.flatMap bits)

/-! ## Read back -/

/-- Five bits are the bits of their word. -/
theorem bits_word_five : ∀ a b c d e : Bool, bits (word 5 [a, b, c, d, e]) = [a, b, c, d, e] := by
  decide

/-- The symbols of a row hold its bits and fewer than five zeros. -/
theorem flatMap_bits_symbolsOfBits (row : List Bool) :
    ∃ zeros : List Bool, zeros.length < 5 ∧ (symbolsOfBits row).flatMap bits = row ++ zeros := by
  fun_induction symbolsOfBits row with
  | case1 a b c d e rest ih =>
    obtain ⟨zeros, hz, h⟩ := ih
    exact ⟨zeros, hz, by simp [bits_word_five, h]⟩
  | case2 a b c d => exact ⟨[false], by decide, by simp [bits_word_five]⟩
  | case3 a b c => exact ⟨[false, false], by decide, by simp [bits_word_five]⟩
  | case4 a b => exact ⟨[false, false, false], by decide, by simp [bits_word_five]⟩
  | case5 a => exact ⟨[false, false, false, false], by decide, by simp [bits_word_five]⟩
  | case6 => exact ⟨[], by decide, rfl⟩

/-- A byte is the word of its bits. -/
theorem word_bits_byte : ∀ x : BitVec 8, word 8 (bits x) = x := by decide +kernel

/-- The first eight bits make up the first byte. -/
theorem bytesOfBits_bits_append (b : UInt8) (rest : List Bool) :
    bytesOfBits (bits b.toBitVec ++ rest) = b :: bytesOfBits rest := by
  have h := word_bits_byte b.toBitVec
  simp only [bits, List.range, List.range.loop, List.map, List.cons_append, List.nil_append,
    bytesOfBits] at *
  rw [h]

/-- Bytes are read back from their bits, and fewer than eight more do not matter. -/
theorem bytesOfBits_append_of_length_lt {more : List Bool} (h : more.length < 8)
    (bytes : List UInt8) :
    bytesOfBits ((bytes.flatMap fun b => bits b.toBitVec) ++ more) = bytes := by
  induction bytes with
  | nil =>
    rw [List.flatMap_nil, List.nil_append]
    unfold bytesOfBits
    split
    · simp at h; omega
    · rfl
  | cons b bytes ih => rw [List.flatMap_cons, List.append_assoc, bytesOfBits_bits_append, ih]

/-- Bytes are read back from their symbols. -/
@[simp] theorem bytesOfSymbols_symbolsOfBytes (bytes : List UInt8) :
    bytesOfSymbols (symbolsOfBytes bytes) = bytes := by
  obtain ⟨zeros, hz, h⟩ := flatMap_bits_symbolsOfBits (bytes.flatMap fun b => bits b.toBitVec)
  rw [bytesOfSymbols, symbolsOfBytes, h, bytesOfBits_append_of_length_lt (by omega)]

end CoinTransfer.Bech32
