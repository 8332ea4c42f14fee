import CoinTransfer.Bech32.Regroup

/-!
# CoinTransfer.Proofs.Bech32.Regroup

Which symbols stand for given bytes.  The reader drops the bits that do not fill a
byte, up to seven of them, and a symbol has only five, so a symbol that follows
those of the bytes may be dropped as a whole.  For bytes that fill their symbols,
as twenty do, this is the one thing that the reader leaves open
(`bytesOfSymbols_eq_iff`).
-/

namespace CoinTransfer.Bech32

theorem length_flatMap_bits {α : Type} {w : Nat} (f : α → BitVec w) (l : List α) :
    (l.flatMap fun a => bits (f a)).length = w * l.length := by
  induction l with
  | nil => rfl
  | cons a l ih =>
    rw [List.flatMap_cons, List.length_append, length_bits, ih, List.length_cons, Nat.mul_succ,
      Nat.add_comm]

/-! ## Symbols from their bits -/

/-- The first five bits make up the first symbol. -/
theorem symbolsOfBits_bits_append (s : Symbol) (row : List Bool) :
    symbolsOfBits (bits s ++ row) = s :: symbolsOfBits row := by
  have h := word_bits_symbol s
  simp only [bits, List.range, List.range.loop, List.map, List.cons_append, List.nil_append,
    symbolsOfBits] at *
  rw [h]

theorem symbolsOfBits_flatMap_bits (symbols : List Symbol) :
    symbolsOfBits (symbols.flatMap bits) = symbols := by
  induction symbols with
  | nil => rfl
  | cons s symbols ih => rw [List.flatMap_cons, symbolsOfBits_bits_append, ih]

/-! ## Bytes from their bits -/

/-- Eight bits are the bits of their word. -/
theorem bits_word_eight : ∀ a b c d e f g h : Bool,
    bits (word 8 [a, b, c, d, e, f, g, h]) = [a, b, c, d, e, f, g, h] := by
  decide +kernel

/-- A row is the bits of its whole bytes and fewer than eight more. -/
theorem flatMap_bits_bytesOfBits (row : List Bool) :
    ∃ more : List Bool, more.length < 8 ∧
      row = ((bytesOfBits row).flatMap fun b => bits b.toBitVec) ++ more := by
  fun_induction bytesOfBits row with
  | case1 a b c d e f g h rest ih =>
    obtain ⟨more, hmore, hrow⟩ := ih
    refine ⟨more, hmore, ?_⟩
    rw [List.flatMap_cons, bits_word_eight, List.append_assoc, ← hrow]
    rfl
  | case2 row hshort =>
    refine ⟨row, ?_, rfl⟩
    match row, hshort with
    | [], _ | [_], _ | [_, _], _ | [_, _, _], _ | [_, _, _, _], _ | [_, _, _, _, _], _
    | [_, _, _, _, _, _], _ | [_, _, _, _, _, _, _], _ => simp
    | a :: b :: c :: d :: e :: f :: g :: h :: rest, hshort =>
      exact absurd rfl (hshort a b c d e f g h rest)

/-! ## Bytes that fill their symbols -/

variable {bytes : List UInt8}

theorem flatMap_bits_symbolsOfBytes (h : bytes.length % 5 = 0) :
    (symbolsOfBytes bytes).flatMap bits = bytes.flatMap fun b => bits b.toBitVec := by
  obtain ⟨zeros, hz, hrow⟩ := flatMap_bits_symbolsOfBits (bytes.flatMap fun b => bits b.toBitVec)
  have hlen := congrArg List.length hrow
  rw [List.length_append, length_flatMap_bits, length_flatMap_bits] at hlen
  have hnil : zeros = [] := List.length_eq_zero_iff.1 (by omega)
  rw [symbolsOfBytes, hrow, hnil, List.append_nil]

theorem length_symbolsOfBytes (h : bytes.length % 5 = 0) :
    5 * (symbolsOfBytes bytes).length = 8 * bytes.length := by
  have hlen := congrArg List.length (flatMap_bits_symbolsOfBytes h)
  rwa [length_flatMap_bits, length_flatMap_bits] at hlen

/-- A list without a second element is an option. -/
theorem exists_eq_toList {α : Type} {l : List α} (h : l.length ≤ 1) :
    ∃ o : Option α, l = o.toList := by
  obtain _ | ⟨x, _ | ⟨y, rest⟩⟩ := l
  · exact ⟨none, rfl⟩
  · exact ⟨some x, rfl⟩
  · simp at h

/-- Symbols stand for bytes that fill theirs exactly if they are those of the bytes,
or one more than those. -/
theorem bytesOfSymbols_eq_iff {data : List Symbol} (h : bytes.length % 5 = 0) :
    bytesOfSymbols data = bytes ↔
      ∃ extra : Option Symbol, data = symbolsOfBytes bytes ++ extra.toList := by
  constructor
  · intro hbytes
    obtain ⟨more, hmore, hrow⟩ := flatMap_bits_bytesOfBits (data.flatMap bits)
    rw [← bytesOfSymbols, hbytes] at hrow
    have hcount : 5 * data.length = 8 * bytes.length + more.length := by
      have hlen := congrArg List.length hrow
      rwa [List.length_append, length_flatMap_bits, length_flatMap_bits] at hlen
    have hsymbols := length_symbolsOfBytes h
    -- As many symbols as the bytes have hold the bits of the bytes, and nothing else.
    obtain ⟨front, back, rfl, hfront⟩ : ∃ front back, data = front ++ back ∧
        front.length = (symbolsOfBytes bytes).length :=
      ⟨_, _, (List.take_append_drop (symbolsOfBytes bytes).length data).symm,
        List.length_take_of_le (by omega)⟩
    have hsame : front.flatMap bits = bytes.flatMap fun b => bits b.toBitVec := by
      rw [List.flatMap_append] at hrow
      refine (List.append_inj hrow ?_).1
      rw [length_flatMap_bits, length_flatMap_bits]
      omega
    have heq : symbolsOfBytes bytes = front := by
      rw [symbolsOfBytes, ← hsame, symbolsOfBits_flatMap_bits]
    -- The bits that are left are too few for two symbols.
    rw [List.length_append] at hcount
    obtain ⟨extra, hextra⟩ := exists_eq_toList (l := back) (by omega)
    exact ⟨extra, by rw [heq, hextra]⟩
  · rintro ⟨extra, rfl⟩
    rw [bytesOfSymbols, List.flatMap_append, flatMap_bits_symbolsOfBytes h]
    refine bytesOfBits_append_of_length_lt ?_ bytes
    cases extra <;> simp

end CoinTransfer.Bech32
