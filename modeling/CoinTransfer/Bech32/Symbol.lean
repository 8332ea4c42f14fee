/-!
# CoinTransfer.Bech32.Symbol

The thirty-two symbols that the data part of a Bech32 text is made of.  A symbol
is five bits; the alphabet gives each a character, and leaves out `1`, `b`, `i`
and `o`, which are easily taken for others.  A character of either case stands
for its symbol, and symbols are written in lower case.
-/

namespace CoinTransfer.Bech32

/-- A group of five bits. -/
abbrev Symbol := BitVec 5

/-- The characters of the symbols, in the order of their values. -/
def alphabet : List Char :=
  ['q', 'p', 'z', 'r', 'y', '9', 'x', '8', 'g', 'f', '2', 't', 'v', 'd', 'w', '0',
   's', '3', 'j', 'n', '5', '4', 'k', 'h', 'c', 'e', '6', 'm', 'u', 'a', '7', 'l']

/-- The character of a symbol. -/
def charOfSymbol (s : Symbol) : Char := alphabet.get ⟨s.toNat, s.isLt⟩

/-- The symbol a character stands for, if it belongs to the alphabet. -/
def symbolOfChar? (c : Char) : Option Symbol :=
  (alphabet.idxOf? c.toLower).map (BitVec.ofNat 5)

/-- A written symbol is read back. -/
@[simp] theorem symbolOfChar?_charOfSymbol (s : Symbol) :
    symbolOfChar? (charOfSymbol s) = some s := by
  revert s; decide

/-- Only the symbol's own character, in either case, stands for it. -/
theorem toLower_eq_of_symbolOfChar? {c : Char} {s : Symbol} (h : symbolOfChar? c = some s) :
    c.toLower = charOfSymbol s := by
  obtain ⟨i, hi, rfl⟩ := Option.map_eq_some_iff.1 h
  obtain ⟨hlt, hc, -⟩ := List.idxOf?_eq_some_iff.1 hi
  have hi32 : i < 32 := hlt
  simp [charOfSymbol, Nat.mod_eq_of_lt hi32, hc]

/-- Symbols are written without capitals. -/
theorem isUpper_charOfSymbol (s : Symbol) : (charOfSymbol s).isUpper = false := by
  revert s; decide

/-- The separator stands for no symbol. -/
theorem charOfSymbol_ne_one (s : Symbol) : charOfSymbol s ≠ '1' := by
  revert s; decide

end CoinTransfer.Bech32
