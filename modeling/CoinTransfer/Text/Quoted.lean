import CoinTransfer.Text.Unprintable

/-!
# CoinTransfer.Text.Quoted

Text in quotes, on one line: line ends and tabs have short escapes, the quote
and the backslash get a backslash in front, and whatever would not be seen is
written by its number.  Log lines show text fields this way, and error messages
show strings and single characters.
-/

namespace CoinTransfer.Text

/-- How one character is written between two `mark`s. -/
def escape (mark c : Char) : List Char :=
  if c = '\n' then ['\\', 'n']
  else if c = '\r' then ['\\', 'r']
  else if c = '\t' then ['\\', 't']
  else if c = '\x00' then ['\\', '0']
  else if c = '\\' ∨ c = mark then ['\\', c]
  else if isUnprintable c then
    ['\\', 'u', '\x7b'] ++ Nat.toDigits 16 c.toNat ++ ['\x7d']
  else [c]

/-- The text between two `mark`s. -/
def enclose (mark : Char) (s : List Char) : List Char :=
  mark :: s.flatMap (escape mark) ++ [mark]

def quote (s : String) : String := String.ofList (enclose '"' s.toList)

def quoteChar (c : Char) : String := String.ofList (enclose '\'' [c])

/-! ## One line stays one line -/

theorem digitChar_ne_newline : ∀ d < 16, Nat.digitChar d ≠ '\n' := by decide

/-- No digit of a number ends the line. -/
theorem newline_not_mem_toDigits {b : Nat} (hb : 1 < b) (hb' : b ≤ 16) (n : Nat) :
    '\n' ∉ Nat.toDigits b n := by
  induction n using Nat.strongRecOn with
  | ind n ih =>
    rw [Nat.toDigits_eq_if hb]
    split
    · next h =>
      exact fun hm => digitChar_ne_newline n (by omega) (List.mem_singleton.1 hm).symm
    · intro hm
      rcases List.mem_append.1 hm with hm | hm
      · exact ih (n / b) (Nat.div_lt_self (by omega) hb) hm
      · have hlast : n % b < b := Nat.mod_lt n (by omega)
        exact digitChar_ne_newline (n % b) (by omega) (List.mem_singleton.1 hm).symm

/-- Escaping takes line ends away. -/
theorem newline_not_mem_escape (mark c : Char) : '\n' ∉ escape mark c := by
  have := newline_not_mem_toDigits (b := 16) (by decide) (by decide) c.toNat
  unfold escape
  split
  · decide
  · repeat' split
    all_goals grind

/-- A text in quotes holds no line end, whatever is quoted. -/
theorem newline_not_mem_enclose {mark : Char} (hm : mark ≠ '\n') (s : List Char) :
    '\n' ∉ enclose mark s := by
  simp only [enclose, List.cons_append, List.mem_cons, List.mem_append, List.mem_flatMap,
    List.not_mem_nil, or_false, not_or, not_exists, not_and]
  exact ⟨hm.symm, fun c _ => newline_not_mem_escape mark c, hm.symm⟩

end CoinTransfer.Text
