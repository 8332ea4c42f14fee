/-!
# CoinTransfer.Text.Characters

Sets of characters: those given by ranges of code points, as Unicode's data files
have them, and the blank ones in the sense of Unicode's `White_Space` property, with
text without the blanks around it.  An address made of blanks counts as empty, a log
directive is read inside its blanks, and a time may have blanks between its parts;
all three mean this one set.
-/

namespace CoinTransfer.Text

/-! ## Ranges -/

/-- A set of code points: each pair holds the first and the last of one range. -/
abbrev Ranges := List (Nat × Nat)

/-- Whether one of the ranges holds the character. -/
def Ranges.contains (ranges : Ranges) (c : Char) : Bool :=
  ranges.any fun range => range.1 ≤ c.toNat && c.toNat ≤ range.2

/-! ## Blanks -/

/-- A character with the property `White_Space`. -/
def isBlank (c : Char) : Bool :=
  let n := c.toNat
  (0x09 ≤ n && n ≤ 0x0D) || n == 0x20 || n == 0x85 || n == 0xA0 || n == 0x1680 ||
    (0x2000 ≤ n && n ≤ 0x200A) || n == 0x2028 || n == 0x2029 || n == 0x202F ||
    n == 0x205F || n == 0x3000

/-- The text from its first character that is not blank. -/
def trimStart (s : List Char) : List Char := s.dropWhile isBlank

/-- The text up to its last character that is not blank. -/
def trimEnd (s : List Char) : List Char := (s.reverse.dropWhile isBlank).reverse

def trim (s : List Char) : List Char := trimEnd (trimStart s)

end CoinTransfer.Text
