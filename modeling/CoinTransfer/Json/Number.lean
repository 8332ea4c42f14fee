import CoinTransfer.Json.Reader

/-!
# CoinTransfer.Json.Number

Numbers of JSON.  A numeral without a fraction and an exponent is an integer if
it fits in sixty-four bits, signed or not; any other one is a float, of which
only its range matters here: a float beyond the greatest double is a fault.
-/

namespace CoinTransfer.Json

/-- A number as it is told apart here. -/
inductive Number where
  | integer (value : Int)
  | float
deriving DecidableEq, Repr

def Number.found : Number → Found
  | .integer value => .integer value
  | .float => .float

/-! ## Writing -/

/-- A natural number in decimal. -/
def writeNat (n : Nat) : List Char := Nat.toDigits 10 n

/-! ## Reading numerals -/

/-- The parts of a numeral; the digits are there to be read in order. -/
structure Numeral where
  negative : Bool
  whole : List Char
  fraction : Option (List Char)
  exponent : Option (Bool × List Char)
deriving DecidableEq, Repr

def digits : Reader (List Char) := do
  let text ← get
  set (text.dropWhile Char.isDigit)
  return text.takeWhile Char.isDigit

/-- Takes digits, of which there has to be one; `atEnd` is reported if the text
ends instead. -/
def someDigits (atEnd : Error) : Reader (List Char) := do
  match ← digits with
  | [] => throw (if (← get).isEmpty then atEnd else .invalidNumber)
  | ds => return ds

/-- The digits before the point, which do not start with an idle zero. -/
def wholePart (atEnd : Error) : Reader (List Char) := do
  match ← someDigits atEnd with
  | '0' :: _ :: _ => throw .invalidNumber
  | ds => return ds

/-- The digits after a point, if there is one. -/
def fractionPart (atEnd : Error) : Reader (Option (List Char)) := do
  if (← peek?) = some '.' then
    advance
    return some (← someDigits atEnd)
  return none

/-- The sign and the digits of an exponent, if there is one. -/
def exponentPart (atEnd : Error) : Reader (Option (Bool × List Char)) := do
  match ← peek? with
  | some 'e' | some 'E' =>
    advance
    let mark ← peek?
    if mark = some '+' ∨ mark = some '-' then advance
    return some (mark == some '-', ← someDigits atEnd)
  | _ => return none

/-- A numeral; `atEnd` is reported if the text ends inside it. -/
def numeral (atEnd : Error) : Reader Numeral := do
  let negative := (← peek?) == some '-'
  if negative then advance
  let whole ← wholePart atEnd
  let fraction ← fractionPart atEnd
  return ⟨negative, whole, fraction, ← exponentPart atEnd⟩

/-! ## Values -/

/-- The number that decimal digits stand for. -/
def valueOfDigits (ds : List Char) : Nat := Nat.ofDigitChars 10 ds 0

/-- A significand of at most sixty-four bits and a power of ten. -/
structure Scaled where
  significand : Nat
  exponent : Int

/-- Takes a digit into the significand, unless it or one before it did not fit. -/
def Scaled.push (full : Bool) (s : Scaled) (d : Char) : Option Scaled :=
  let n := 10 * s.significand + (d.toNat - '0'.toNat)
  if full ∨ UInt64.size ≤ n then none else some ⟨n, s.exponent⟩

/-- Takes in the digits before the point; each one that does not fit multiplies
by ten. -/
def Scaled.whole (full : Bool) (s : Scaled) : List Char → Scaled
  | [] => s
  | d :: ds =>
      match s.push full d with
      | some s' => s'.whole false ds
      | none => Scaled.whole true ⟨s.significand, s.exponent + 1⟩ ds

/-- Takes in the digits after the point; those that do not fit are dropped. -/
def Scaled.fraction (s : Scaled) : List Char → Scaled
  | [] => s
  | d :: ds =>
      match s.push false d with
      | some s' => Scaled.fraction ⟨s'.significand, s'.exponent - 1⟩ ds
      | none => s

/-- The significand and the power of ten of a numeral. -/
def Numeral.scaled (n : Numeral) : Scaled :=
  let s := (Scaled.whole false ⟨0, 0⟩ n.whole).fraction (n.fraction.getD [])
  match n.exponent with
  | none => s
  | some (negative, ds) =>
      let e : Int := valueOfDigits ds
      ⟨s.significand, s.exponent + if negative then -e else e⟩

/-- The double nearest to a natural number, its size aside: fifty-three bits are kept,
and a number halfway between two goes to the even one. -/
def nearestDouble (n : Nat) : Nat :=
  let unit := 1 <<< (n.log2 + 1 - 53)
  let kept := n / unit
  let lost := n % unit
  if unit < 2 * lost ∨ 2 * lost = unit ∧ kept % 2 = 1 then (kept + 1) * unit else kept * unit

/-- Whether a float is beyond the greatest double.  The significand and the power
of ten are rounded to doubles before they are multiplied, and so is their product. -/
def Scaled.overflows (s : Scaled) : Bool :=
  s.significand ≠ 0 && 0 ≤ s.exponent &&
    (308 < s.exponent ||
      1 <<< 1024 ≤
        nearestDouble (nearestDouble s.significand * nearestDouble (Nat.pow 10 s.exponent.toNat)))

/-- The value of a numeral that is an integer of sixty-four bits.  Zero with a
sign is none. -/
def Numeral.integer? (n : Numeral) : Option Int :=
  let value := valueOfDigits n.whole
  if n.fraction.isSome ∨ n.exponent.isSome then none
  else if n.negative then if 0 < value ∧ value ≤ 1 <<< 63 then some (-value) else none
  else if value < UInt64.size then some value
  else none

/-- Reads a number, from its sign or its first digit on. -/
def number : Reader Number := do
  let n ← numeral .endInValue
  match n.integer? with
  | some value => return .integer value
  | none => if n.scaled.overflows then throw .numberOutOfRange else return .float

/-! ## Read back -/

/-- Only zero is written with a zero in front, and then nothing follows. -/
theorem writeNat_ne_zero_cons (n : Nat) (c : Char) (ds : List Char) :
    writeNat n ≠ '0' :: c :: ds := by
  unfold writeNat
  induction n using Nat.strongRecOn generalizing c ds with
  | ind n ih =>
    rw [Nat.toDigits_eq_if (by decide)]
    split
    · simp
    · intro h
      cases hd : Nat.toDigits 10 (n / 10) with
      | nil => exact Nat.toDigits_ne_nil hd
      | cons d rest =>
        cases rest with
        | cons e rest =>
          rw [hd, List.cons_append, List.cons.injEq] at h
          rw [h.1] at hd
          exact ih (n / 10) (by omega) _ _ hd
        | nil =>
          rw [hd, List.cons_append, List.cons.injEq] at h
          have hv : Nat.ofDigitChars 10 (Nat.toDigits 10 (n / 10)) 0 = n / 10 :=
            Nat.ofDigitChars_toDigits (by decide) (by decide)
          rw [hd, h.1] at hv
          have : Nat.ofDigitChars 10 ['0'] 0 = 0 := rfl
          omega

/-- A text that a number before it does not go on into. -/
def EndsNumber (rest : List Char) : Prop :=
  ∀ c ∈ rest.head?, c.isDigit = false ∧ c ≠ '.' ∧ c ≠ 'e' ∧ c ≠ 'E'

/-- The digits of a number are taken to their end. -/
theorem digits_writeNat (n : Nat) {rest : List Char} (h : EndsNumber rest) :
    digits (writeNat n ++ rest) = .ok (writeNat n, rest) := by
  have hd : ∀ c ∈ writeNat n, c.isDigit = true := fun c hc =>
    Nat.isDigit_of_mem_toDigits (by decide) (by decide) hc
  have ht : rest.takeWhile Char.isDigit = [] := by
    cases rest with
    | nil => rfl
    | cons c rest => simp [(h c rfl).1]
  have hr : rest.dropWhile Char.isDigit = rest := by
    cases rest with
    | nil => rfl
    | cons c rest => simp [(h c rfl).1]
  change Except.ok ((writeNat n ++ rest).takeWhile Char.isDigit,
    (writeNat n ++ rest).dropWhile Char.isDigit) = _
  rw [List.takeWhile_append_of_pos hd, List.dropWhile_append_of_pos hd, ht, hr, List.append_nil]

/-- A written number has no idle zero. -/
theorem wholePart_writeNat (atEnd : Error) (n : Nat) {rest : List Char} (h : EndsNumber rest) :
    wholePart atEnd (writeNat n ++ rest) = .ok (writeNat n, rest) := by
  have hs : someDigits atEnd (writeNat n ++ rest) = .ok (writeNat n, rest) := by
    refine (bind_of_ok (digits_writeNat n h)).trans ?_
    change _ = (pure (writeNat n) : Reader (List Char)) rest
    apply congrFun
    split
    · next h0 => exact absurd h0 Nat.toDigits_ne_nil
    · rfl
  refine (bind_of_ok hs).trans ?_
  change _ = (pure (writeNat n) : Reader (List Char)) rest
  apply congrFun
  split
  · next h0 => exact absurd h0 (writeNat_ne_zero_cons n _ _)
  · rfl

/-- A written number is a numeral without sign, fraction and exponent. -/
theorem numeral_writeNat (atEnd : Error) (n : Nat) {rest : List Char} (h : EndsNumber rest) :
    numeral atEnd (writeNat n ++ rest) = .ok (⟨false, writeNat n, none, none⟩, rest) := by
  have hm : ((writeNat n ++ rest).head? == some '-') = false := by
    cases hw : writeNat n with
    | nil => exact absurd hw Nat.toDigits_ne_nil
    | cons c ds =>
      have : c.isDigit = true :=
        Nat.isDigit_of_mem_toDigits (by decide) (by decide)
          (hw ▸ List.mem_cons_self : c ∈ writeNat n)
      have : c ≠ '-' := by rintro rfl; exact absurd this (by decide)
      simp [this]
  have hf : fractionPart atEnd rest = .ok (none, rest) := by
    refine (bind_of_ok (peek?_apply rest)).trans ?_
    have hp : rest.head? ≠ some '.' := fun hp => (h '.' hp).2.1 rfl
    rw [if_neg hp]
    rfl
  have he : exponentPart atEnd rest = .ok (none, rest) := by
    refine (bind_of_ok (peek?_apply rest)).trans ?_
    change _ = (pure none : Reader (Option (Bool × List Char))) rest
    apply congrFun
    split
    · next hp => exact absurd rfl (h 'e' hp).2.2.1
    · next hp => exact absurd rfl (h 'E' hp).2.2.2
    · rfl
  refine (bind_of_ok (peek?_apply _)).trans ?_
  simp only [hm]
  refine (bind_of_ok (wholePart_writeNat atEnd n h)).trans ?_
  refine (bind_of_ok hf).trans ?_
  exact bind_of_ok he

/-- A written number of at most sixty-four bits is read back, and what follows it is left. -/
theorem number_writeNat {n : Nat} (hn : n < UInt64.size) {rest : List Char} (h : EndsNumber rest) :
    number (writeNat n ++ rest) = .ok (.integer n, rest) := by
  have hv : valueOfDigits (writeNat n) = n := Nat.ofDigitChars_toDigits (by decide) (by decide)
  have hi : Numeral.integer? ⟨false, writeNat n, none, none⟩ = some (n : Int) := by
    simp only [Numeral.integer?, hv, Option.isSome_none, Bool.false_eq_true, or_self, hn,
      ↓reduceIte]
  refine (bind_of_ok (numeral_writeNat .endInValue n h)).trans ?_
  rw [hi]
  rfl

end CoinTransfer.Json
