import CoinTransfer.Text.Utf8

/-!
# CoinTransfer.Bech32.Prefix

The human-readable part in front of a Bech32 text: one to eighty-three visible
ASCII characters whose letters are all of one case.  A prefix keeps the case it
was written in, and two prefixes are the same if they differ in case only.
-/

namespace CoinTransfer.Bech32

/-- What keeps a text from being a prefix. -/
inductive Prefix.Problem where
  | empty
  /-- There are more than eighty-three bytes. -/
  | tooLong (bytes : Nat)
  | notAscii (c : Char)
  /-- A character of ASCII is a blank or a control. -/
  | notVisible (c : Char)
  /-- A letter differs in case from one before it. -/
  | mixedCase
deriving DecidableEq, Repr

namespace Prefix

/-- The wording of a problem.  The limit it quotes is that of the older format,
which counted the separator and the data in. -/
def Problem.message : Problem → String
  | .empty => "hrp is empty, must have at least 1 character"
  | .tooLong bytes => s!"hrp is too long, found {bytes} characters, must be <= 126"
  | .notAscii c => s!"found non-ASCII character: {c}"
  | .notVisible c =>
      s!"byte value is not valid US-ASCII: '{String.ofList (Nat.toDigits 16 c.toNat)}'"
  | .mixedCase => "hrp cannot mix upper and lower case"

/-- The greatest length of a prefix in bytes. -/
def maxLength : Nat := 83

/-- A visible character of ASCII. -/
def isVisible (c : Char) : Bool := 33 ≤ c.toNat && c.toNat ≤ 126

/-- The first character at fault; `lower` and `upper` say which letters came before. -/
def faultIn (lower upper : Bool) : List Char → Option Problem
  | [] => none
  | c :: rest =>
      if 128 ≤ c.toNat then some (.notAscii c)
      else if ¬ isVisible c then some (.notVisible c)
      else if (c.isLower && upper) || (c.isUpper && lower) then some .mixedCase
      else faultIn (lower || c.isLower) (upper || c.isUpper) rest

/-- The first problem with a text: its length comes before its characters. -/
def problem? (text : List Char) : Option Problem :=
  let size := (Text.utf8 text).length
  if text.isEmpty then some .empty
  else if maxLength < size then some (.tooLong size)
  else faultIn false false text

end Prefix

/-- A human-readable part. -/
structure Prefix where
  /-- The characters, in the case they were written in. -/
  chars : List Char
  /-- Nothing is wrong with them. -/
  sound : Prefix.problem? chars = none
deriving DecidableEq

namespace Prefix

/-- The prefix a text spells, or the first problem with it. -/
def ofChars (text : List Char) : Except Problem Prefix :=
  match h : problem? text with
  | none => .ok ⟨text, h⟩
  | some problem => .error problem

/-- The prefix a string spells, or the first problem with it. -/
def parse (text : String) : Except Problem Prefix := ofChars text.toList

/-- The prefix as it was written. -/
def text (p : Prefix) : String := String.ofList p.chars

/-- The prefix in lower case. -/
def lowerChars (p : Prefix) : List Char := p.chars.map Char.toLower

/-- Whether two prefixes agree but for case. -/
def Same (p q : Prefix) : Prop := p.lowerChars = q.lowerChars

instance (p q : Prefix) : Decidable (Same p q) := inferInstanceAs (Decidable (_ = _))

/-! ## What a prefix looks like -/

private theorem not_isUpper_of_isLower {c : Char} (h : c.isLower = true) : c.isUpper = false := by
  rw [Bool.eq_false_iff]
  intro hu
  have hlow : 'a'.val ≤ c.val := of_decide_eq_true (Bool.and_eq_true_iff.1 h).1
  have hhigh : c.val ≤ 'Z'.val := (of_decide_eq_true hu).2
  exact absurd (Nat.le_trans hlow hhigh) (by decide)

/-- No character is at fault exactly when all are visible ASCII and the letters,
with those that came before, are of one case. -/
theorem faultIn_eq_none_iff {lower upper : Bool} (hcase : (lower && upper) = false)
    {text : List Char} :
    faultIn lower upper text = none ↔
      (∀ c ∈ text, isVisible c = true) ∧
        ((lower || text.any Char.isLower) && (upper || text.any Char.isUpper)) = false := by
  induction text generalizing lower upper with
  | nil => simp [faultIn, hcase]
  | cons c rest ih =>
    rw [faultIn]
    by_cases hv : isVisible c = true
    · have hc : ¬ 128 ≤ c.toNat := by
        simp only [isVisible, Bool.and_eq_true, decide_eq_true_eq] at hv
        omega
      rw [if_neg hc, if_neg (not_not_intro hv)]
      cases hl : c.isLower
      · cases hu : c.isUpper <;> cases lower <;> cases upper <;> simp_all
      · have hu := not_isUpper_of_isLower hl
        cases lower <;> cases upper <;> simp_all
    · by_cases hc : 128 ≤ c.toNat
      · simp [hc, hv]
      · simp [hc, hv]

@[simp] theorem ofChars_chars (p : Prefix) : ofChars p.chars = .ok p := by
  obtain ⟨chars, sound⟩ := p
  unfold ofChars
  split
  · rfl
  · next h => rw [sound] at h; cases h

end Prefix

end CoinTransfer.Bech32
