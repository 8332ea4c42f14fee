import CoinTransfer.Text.Utf8

/-!
# CoinTransfer.Denom

Names of denominations.  The host bank takes a name of three to a hundred and
twenty-eight bytes that starts with an ASCII letter and goes on with ASCII
letters, digits and the marks `/ : . _ -`.
-/

namespace CoinTransfer.Denom

/-- The least and the greatest length of a name in bytes. -/
def minLength : Nat := 3

@[inherit_doc minLength] def maxLength : Nat := 128

/-- A character that may follow the first letter of a name. -/
def isNameChar (c : Char) : Bool :=
  c.isAlphanum || c == '/' || c == ':' || c == '.' || c == '_' || c == '-'

/-- What the bank has against a name. -/
inductive Problem where
  /-- The name is too short or too long. -/
  | badLength
  /-- The first character is no letter. -/
  | badStart
  /-- A later character is not allowed. -/
  | badCharacter
deriving DecidableEq, Repr

def Problem.message : Problem → String
  | .badLength => s!"length must be between {minLength} and {maxLength}"
  | .badStart => "must start with an ASCII letter"
  | .badCharacter => "contains a character outside [A-Za-z0-9/:._-]"

/-- The first problem with a name: its length, its first character, the others. -/
def problem? (name : String) : Option Problem :=
  let size := (Text.utf8 name.toList).length
  if size < minLength ∨ maxLength < size then some .badLength
  else
    match name.toList with
    | [] => some .badStart
    | first :: rest =>
        if ¬ first.isAlpha then some .badStart
        else if rest.all isNameChar then none
        else some .badCharacter

/-- A name the bank takes. -/
def Valid (name : String) : Prop := problem? name = none

instance (name : String) : Decidable (Valid name) := inferInstanceAs (Decidable (_ = _))

/-- A name is a letter followed by name characters. -/
theorem Valid.toList_eq {name : String} (h : Valid name) :
    ∃ first rest, name.toList = first :: rest ∧ first.isAlpha = true ∧
      ∀ c ∈ rest, isNameChar c = true := by
  unfold Valid problem? at h
  simp only at h
  split at h
  · cases h
  · split at h
    · cases h
    · next first rest hn =>
      refine ⟨first, rest, hn, ?_⟩
      split at h
      · cases h
      · next hf =>
        split at h
        · next hr => exact ⟨Decidable.not_not.1 hf, List.all_eq_true.1 hr⟩
        · cases h

/-- A name has no other characters, as a letter is a name character too. -/
theorem Valid.isNameChar_of_mem {name : String} (h : Valid name) {c : Char}
    (hc : c ∈ name.toList) : isNameChar c = true := by
  obtain ⟨first, rest, hname, hfirst, hrest⟩ := h.toList_eq
  rw [hname, List.mem_cons] at hc
  cases hc with
  | inl hc => simp [isNameChar, Char.isAlphanum, hc, hfirst]
  | inr hc => exact hrest c hc

end CoinTransfer.Denom
