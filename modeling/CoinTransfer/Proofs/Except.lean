/-!
# CoinTransfer.Proofs.Except

Laws of computations that may fail, whatever they are about: one after the other, and
one for each member of a list.
-/

namespace Except

variable {ε α β : Type}

/-- The answer of a computation is what it gives when it succeeds. -/
theorem toOption_eq_some_iff {x : Except ε α} {a : α} :
    x.toOption = some a ↔ x = .ok a := by
  cases x <;> simp [Except.toOption]

/-! ## In sequence -/

/-- Two computations in sequence succeed if the first one does, and the second one with its
answer. -/
theorem bind_eq_ok_iff {x : Except ε α} {f : α → Except ε β} {b : β} :
    x >>= f = .ok b ↔ ∃ a, x = .ok a ∧ f a = .ok b := by
  cases x <;> simp [Bind.bind, Except.bind]

/-- A fault that neither computation can have is not one of their sequence. -/
theorem bind_ne_error {x : Except ε α} {f : α → Except ε β} {e : ε}
    (hx : x ≠ .error e) (hf : ∀ a, f a ≠ .error e) : (x >>= f) ≠ .error e := by
  cases x with
  | ok a => exact hf a
  | error e' =>
    intro h
    cases h
    exact hx rfl

/-! ## For each member of a list -/

/-- A check of a list succeeds if it does so for every member. -/
theorem forM_eq_ok_iff {f : α → Except ε Unit} {l : List α} :
    l.forM f = .ok () ↔ ∀ x ∈ l, f x = .ok () := by
  induction l with
  | nil => simp [Pure.pure, Except.pure]
  | cons a l ih =>
      rw [List.forM, List.forall_mem_cons, ← ih]
      cases f a <;> simp [Bind.bind, Except.bind]

/-- A check of a list fails at the first member that fails. -/
theorem forM_eq_error_iff {f : α → Except ε Unit} {l : List α} {e : ε} :
    l.forM f = .error e ↔
      ∃ front x back, l = front ++ x :: back ∧ (∀ y ∈ front, f y = .ok ()) ∧ f x = .error e := by
  constructor
  · intro h
    induction l with
    | nil => cases h
    | cons a l ih =>
      rw [List.forM] at h
      cases ha : f a with
      | error e' =>
        rw [ha] at h
        cases h
        exact ⟨[], a, l, rfl, by simp, ha⟩
      | ok _ =>
        rw [ha] at h
        obtain ⟨front, x, back, rfl, hfront, hx⟩ := ih h
        exact ⟨a :: front, x, back, rfl, List.forall_mem_cons.2 ⟨ha, hfront⟩, hx⟩
  · rintro ⟨front, x, back, rfl, hfront, hx⟩
    induction front with
    | nil =>
      rw [List.nil_append, List.forM, hx]
      rfl
    | cons y front ih =>
      obtain ⟨hy, hfront⟩ := List.forall_mem_cons.1 hfront
      rw [List.cons_append, List.forM, hy]
      exact ih hfront

/-- A check of a list depends on the checks of its members alone. -/
theorem forM_congr {f g : α → Except ε Unit} {l : List α}
    (h : ∀ x ∈ l, f x = g x) : l.forM f = l.forM g := by
  induction l with
  | nil => rfl
  | cons a l ih =>
      obtain ⟨ha, hl⟩ := List.forall_mem_cons.1 h
      rw [List.forM, List.forM, ha, ih hl]

end Except
