import CoinTransfer.Log.Record

/-!
# CoinTransfer.Action

Calls that may change a state, fail, and write log records.  A call that fails
keeps the changes it has made and the records it has written: that nothing has
changed after a failure is for a host to ensure, and for a proof to show, and
does not come for free.
-/

namespace CoinTransfer

/-- What a call leaves behind. -/
structure Outcome (σ ε α : Type) where
  result : Except ε α
  state : σ
  /-- The records written by the call, in order. -/
  log : List Log.Record

/-- A call on a state of type `σ`. -/
def Action (σ ε α : Type) : Type := σ → Outcome σ ε α

namespace Action

variable {σ ε ε' α β : Type}

/-! ## Calls in sequence -/

/-- Answers without doing anything. -/
protected def pure (a : α) : Action σ ε α := fun s => ⟨.ok a, s, []⟩

/-- Goes on with the answer of a call, unless that fails. -/
protected def bind (x : Action σ ε α) (f : α → Action σ ε β) : Action σ ε β := fun s =>
  match x s with
  | ⟨.ok a, s', log⟩ =>
      let next := f a s'
      ⟨next.result, next.state, log ++ next.log⟩
  | ⟨.error e, s', log⟩ => ⟨.error e, s', log⟩

instance : Monad (Action σ ε) where
  pure := Action.pure
  bind := Action.bind

@[simp] theorem pure_apply (a : α) (s : σ) : (pure a : Action σ ε α) s = ⟨.ok a, s, []⟩ := rfl

/-- A call in sequence goes on from the state that the first one left, and its records follow.
-/
theorem bind_apply (x : Action σ ε α) (f : α → Action σ ε β) (s : σ) :
    (x >>= f) s =
      match x s with
      | ⟨.ok a, s', log⟩ => ⟨(f a s').result, (f a s').state, log ++ (f a s').log⟩
      | ⟨.error e, s', log⟩ => ⟨.error e, s', log⟩ := rfl

/-- After a call that succeeds, the next one goes on with its answer. -/
theorem bind_of_ok {x : Action σ ε α} {f : α → Action σ ε β} {s s' : σ} {a : α}
    {log : List Log.Record} (h : x s = ⟨.ok a, s', log⟩) :
    (x >>= f) s = ⟨(f a s').result, (f a s').state, log ++ (f a s').log⟩ := by
  rw [bind_apply, h]

/-- A call that fails ends a sequence, with the state and the records it has left. -/
theorem bind_of_error {x : Action σ ε α} {f : α → Action σ ε β} {s s' : σ} {e : ε}
    {log : List Log.Record} (h : x s = ⟨.error e, s', log⟩) :
    (x >>= f) s = ⟨.error e, s', log⟩ := by
  rw [bind_apply, h]

private theorem bind_pure_id (x : Action σ ε α) : id <$> x = x := by
  funext s
  change (x >>= fun a => pure a) s = x s
  rw [bind_apply]
  rcases x s with ⟨_ | a, s', log⟩ <;> simp

private theorem pure_bind_eq (a : α) (f : α → Action σ ε β) : (pure a >>= f) = f a := by
  funext s
  simp [bind_apply]

private theorem bind_assoc_eq {γ : Type} (x : Action σ ε α) (f : α → Action σ ε β)
    (g : β → Action σ ε γ) : (x >>= f >>= g) = (x >>= fun a => f a >>= g) := by
  funext s
  simp only [bind_apply]
  rcases x s with ⟨_ | a, s', log⟩
  · rfl
  · simp only
    rcases f a s' with ⟨_ | b, s'', log'⟩ <;> simp

instance : LawfulMonad (Action σ ε) :=
  LawfulMonad.mk' (Action σ ε) bind_pure_id pure_bind_eq bind_assoc_eq

/-- To change the answer of a call changes nothing else. -/
@[simp] theorem map_apply (f : α → β) (x : Action σ ε α) (s : σ) :
    (f <$> x) s = ⟨(x s).result.map f, (x s).state, (x s).log⟩ := by
  change (x >>= fun a => pure (f a)) s = _
  rw [bind_apply]
  rcases x s with ⟨_ | a, s', log⟩ <;> simp [Except.map]

/-! ## Single steps -/

def fail (e : ε) : Action σ ε α := fun s => ⟨.error e, s, []⟩

def get : Action σ ε σ := fun s => ⟨.ok s, s, []⟩

def modify (f : σ → σ) : Action σ ε Unit := fun s => ⟨.ok (), f s, []⟩

def emit (r : Log.Record) : Action σ ε Unit := fun s => ⟨.ok (), s, [r]⟩

/-- Answers or fails as a computation without effects did. -/
def ofExcept : Except ε α → Action σ ε α
  | .ok a => pure a
  | .error e => fail e

@[simp] theorem fail_apply (e : ε) (s : σ) :
    (fail e : Action σ ε α) s = ⟨.error e, s, []⟩ := rfl

@[simp] theorem get_apply (s : σ) : (get : Action σ ε σ) s = ⟨.ok s, s, []⟩ := rfl

@[simp] theorem modify_apply (f : σ → σ) (s : σ) :
    (modify f : Action σ ε Unit) s = ⟨.ok (), f s, []⟩ := rfl

@[simp] theorem emit_apply (r : Log.Record) (s : σ) :
    (emit r : Action σ ε Unit) s = ⟨.ok (), s, [r]⟩ := rfl

@[simp] theorem ofExcept_apply (x : Except ε α) (s : σ) :
    (ofExcept x : Action σ ε α) s = ⟨x, s, []⟩ := by
  cases x <;> rfl

/-! ## Calls in a wider setting -/

/-- The same call with its errors wrapped. -/
def mapError (f : ε → ε') (x : Action σ ε α) : Action σ ε' α := fun s =>
  let o := x s
  ⟨o.result.mapError f, o.state, o.log⟩

/-- A call that cannot fail, among calls that can. -/
def lift (x : Action σ Empty α) : Action σ ε α := x.mapError Empty.elim

/-- To wrap the errors of a call changes nothing else. -/
@[simp] theorem mapError_apply (f : ε → ε') (x : Action σ ε α) (s : σ) :
    x.mapError f s = ⟨(x s).result.mapError f, (x s).state, (x s).log⟩ := rfl

end Action

end CoinTransfer
