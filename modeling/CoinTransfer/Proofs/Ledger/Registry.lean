import CoinTransfer.Proofs.Ledger.Effect

/-!
# CoinTransfer.Proofs.Ledger.Registry

The register of module accounts.  A module is only ever registered with the address
that follows from its name, and nothing removes a registration, so that in every
state that a run can reach the account of the community pool is known, and is the
one its name stands for.
-/

namespace CoinTransfer.Ledger

variable {s : Ledger}

/-- The account that holds the community pool. -/
def treasury : Address := Address.ofModule distributionModule

/-- Registered modules have the addresses of their names, and the module of the
community pool is among them. -/
structure Registered (s : Ledger) : Prop where
  derived : ∀ name a, s.modules[name]? = some a → a = Address.ofModule name
  present : s.modules[distributionModule]? = some treasury

/-- Registering a module keeps the register in order.  At the start it is the module of the pool
that is registered. -/
theorem registered_register (name : String)
    (hderived : ∀ name a, s.modules[name]? = some a → a = Address.ofModule name)
    (hpresent : name = distributionModule ∨ s.modules[distributionModule]? = some treasury) :
    (s.register name).Registered := by
  constructor
  · intro name' a h
    rw [register, Std.ExtTreeMap.getElem?_insert] at h
    split at h
    · next hn =>
      rw [Std.LawfulEqCmp.compare_eq_iff_eq] at hn
      cases h
      rw [hn]
    · exact hderived name' a h
  · rw [register, Std.ExtTreeMap.getElem?_insert]
    split
    · next hn =>
      rw [Std.LawfulEqCmp.compare_eq_iff_eq] at hn
      rw [hn, treasury]
    · next hn =>
      refine hpresent.resolve_left fun he => hn ?_
      rw [he]
      exact Std.ReflOrd.compare_self

/-- A ledger starts with the module of the pool. -/
theorem registered_initial : initial.Registered :=
  registered_register distributionModule (fun name a h => by simp at h) (.inl rfl)

/-- Every effect keeps the register in order. -/
theorem Registered.after (h : s.Registered) (eff : Effect) : (eff.after s).Registered := by
  cases eff with
  | register name => exact registered_register name h.derived (.inr h.present)
  | block a => exact ⟨h.derived, h.present⟩
  | mint a denom n => exact ⟨h.derived, h.present⟩
  | move ctx sender recipient amount => exact ⟨h.derived, h.present⟩
  | fund ctx depositor holder amount => exact ⟨h.derived, h.present⟩

/-- Every operation keeps the register in order, whether it succeeds or not. -/
theorem Registered.apply (h : s.Registered) (op : Operation) : (op.apply s).Registered := by
  cases he : op.effect s with
  | ok eff =>
    rw [Operation.apply_of_effect he]
    exact h.after eff
  | error e =>
    rw [Operation.apply_of_error he]
    exact h

/-- The register is in order after every run. -/
theorem registered_run (ops : List Operation) : (Operation.run initial ops).Registered :=
  Operation.run_induction registered_initial (fun _ _ eff h _ => h.after eff) ops

theorem Reachable.registered (h : s.Reachable) : s.Registered := by
  obtain ⟨ops, rfl⟩ := h
  exact registered_run ops

/-- A registered module has the account of its name. -/
theorem Registered.getElem?_modules (h : s.Registered) {name : String} (hname : name ∈ s.modules) :
    s.modules[name]? = some (Address.ofModule name) := by
  have hsome := Std.ExtTreeMap.getElem?_eq_some_getElem hname
  rw [hsome, ← h.derived name _ hsome]

/-- The look-up of a registered module finds the account of its name. -/
theorem Registered.moduleAddress_of_mem (h : s.Registered) {name : String}
    (hname : name ∈ s.modules) :
    moduleAddress name s = ⟨.ok (Address.ofModule name), s, []⟩ := by
  rw [moduleAddress_apply, moduleAccount_eq_ok_iff.2 (h.getElem?_modules hname)]

/-- The look-up of a registered module goes on with the account of its name. -/
theorem Registered.moduleAccount_bind (h : s.Registered) {name : String}
    (hname : name ∈ s.modules) {α : Type} (f : Address → Except KeeperError α) :
    (s.moduleAccount name >>= f) = f (Address.ofModule name) := by
  rw [moduleAccount_eq_ok_iff.2 (h.getElem?_modules hname)]
  rfl

/-- A call ends at the look-up of a name that is not registered. -/
theorem moduleAccount_bind_of_not_mem {name : String} (hname : name ∉ s.modules) {α : Type}
    (f : Address → Except KeeperError α) :
    (s.moduleAccount name >>= f) = .error (.unknownModule name) := by
  rw [moduleAccount, Std.ExtTreeMap.getElem?_eq_none hname]
  rfl

/-- The module of the pool is registered. -/
theorem Registered.distribution_mem (h : s.Registered) : distributionModule ∈ s.modules := by
  rw [Std.ExtTreeMap.mem_iff_isSome_getElem?, h.present]
  rfl

/-- The balance of the module of the pool is that of its account. -/
theorem Registered.moduleBalance_distribution (h : s.Registered) (denom : String) :
    s.moduleBalance distributionModule denom = s.balance treasury denom := by
  rw [moduleBalance, h.present]

/-- A deposit into the community pool goes to its account. -/
theorem Registered.holder_eq (h : s.Registered) {op : Operation} {ctx : Context}
    {depositor holder : Address} {amount : Coins}
    (hresolve : op.resolve s = .ok (.fund ctx depositor holder amount)) : holder = treasury := by
  cases Operation.resolves_of_resolve hresolve with
  | fundCommunityPool _ _ _ hholder =>
    rw [h.present, Option.some.injEq] at hholder
    exact hholder.symm

end CoinTransfer.Ledger
