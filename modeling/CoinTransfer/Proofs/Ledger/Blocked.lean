import CoinTransfer.Proofs.Ledger.Order

/-!
# CoinTransfer.Proofs.Ledger.Blocked

Blocked accounts.  A block is never lifted, and it is read in one place only, before a
module pays an account.  So a module never pays an account that has once been blocked,
and no other operation can tell two ledgers apart that differ in their blocked accounts
alone: they go on side by side, and nothing but a payment of a module to an account that
one of them blocks ever shows the difference.
-/

namespace CoinTransfer

open Ledger

/-- What an operation asks about blocked accounts has the same answer in both ledgers. -/
def Operation.AsksAlike (s s' : Ledger) : Operation → Prop
  | .sendFromModuleToAccount _ _ recipient _ => recipient ∈ s.blocked ↔ recipient ∈ s'.blocked
  | _ => True

/-- Every operation blocks the same accounts in both ledgers. -/
theorem Operation.AsksAlike.apply {s s' : Ledger} {op : Operation} (h : op.AsksAlike s s')
    (first : Operation) : op.AsksAlike (first.apply s) (first.apply s') := by
  cases op with
  | sendFromModuleToAccount ctx name recipient amount =>
    have hiff : recipient ∈ s.blocked ↔ recipient ∈ s'.blocked := h
    rw [AsksAlike, mem_blocked_apply, mem_blocked_apply, hiff]
  | _ => exact trivial

namespace Ledger

variable {s s' : Ledger} {op : Operation}

/-! ## Payments to a blocked account -/

/-- A module does not pay a blocked account, whatever it would pay. -/
theorem perform_sendFromModuleToAccount_of_blocked {a : Address} (h : a ∈ s.blocked)
    (ctx : Context) (name : String) (amount : Coins) :
    (Operation.sendFromModuleToAccount ctx name a amount).perform s =
      ⟨.error (if name ∈ s.modules then .unauthorized s!"{a.hex} is not allowed to receive funds"
        else .unknownModule name), s, []⟩ := by
  refine Operation.perform_of_error (Operation.effect_eq_error_iff.2 (.inl ?_))
  by_cases hname : name ∈ s.modules
  · have hsome := Std.ExtTreeMap.getElem?_eq_some_getElem hname
    rw [Operation.resolve, moduleAccount_eq_ok_iff.2 hsome, if_pos hname]
    exact if_pos h
  · rw [if_neg hname]
    exact moduleAccount_bind_of_not_mem hname _

/-! ## Ledgers side by side -/

/-- Two ledgers differ in their blocked accounts at most. -/
structure SameButBlocked (s s' : Ledger) : Prop where
  balances : s'.balances = s.balances
  modules : s'.modules = s.modules
  pool : s'.pool = s.pool
  events : s'.events = s.events

namespace SameButBlocked

/-- Ledgers that only differ in what they block are equal but for that. -/
theorem eq (h : s.SameButBlocked s') : s' = { s with blocked := s'.blocked } := by
  obtain ⟨hbalances, hmodules, hpool, hevents⟩ := h
  cases s'
  congr

/-- Whatever can be asked of a ledger has the same answer. -/
theorem asked (h : s.SameButBlocked s') :
    (∀ a denom, s'.balance a denom = s.balance a denom) ∧
    (∀ name denom, s'.moduleBalance name denom = s.moduleBalance name denom) ∧
    s'.communityPool = s.communityPool := by
  rw [h.eq]
  exact ⟨fun _ _ => rfl, fun _ _ => rfl, rfl⟩

/-- An operation that asks alike resolves to the same on ledgers that are alike but for what they
block. -/
theorem resolve_eq (h : s.SameButBlocked s') (hop : op.AsksAlike s s') :
    op.resolve s' = op.resolve s := by
  rw [h.eq]
  cases op with
  | sendFromModuleToAccount ctx name recipient amount =>
    have hiff : recipient ∈ s.blocked ↔ recipient ∈ s'.blocked := hop
    simp only [Operation.resolve, moduleAccount, hiff]
  | _ => rfl

/-- Checks do not look at what is blocked. -/
theorem check_eq (h : s.SameButBlocked s') (eff : Effect) : eff.check s' = eff.check s := by
  rw [h.eq]
  cases eff <;> rfl

/-- Answers do not tell what is blocked. -/
theorem reply_eq (h : s.SameButBlocked s') (eff : Effect) : eff.reply s' = eff.reply s := by
  rw [h.eq]
  cases eff <;> rfl

/-- Effects keep ledgers alike but for what they block. -/
theorem after (h : s.SameButBlocked s') (eff : Effect) :
    (eff.after s).SameButBlocked (eff.after s') := by
  rw [h.eq]
  cases eff <;> exact ⟨rfl, rfl, rfl, rfl⟩

/-- An operation that asks alike has the same effect on such ledgers. -/
theorem effect_eq (h : s.SameButBlocked s') (hop : op.AsksAlike s s') :
    op.effect s' = op.effect s := by
  simp only [Operation.effect, h.resolve_eq hop, h.check_eq]

/-- One operation: the same answer and the same records, and ledgers that differ in no
more than before. -/
theorem perform (h : s.SameButBlocked s') (hop : op.AsksAlike s s') :
    (op.perform s').result = (op.perform s).result ∧ (op.perform s').log = (op.perform s).log ∧
      (op.apply s).SameButBlocked (op.apply s') := by
  have heffect := h.effect_eq hop
  cases he : op.effect s with
  | ok eff =>
    rw [he] at heffect
    rw [Operation.apply_of_effect he, Operation.apply_of_effect heffect,
      Operation.perform_of_effect he, Operation.perform_of_effect heffect, h.reply_eq]
    exact ⟨rfl, rfl, h.after eff⟩
  | error e =>
    rw [he] at heffect
    rw [Operation.apply_of_error he, Operation.apply_of_error heffect,
      Operation.perform_of_error he, Operation.perform_of_error heffect]
    exact ⟨rfl, rfl, h⟩

/-- Runs that ask alike answer alike, and leave ledgers that are alike but for what they block.
-/
theorem run (h : s.SameButBlocked s') {ops : List Operation}
    (hops : ∀ op ∈ ops, op.AsksAlike s s') :
    Operation.answers s' ops = Operation.answers s ops ∧
      (Operation.run s ops).SameButBlocked (Operation.run s' ops) := by
  induction ops generalizing s s' with
  | nil => exact ⟨rfl, h⟩
  | cons op ops ih =>
      obtain ⟨hop, hrest⟩ := List.forall_mem_cons.1 hops
      obtain ⟨hresult, -, hstep⟩ := h.perform hop
      obtain ⟨hanswers, hrun⟩ := ih hstep fun x hx => (hrest x hx).apply op
      exact ⟨congrArg₂ List.cons hresult hanswers, hrun⟩

end SameButBlocked

/-- **Blocks are permanent and show nowhere else**: once an account has been blocked, no
module ever pays it.  And ledgers that differ in their blocked accounts alone answer every
question alike; they give the same answers to an operation, or to a whole run, unless a
module is to pay an account that only one of them blocks, and then differ in nothing else
either. -/
theorem blocked_only_from_modules :
    (∀ (s : Ledger) (a : Address) (ops : List Operation) (ctx : Context) (name : String)
        (amount : Coins),
      let s' := Operation.run s (.blockAddress a :: ops)
      (Operation.sendFromModuleToAccount ctx name a amount).perform s' =
        ⟨.error (if name ∈ s'.modules
          then .unauthorized s!"{a.hex} is not allowed to receive funds"
          else .unknownModule name), s', []⟩) ∧
    ∀ s s' : Ledger, s.SameButBlocked s' →
      ((∀ a denom, s'.balance a denom = s.balance a denom) ∧
        (∀ name denom, s'.moduleBalance name denom = s.moduleBalance name denom) ∧
        s'.communityPool = s.communityPool) ∧
      (∀ op : Operation, op.AsksAlike s s' →
        (op.perform s').result = (op.perform s).result ∧
        (op.perform s').log = (op.perform s).log ∧
        (op.perform s).state.SameButBlocked (op.perform s').state) ∧
      ∀ ops : List Operation, (∀ op ∈ ops, op.AsksAlike s s') →
        Operation.answers s' ops = Operation.answers s ops ∧
        (Operation.run s ops).SameButBlocked (Operation.run s' ops) := by
  refine ⟨fun s a ops ctx name amount => ?_, fun s s' h =>
    ⟨h.asked, fun op hop => h.perform hop, fun ops hops => h.run hops⟩⟩
  have hblocked : a ∈ (Operation.run s (.blockAddress a :: ops)).blocked :=
    (Operation.mem_blocked_run ..).2 (.inl List.mem_cons_self)
  exact perform_sendFromModuleToAccount_of_blocked hblocked ctx name amount

open Example in
/-- Bob is blocked, and paid all the same, but not by a module: not even nothing. -/
theorem blocked_only_from_modules_example :
    let s := Operation.run ledger (.blockAddress bob :: business)
    (Operation.sendFromModuleToAccount ctx mintModule bob Coins.empty).perform s =
      ⟨.error (.unauthorized s!"{bob.hex} is not allowed to receive funds"), s, []⟩ ∧
    ledger.SameButBlocked (ledger.block bob) ∧
    (Operation.send ctx alice bob coins).AsksAlike ledger (ledger.block bob) ∧
    ((Operation.send ctx alice bob coins).perform (ledger.block bob)).result =
      ((Operation.send ctx alice bob coins).perform ledger).result ∧
    (∀ op ∈ business.take 4, op.AsksAlike ledger (ledger.block bob)) ∧
    (Operation.run (ledger.block bob) (business.take 4)).balance bob "unova" = 3 := by
  intro s
  have hname : mintModule ∈ s.modules := by decide +kernel
  have hsame : ledger.SameButBlocked (ledger.block bob) := ⟨rfl, rfl, rfl, rfl⟩
  have hop : (Operation.send ctx alice bob coins).AsksAlike ledger (ledger.block bob) := trivial
  have hops : ∀ op ∈ business.take 4, op.AsksAlike ledger (ledger.block bob) := by
    simp [business, Operation.AsksAlike]
  have hbob : (Operation.run ledger (business.take 4)).balance bob "unova" = 3 := by decide +kernel
  obtain ⟨hblock, hpair⟩ := blocked_only_from_modules
  obtain ⟨-, hone, hrun⟩ := hpair ledger (ledger.block bob) hsame
  refine ⟨(hblock ledger bob business ctx mintModule Coins.empty).trans ?_, hsame, hop,
    (hone _ hop).1, hops, ?_⟩
  · rw [if_pos hname]
  · rw [(hrun _ hops).2.asked.1]
    exact hbob

end Ledger

end CoinTransfer
