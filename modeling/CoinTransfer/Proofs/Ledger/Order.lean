import CoinTransfer.Proofs.Ledger.Records

/-!
# CoinTransfer.Proofs.Ledger.Order

The order of operations.  Two runs of the same operations in different orders may pass
through different states, and one may fail where the other does not.  But if every
operation of both succeeds, both write the same records, up to their order, and the
history determines the money whatever its order is.  The modules and the blocked
accounts do not depend on the order at all: an operation adds to them or leaves them.
-/

namespace CoinTransfer

open Ledger

namespace Operation

variable {s : Ledger} {op : Operation} {ops ops' : List Operation}

/-! ## Runs in which every operation succeeds -/

/-- Every operation of a run succeeds. -/
def AllSucceed : Ledger → List Operation → Prop
  | _, [] => True
  | s, op :: ops => (op.perform s).result.isOk ∧ AllSucceed (op.apply s) ops

instance decidableAllSucceed : (s : Ledger) → (ops : List Operation) → Decidable (AllSucceed s ops)
  | _, [] => inferInstanceAs (Decidable True)
  | s, op :: ops =>
      have := decidableAllSucceed (op.apply s) ops
      inferInstanceAs (Decidable (_ ∧ _))

theorem history_run_of_allSucceed (h : s.Registered) (hok : AllSucceed s ops) :
    (run s ops).history = s.history ++ ops.flatMap records := by
  induction ops generalizing s with
  | nil => simp
  | cons op ops ih =>
      obtain ⟨hop, hops⟩ := hok
      rw [run_cons, ih (h.apply op) hops, h.history_apply op, if_pos hop, List.flatMap_cons,
        List.append_assoc]

/-! ## Modules and blocked accounts after a run -/

theorem getElem?_modules_apply (s : Ledger) (op : Operation) (name : String) :
    (op.apply s).modules[name]? =
      if op = .registerModule name then some (Address.ofModule name) else s.modules[name]? := by
  cases he : op.effect s with
  | error e =>
    have hne : op ≠ .registerModule name := by
      rintro rfl
      cases he
    rw [apply_of_error he, if_neg hne]
  | ok eff =>
    rw [apply_of_effect he]
    cases resolves_of_resolve (effect_eq_ok_iff.1 he).1 with
    | registerModule name' =>
      rw [Effect.after, register, Std.ExtTreeMap.getElem?_insert]
      by_cases hn : name' = name
      · subst hn
        simp
      · simp [hn]
    | _ => rfl

theorem getElem?_modules_run (s : Ledger) (ops : List Operation) (name : String) :
    (run s ops).modules[name]? =
      if .registerModule name ∈ ops then some (Address.ofModule name) else s.modules[name]? := by
  induction ops generalizing s with
  | nil => simp
  | cons op ops ih =>
      rw [run_cons, ih, getElem?_modules_apply]
      by_cases hop : op = .registerModule name
      · simp [hop]
      · simp [hop, Ne.symm hop]

theorem mem_blocked_apply (s : Ledger) (op : Operation) (a : Address) :
    a ∈ (op.apply s).blocked ↔ op = .blockAddress a ∨ a ∈ s.blocked := by
  cases he : op.effect s with
  | error e =>
    have hne : op ≠ .blockAddress a := by
      rintro rfl
      cases he
    rw [apply_of_error he]
    simp [hne]
  | ok eff =>
    rw [apply_of_effect he]
    cases resolves_of_resolve (effect_eq_ok_iff.1 he).1 with
    | blockAddress b => simp [Effect.after, block]
    | _ => simp [Effect.after, register, minted, moved, addToPool, record]

theorem mem_blocked_run (s : Ledger) (ops : List Operation) (a : Address) :
    a ∈ (run s ops).blocked ↔ .blockAddress a ∈ ops ∨ a ∈ s.blocked := by
  induction ops generalizing s with
  | nil => simp
  | cons op ops ih =>
      rw [run_cons, ih, mem_blocked_apply, List.mem_cons, eq_comm (a := op)]
      tauto

end Operation

namespace Ledger

variable {s : Ledger} {ops ops' : List Operation}

/-- **Order independence**: two runs of the same operations in which every operation
succeeds end with the same money, modules and blocked accounts, and have recorded the
same events, up to their order. -/
theorem run_perm (hs : s.Reachable) (hperm : ops.Perm ops') (hok : Operation.AllSucceed s ops)
    (hok' : Operation.AllSucceed s ops') :
    let t := Operation.run s ops
    let t' := Operation.run s ops'
    (∀ a denom, t.balance a denom = t'.balance a denom) ∧
    t.communityPool = t'.communityPool ∧ t.modules = t'.modules ∧ t.blocked = t'.blocked ∧
    ∃ new new', t.history = s.history ++ new ∧ t'.history = s.history ++ new' ∧
      new.Perm new' := by
  intro t t'
  have hhistory := Operation.history_run_of_allSucceed hs.registered hok
  have hhistory' := Operation.history_run_of_allSucceed hs.registered hok'
  have hnew : (ops.flatMap Operation.records).Perm (ops'.flatMap Operation.records) :=
    hperm.flatMap_right _
  have hall : t.history.Perm t'.history := by
    rw [hhistory, hhistory']
    exact hnew.append_left _
  obtain ⟨hbalance, hpool⟩ := (hs.run ops).audited.eq_of_perm (hs.run ops').audited hall
  refine ⟨hbalance, hpool, Std.ExtTreeMap.ext_getElem? fun name => ?_,
    Std.ExtTreeSet.ext_mem fun a => ?_, _, _, hhistory, hhistory', hnew⟩
  · simp only [t, t', Operation.getElem?_modules_run, hperm.mem_iff]
  · rw [Operation.mem_blocked_run, Operation.mem_blocked_run, hperm.mem_iff]

namespace Example

/-- A module is registered and issues supply, Alice pays Bob and the community pool, and
Bob is blocked. -/
def business : List Operation :=
  [.registerModule mintModule, .mintToModule mintModule "unova" 10,
    .send ctx alice bob (Coins.single "unova" 3),
    .fundCommunityPool ctx (Coins.single "unova" 5) alice,
    .sendFromModuleToAccount ctx mintModule bob (Coins.single "unova" 4), .blockAddress bob]

/-- The same, with the payments of Alice first. -/
def reordered : List Operation :=
  [.fundCommunityPool ctx (Coins.single "unova" 5) alice,
    .send ctx alice bob (Coins.single "unova" 3), .registerModule mintModule,
    .mintToModule mintModule "unova" 10,
    .sendFromModuleToAccount ctx mintModule bob (Coins.single "unova" 4), .blockAddress bob]

end Example

open Example in
/-- Both orders succeed.  Their histories differ, and Bob has the same in the end. -/
theorem run_perm_example :
    ledger.Reachable ∧ business.Perm reordered ∧ Operation.AllSucceed ledger business ∧
    Operation.AllSucceed ledger reordered ∧
    (Operation.run ledger business).history ≠ (Operation.run ledger reordered).history ∧
    (Operation.run ledger business).balance bob "unova" = 7 ∧
    (Operation.run ledger reordered).balance bob "unova" = 7 := by
  have hs : ledger.Reachable := ⟨_, rfl⟩
  have hperm : business.Perm reordered := by decide +kernel
  have hok : Operation.AllSucceed ledger business := by decide +kernel
  have hok' : Operation.AllSucceed ledger reordered := by decide +kernel
  have hbob : (Operation.run ledger business).balance bob "unova" = 7 := by decide +kernel
  obtain ⟨hbalance, -⟩ := run_perm hs hperm hok hok'
  exact ⟨hs, hperm, hok, hok', by decide +kernel, hbob, (hbalance bob "unova").symm.trans hbob⟩

end Ledger

end CoinTransfer
