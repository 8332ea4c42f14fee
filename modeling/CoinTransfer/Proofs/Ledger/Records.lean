import CoinTransfer.Proofs.Ledger.Atomic
import CoinTransfer.Proofs.Ledger.History
import CoinTransfer.Proofs.Ledger.Registry

/-!
# CoinTransfer.Proofs.Ledger.Records

What operations write into the history.  An operation that succeeds appends its
`records`, which follow from its arguments alone, since registered modules have the
addresses of their names.  An operation that fails appends nothing, and nothing is
ever taken back.

A deposit into the community pool is recorded right after the transfer that pays it.
This is seen on the records of one operation, and is carried to the whole history by
`Event.Paired.append`.
-/

namespace CoinTransfer

open Ledger

/-! ## What one operation records -/

namespace Operation

/-- What an operation records if it succeeds.  Modules stand for the addresses of
their names. -/
def records : Operation → List Event
  | .registerModule _ => []
  | .blockAddress _ => []
  | .deposit a denom n => [.minted a ⟨denom, n⟩]
  | .mintToModule name denom n => [.minted (Address.ofModule name) ⟨denom, n⟩]
  | .send ctx sender recipient amount => [.transfer ctx.blockHeight sender recipient amount]
  | .sendFromModuleToAccount ctx sender recipient amount =>
      [.transfer ctx.blockHeight (Address.ofModule sender) recipient amount]
  | .sendFromModuleToModule ctx sender recipient amount =>
      [.transfer ctx.blockHeight (Address.ofModule sender) (Address.ofModule recipient) amount]
  | .sendFromAccountToModule ctx sender recipient amount =>
      [.transfer ctx.blockHeight sender (Address.ofModule recipient) amount]
  | .fundCommunityPool ctx amount depositor =>
      [.transfer ctx.blockHeight depositor treasury amount,
        .communityPoolFunded ctx.blockHeight depositor amount]

end Operation

namespace Ledger

variable {s : Ledger} {op : Operation} {eff : Effect}

/-- What an effect records does not show how its accounts were named. -/
theorem Registered.records_eq (h : s.Registered) (hresolve : op.resolve s = .ok eff) :
    eff.records = op.records := by
  cases Operation.resolves_of_resolve hresolve with
  | mintToModule denom n ha =>
    rw [h.derived _ _ ha]
    rfl
  | sendFromModuleToAccount ctx amount ha hopen =>
    rw [h.derived _ _ ha]
    rfl
  | sendFromModuleToModule ctx amount ha hb =>
    rw [h.derived _ _ ha, h.derived _ _ hb]
    rfl
  | sendFromAccountToModule ctx sender amount hb =>
    rw [h.derived _ _ hb]
    rfl
  | fundCommunityPool ctx amount depositor hholder =>
    rw [h.holder_eq hresolve]
    rfl
  | _ => rfl

/-- A call that succeeds adds its records to the history, and one that fails adds nothing. -/
theorem Registered.history_apply (h : s.Registered) (op : Operation) :
    (op.apply s).history =
      s.history ++ if (op.perform s).result.isOk then op.records else [] := by
  cases he : op.effect s with
  | ok eff =>
    obtain ⟨hresolve, -⟩ := Operation.effect_eq_ok_iff.1 he
    rw [Operation.apply_of_effect he, Operation.perform_of_effect he, history_after,
      h.records_eq hresolve]
    rfl
  | error e =>
    rw [Operation.apply_of_error he, Operation.perform_of_error he]
    exact (List.append_nil _).symm

/-! ## The history grows -/

/-- A run only adds to the history. -/
theorem Registered.history_prefix_run (h : s.Registered) (ops : List Operation) :
    s.history <+: (Operation.run s ops).history := by
  induction ops generalizing s with
  | nil => exact List.prefix_rfl
  | cons op ops ih =>
      have hstep : s.history <+: (op.apply s).history := by
        rw [h.history_apply op]
        exact List.prefix_append _ _
      exact hstep.trans (ih (h.apply op))

end Ledger

/-! ## Deposits and the transfers that pay them -/

namespace Event

/-- Right before every deposit into the community pool stands the transfer of the same
coins, at the same height, from the depositor to the account of the pool. -/
def Paired (log : List Event) : Prop :=
  ∀ front back height depositor amount,
    log = front ++ .communityPoolFunded height depositor amount :: back →
      ∃ rest, front = rest ++ [.transfer height depositor treasury amount]

theorem paired_nil : Paired [] := by
  intro front back height depositor amount h
  simp at h

/-- Histories whose deposits follow their transfers can be put together. -/
theorem Paired.append {log new : List Event} (h : Paired log) (hnew : Paired new) :
    Paired (log ++ new) := by
  intro front back height depositor amount heq
  -- The deposit is among the old events, or among the new ones.
  obtain ⟨mid, rfl, hmid⟩ | ⟨mid, hlog, hback⟩ := List.append_eq_append_iff.1 heq
  · obtain ⟨rest, rfl⟩ := hnew mid back height depositor amount hmid
    exact ⟨log ++ rest, (List.append_assoc ..).symm⟩
  · cases mid with
    | nil =>
      obtain ⟨rest, hrest⟩ := hnew [] back height depositor amount hback.symm
      simp at hrest
    | cons e mid =>
      obtain ⟨rfl, -⟩ := List.cons.inj hback
      exact h front mid height depositor amount hlog

/-- An event that is no deposit needs no transfer before it. -/
theorem paired_singleton {e : Event}
    (h : ∀ height depositor amount, e ≠ .communityPoolFunded height depositor amount) :
    Paired [e] := by
  intro front back height depositor amount heq
  have hmem : .communityPoolFunded height depositor amount ∈ [e] := by
    rw [heq]
    simp
  exact absurd (List.mem_singleton.1 hmem).symm (h height depositor amount)

/-- A deposit right behind its own transfer is paired. -/
theorem paired_deposit (height : UInt64) (depositor : Address) (amount : Coins) :
    Paired [.transfer height depositor treasury amount,
      .communityPoolFunded height depositor amount] := by
  intro front back height' depositor' amount' heq
  -- Of the two events only the second is a deposit.
  obtain _ | ⟨e, _ | ⟨e', front⟩⟩ := front
  · simp at heq
  · simp only [List.singleton_append, List.cons.injEq] at heq
    obtain ⟨rfl, hdeposit, -⟩ := heq
    cases hdeposit
    exact ⟨[], rfl⟩
  · simp at heq

end Event

/-- Every operation records a deposit right behind its transfer. -/
theorem Operation.paired_records (op : Operation) : Event.Paired op.records := by
  cases op with
  | registerModule name => exact Event.paired_nil
  | blockAddress a => exact Event.paired_nil
  | fundCommunityPool ctx amount depositor => exact Event.paired_deposit _ _ _
  | _ => exact Event.paired_singleton fun _ _ _ h => Event.noConfusion h

namespace Ledger

/-- In the history of every run, deposits follow their transfers. -/
theorem paired_run (ops : List Operation) : Event.Paired (Operation.run initial ops).history := by
  refine (Operation.run_induction (P := fun s => s.Registered ∧ Event.Paired s.history)
    ⟨registered_initial, Event.paired_nil⟩ (fun s op eff h he => ?_) ops).2
  obtain ⟨hresolve, -⟩ := Operation.effect_eq_ok_iff.1 he
  refine ⟨h.1.after eff, ?_⟩
  rw [history_after, h.1.records_eq hresolve]
  exact h.2.append op.paired_records

/-- **Discipline of the history**: what is recorded stays at the front of the history,
an operation appends its records if it succeeds and nothing if it fails, and every
deposit into the community pool follows the transfer that pays it. -/
theorem history_of_operations (ops : List Operation) :
    let s := Operation.run initial ops
    (∀ more, s.history <+: (Operation.run s more).history) ∧
    (∀ op : Operation, (op.apply s).history =
      s.history ++ if (op.perform s).result.isOk then op.records else []) ∧
    Event.Paired s.history :=
  ⟨(registered_run ops).history_prefix_run, (registered_run ops).history_apply, paired_run ops⟩

end Ledger

end CoinTransfer
