import CoinTransfer.Ledger.Operation
import CoinTransfer.Proofs.Ledger.Transfer

/-!
# CoinTransfer.Proofs.Ledger.Effect

The nine operations come down to five effects.  An operation first resolves the
modules that it names; what is left is an `Effect`, which is checked against the
state and then either happens as a whole or not at all:

* `Operation.perform_of_effect` — an operation whose effect passes its check
  answers, and leaves the state after the effect;
* `Operation.perform_of_error` — any other one fails and leaves the state alone.

So a property of every state that a run can reach needs one proof for each effect
(`Operation.run_induction`).
-/

namespace CoinTransfer

namespace Ledger

/-- The address of a registered module account, or why there is none. -/
def moduleAccount (s : Ledger) (name : String) : Except KeeperError Address :=
  match s.modules[name]? with
  | some a => .ok a
  | none => .error (.unknownModule name)

/-- The state after new supply has been created in an account. -/
def minted (s : Ledger) (a : Address) (denom : String) (n : Amount) : Ledger :=
  { s with balances := s.balances.credited a denom n }.record (.minted a ⟨denom, n⟩)

/-- To look a module up changes nothing. -/
theorem moduleAddress_apply (s : Ledger) (name : String) :
    moduleAddress name s = ⟨s.moduleAccount name, s, []⟩ := by
  simp only [moduleAddress, Action.bind_apply, Action.get_apply, moduleAccount]
  cases s.modules[name]? <;> rfl

/-- A module has an account if it is registered, and that is the one it is registered with. -/
theorem moduleAccount_eq_ok_iff {s : Ledger} {name : String} {a : Address} :
    s.moduleAccount name = .ok a ↔ s.modules[name]? = some a := by
  unfold moduleAccount
  split <;> simp_all

end Ledger

/-- What an operation comes down to when the modules it names are resolved. -/
inductive Effect where
  | register (name : String)
  | block (a : Address)
  | mint (a : Address) (denom : String) (n : Amount)
  | move (ctx : Context) (sender recipient : Address) (amount : Coins)
  /-- The holder is the account of the community pool. -/
  | fund (ctx : Context) (depositor holder : Address) (amount : Coins)

namespace Effect

/-- Whether an effect can happen. -/
def check (s : Ledger) : Effect → Except KeeperError Unit
  | .register _ => .ok ()
  | .block _ => .ok ()
  | .mint a denom n =>
      if (s.balance a denom).toNat + n.toNat < UInt64.size then .ok ()
      else .error (.overflow denom n)
  | .move _ sender recipient amount => s.checkCoins sender recipient amount.toList
  | .fund _ depositor holder amount => do
      s.checkPoolCoins amount.toList
      s.checkCoins depositor holder amount.toList

/-- New supply can be created if the balance has room for it. -/
theorem check_mint_eq_ok_iff {s : Ledger} {a : Address} {denom : String} {n : Amount} :
    (mint a denom n).check s = .ok () ↔ (s.balance a denom).toNat + n.toNat < UInt64.size := by
  simp [check]

/-- A deposit can happen if the totals have room for it and its coins can be moved. -/
theorem check_fund_eq_ok_iff {s : Ledger} {ctx : Context} {depositor holder : Address}
    {amount : Coins} :
    (fund ctx depositor holder amount).check s = .ok () ↔
      s.checkPoolCoins amount.toList = .ok () ∧
        s.checkCoins depositor holder amount.toList = .ok () := by
  rw [check]
  cases s.checkPoolCoins amount.toList <;> simp [bind, Except.bind]

/-- The state after an effect that can happen. -/
def after (s : Ledger) : Effect → Ledger
  | .register name => s.register name
  | .block a => s.block a
  | .mint a denom n => s.minted a denom n
  | .move ctx sender recipient amount => s.moved ctx sender recipient amount
  | .fund ctx depositor holder amount =>
      (s.moved ctx depositor holder amount).addToPool ctx depositor amount

/-- The answer of an operation with an effect. -/
def reply (s : Ledger) : Effect → Reply
  | .register name => .address (Address.ofModule name)
  | .mint a denom n => .balance (s.balance a denom + n)
  | _ => .done

/-- What is logged about an effect. -/
def log : Effect → List Log.Record
  | .move ctx sender recipient amount => [Ledger.transferRecord ctx sender recipient amount]
  | .fund ctx depositor holder amount => [Ledger.transferRecord ctx depositor holder amount]
  | _ => []

/-- What an effect leaves behind: it happens as a whole or not at all. -/
def outcome (s : Ledger) (eff : Effect) : Outcome Ledger KeeperError Reply :=
  match eff.check s with
  | .ok () => ⟨.ok (eff.reply s), eff.after s, eff.log⟩
  | .error e => ⟨.error e, s, []⟩

/-- An effect that passes its check happens. -/
theorem outcome_of_ok {s : Ledger} {eff : Effect} (h : eff.check s = .ok ()) :
    eff.outcome s = ⟨.ok (eff.reply s), eff.after s, eff.log⟩ := by
  rw [outcome, h]

/-- An effect that does not pass its check leaves the ledger alone. -/
theorem outcome_of_error {s : Ledger} {eff : Effect} {e : KeeperError}
    (h : eff.check s = .error e) : eff.outcome s = ⟨.error e, s, []⟩ := by
  rw [outcome, h]

/-! ## The calls with an effect -/

open Ledger

/-- A deposit into an account is the creation of new supply. -/
theorem deposit_eq_outcome (s : Ledger) (a : Address) (denom : String) (n : Amount) :
    (Reply.balance <$> deposit a denom n) s = (mint a denom n).outcome s := by
  rw [Action.map_apply]
  by_cases h : (s.balance a denom).toNat + n.toNat < UInt64.size
  · have hcheck : (mint a denom n).check s = .ok () := if_pos h
    rw [outcome_of_ok hcheck, deposit, Action.bind_of_ok (credit_of_fits h)]
    rfl
  · have hcheck : (mint a denom n).check s = .error (.overflow denom n) := if_neg h
    rw [outcome_of_error hcheck, deposit, Action.bind_of_error (credit_of_overflow h)]
    rfl

/-- A transfer between accounts is a move of coins. -/
theorem transfer_eq_outcome (s : Ledger) (ctx : Context) (sender recipient : Address)
    (amount : Coins) :
    ((fun _ => Reply.done) <$> transfer ctx sender recipient amount) s =
      (move ctx sender recipient amount).outcome s := by
  have hcheck : (move ctx sender recipient amount).check s =
      s.checkCoins sender recipient amount.toList := rfl
  rw [Action.map_apply]
  cases h : s.checkCoins sender recipient amount.toList with
  | ok _ =>
    rw [transfer_of_ok h, outcome_of_ok (hcheck.trans h)]
    rfl
  | error e =>
    rw [transfer_of_error h, outcome_of_error (hcheck.trans h)]
    rfl

/-- The part of a deposit into the community pool that follows the look-up of its
account. -/
theorem fund_eq_outcome (s : Ledger) (ctx : Context) (depositor holder : Address)
    (amount : Coins) :
    ((fun _ => Reply.done) <$> (do
      Action.ofExcept ((← Action.get).checkPoolCoins amount.toList)
      transfer ctx depositor holder amount
      Action.modify (·.addToPool ctx depositor amount) : Call Unit)) s =
        (fund ctx depositor holder amount).outcome s := by
  have hcheck : (fund ctx depositor holder amount).check s =
      (s.checkPoolCoins amount.toList >>= fun _ =>
        s.checkCoins depositor holder amount.toList) := rfl
  simp only [Action.map_apply, Action.bind_apply, Action.get_apply, Action.ofExcept_apply]
  cases hp : s.checkPoolCoins amount.toList with
  | error e =>
    rw [hp] at hcheck
    rw [outcome_of_error hcheck]
    rfl
  | ok _ =>
    rw [hp] at hcheck
    cases h : s.checkCoins depositor holder amount.toList with
    | ok _ =>
      rw [outcome_of_ok (hcheck.trans h)]
      simp only [transfer_of_ok h]
      rfl
    | error e =>
      rw [outcome_of_error (hcheck.trans h)]
      simp only [transfer_of_error h]
      rfl

/-- What an operation leaves behind whose effect has been found, or has not. -/
def settle (s : Ledger) : Except KeeperError Effect → Outcome Ledger KeeperError Reply
  | .ok eff => eff.outcome s
  | .error e => ⟨.error e, s, []⟩

/-- To look a module up and go on is to settle what the effect is. -/
theorem moduleAddress_bind_eq_settle {s : Ledger} {f : Address → Call Reply}
    {g : Address → Except KeeperError Effect} (name : String)
    (h : ∀ a, f a s = settle s (g a)) :
    (moduleAddress name >>= f) s = settle s (s.moduleAccount name >>= g) := by
  rw [Action.bind_apply, moduleAddress_apply]
  cases hm : s.moduleAccount name with
  | ok a => exact h a
  | error e => rfl

end Effect

namespace Operation

open Ledger Effect

/-- The effect that an operation asks for. -/
def resolve (s : Ledger) : Operation → Except KeeperError Effect
  | .registerModule name => .ok (.register name)
  | .blockAddress a => .ok (.block a)
  | .deposit a denom n => .ok (.mint a denom n)
  | .mintToModule name denom n => do
      let a ← s.moduleAccount name
      .ok (.mint a denom n)
  | .send ctx sender recipient amount => .ok (.move ctx sender recipient amount)
  | .sendFromModuleToAccount ctx sender recipient amount => do
      let a ← s.moduleAccount sender
      if recipient ∈ s.blocked then
        .error (.unauthorized s!"{recipient.hex} is not allowed to receive funds")
      else .ok (.move ctx a recipient amount)
  | .sendFromModuleToModule ctx sender recipient amount => do
      let a ← s.moduleAccount sender
      let b ← s.moduleAccount recipient
      .ok (.move ctx a b amount)
  | .sendFromAccountToModule ctx sender recipient amount => do
      let b ← s.moduleAccount recipient
      .ok (.move ctx sender b amount)
  | .fundCommunityPool ctx amount depositor => do
      let holder ← s.moduleAccount distributionModule
      .ok (.fund ctx depositor holder amount)

/-- The operations that come down to an effect, with the modules they look up. -/
inductive Resolves (s : Ledger) : Operation → Effect → Prop
  | registerModule (name : String) : Resolves s (.registerModule name) (.register name)
  | blockAddress (a : Address) : Resolves s (.blockAddress a) (.block a)
  | deposit (a : Address) (denom : String) (n : Amount) :
      Resolves s (.deposit a denom n) (.mint a denom n)
  | mintToModule {name : String} {a : Address} (denom : String) (n : Amount)
      (ha : s.modules[name]? = some a) : Resolves s (.mintToModule name denom n) (.mint a denom n)
  | send (ctx : Context) (sender recipient : Address) (amount : Coins) :
      Resolves s (.send ctx sender recipient amount) (.move ctx sender recipient amount)
  | sendFromModuleToAccount {sender : String} {recipient a : Address} (ctx : Context)
      (amount : Coins) (ha : s.modules[sender]? = some a) (hopen : recipient ∉ s.blocked) :
      Resolves s (.sendFromModuleToAccount ctx sender recipient amount)
        (.move ctx a recipient amount)
  | sendFromModuleToModule {sender recipient : String} {a b : Address} (ctx : Context)
      (amount : Coins) (ha : s.modules[sender]? = some a) (hb : s.modules[recipient]? = some b) :
      Resolves s (.sendFromModuleToModule ctx sender recipient amount) (.move ctx a b amount)
  | sendFromAccountToModule {recipient : String} {b : Address} (ctx : Context)
      (sender : Address) (amount : Coins) (hb : s.modules[recipient]? = some b) :
      Resolves s (.sendFromAccountToModule ctx sender recipient amount) (.move ctx sender b amount)
  | fundCommunityPool {holder : Address} (ctx : Context) (amount : Coins) (depositor : Address)
      (hholder : s.modules[distributionModule]? = some holder) :
      Resolves s (.fundCommunityPool ctx amount depositor) (.fund ctx depositor holder amount)

/-- What an operation resolves to, by its kind, with the look-ups on the way. -/
theorem resolves_of_resolve {s : Ledger} {op : Operation} {eff : Effect}
    (h : op.resolve s = .ok eff) : op.Resolves s eff := by
  cases op with
  | registerModule name =>
    cases h
    exact .registerModule name
  | blockAddress a =>
    cases h
    exact .blockAddress a
  | deposit a denom n =>
    cases h
    exact .deposit a denom n
  | mintToModule name denom n =>
    obtain ⟨a, ha, h⟩ := Except.bind_eq_ok_iff.1 h
    cases h
    exact .mintToModule denom n (moduleAccount_eq_ok_iff.1 ha)
  | send ctx sender recipient amount =>
    cases h
    exact .send ctx sender recipient amount
  | sendFromModuleToAccount ctx sender recipient amount =>
    obtain ⟨a, ha, h⟩ := Except.bind_eq_ok_iff.1 h
    split at h
    · cases h
    · next hopen =>
      cases h
      exact .sendFromModuleToAccount ctx amount (moduleAccount_eq_ok_iff.1 ha) hopen
  | sendFromModuleToModule ctx sender recipient amount =>
    obtain ⟨a, ha, h⟩ := Except.bind_eq_ok_iff.1 h
    obtain ⟨b, hb, h⟩ := Except.bind_eq_ok_iff.1 h
    cases h
    exact .sendFromModuleToModule ctx amount (moduleAccount_eq_ok_iff.1 ha)
      (moduleAccount_eq_ok_iff.1 hb)
  | sendFromAccountToModule ctx sender recipient amount =>
    obtain ⟨b, hb, h⟩ := Except.bind_eq_ok_iff.1 h
    cases h
    exact .sendFromAccountToModule ctx sender amount (moduleAccount_eq_ok_iff.1 hb)
  | fundCommunityPool ctx amount depositor =>
    obtain ⟨holder, hholder, h⟩ := Except.bind_eq_ok_iff.1 h
    cases h
    exact .fundCommunityPool ctx amount depositor (moduleAccount_eq_ok_iff.1 hholder)

/-- An operation does what its effect does. -/
theorem perform_apply (op : Operation) (s : Ledger) : op.perform s = settle s (op.resolve s) := by
  cases op with
  | registerModule name => rfl
  | blockAddress a => rfl
  | deposit a denom n => exact deposit_eq_outcome s a denom n
  | mintToModule name denom n =>
    rw [perform, Ledger.mintToModule, map_bind]
    exact moduleAddress_bind_eq_settle name fun a => deposit_eq_outcome s a denom n
  | send ctx sender recipient amount => exact transfer_eq_outcome s ctx sender recipient amount
  | sendFromModuleToAccount ctx sender recipient amount =>
    rw [perform, Ledger.sendFromModuleToAccount, map_bind]
    refine moduleAddress_bind_eq_settle sender fun a => ?_
    rw [map_bind, checkNotBlocked, bind_assoc, Action.bind_of_ok (Action.get_apply s)]
    by_cases hb : recipient ∈ s.blocked
    · simp only [hb, if_true]
      rfl
    · simp only [hb, if_false, pure_bind]
      exact transfer_eq_outcome s ctx a recipient amount
  | sendFromModuleToModule ctx sender recipient amount =>
    rw [perform, Ledger.sendFromModuleToModule, map_bind]
    refine moduleAddress_bind_eq_settle sender fun a => ?_
    rw [map_bind]
    exact moduleAddress_bind_eq_settle recipient fun b => transfer_eq_outcome s ctx a b amount
  | sendFromAccountToModule ctx sender recipient amount =>
    rw [perform, Ledger.sendFromAccountToModule, map_bind]
    exact moduleAddress_bind_eq_settle recipient fun b => transfer_eq_outcome s ctx sender b amount
  | fundCommunityPool ctx amount depositor =>
    rw [perform, Ledger.fundCommunityPool, map_bind]
    exact moduleAddress_bind_eq_settle distributionModule fun holder =>
      fund_eq_outcome s ctx depositor holder amount

/-! ## Success and failure -/

/-- The effect of an operation, if it can happen. -/
def effect (s : Ledger) (op : Operation) : Except KeeperError Effect := do
  let eff ← op.resolve s
  eff.check s
  return eff

variable {s : Ledger} {op : Operation} {eff : Effect}

/-- An operation has the effect that it resolves to, if that passes its check. -/
theorem effect_eq_ok_iff :
    op.effect s = .ok eff ↔ op.resolve s = .ok eff ∧ eff.check s = .ok () := by
  unfold effect
  cases hr : op.resolve s with
  | error e => simp [bind, Except.bind]
  | ok eff' =>
    cases hc : eff'.check s with
    | error e =>
      simp only [hc, bind, Except.bind, reduceCtorEq, Except.ok.injEq, false_iff]
      rintro ⟨rfl, h⟩
      rw [hc] at h
      cases h
    | ok _ =>
      simp only [hc, bind, Except.bind, pure, Except.pure, Except.ok.injEq]
      exact ⟨fun h => ⟨h, h ▸ hc⟩, fun h => h.1⟩

/-- An operation has no effect because it resolves to none or because the check fails. -/
theorem effect_eq_error_iff {e : KeeperError} :
    op.effect s = .error e ↔
      op.resolve s = .error e ∨ ∃ eff, op.resolve s = .ok eff ∧ eff.check s = .error e := by
  unfold effect
  cases hr : op.resolve s with
  | error e' => simp [bind, Except.bind]
  | ok eff' =>
    cases hc : eff'.check s with
    | error e' => simp [hc, bind, Except.bind]
    | ok _ => simp [hc, bind, Except.bind, pure, Except.pure]

/-- An operation with an effect answers, and leaves the state after the effect. -/
theorem perform_of_effect (h : op.effect s = .ok eff) :
    op.perform s = ⟨.ok (eff.reply s), eff.after s, eff.log⟩ := by
  obtain ⟨hr, hc⟩ := effect_eq_ok_iff.1 h
  rw [perform_apply, hr, settle, outcome_of_ok hc]

/-- An operation without an effect fails, and leaves the state alone. -/
theorem perform_of_error {e : KeeperError} (h : op.effect s = .error e) :
    op.perform s = ⟨.error e, s, []⟩ := by
  rw [perform_apply]
  obtain hr | ⟨eff, hr, hc⟩ := effect_eq_error_iff.1 h
  · rw [hr, settle]
  · rw [hr, settle, outcome_of_error hc]

/-- An operation fails for the reason for which its effect cannot happen. -/
theorem effect_of_result_error {e : KeeperError} (h : (op.perform s).result = .error e) :
    op.effect s = .error e := by
  cases he : op.effect s with
  | ok eff =>
    rw [perform_of_effect he] at h
    cases h
  | error e' =>
    rw [perform_of_error he] at h
    cases h
    rfl

/-- The state after an operation with an effect. -/
theorem apply_of_effect (h : op.effect s = .ok eff) : op.apply s = eff.after s := by
  rw [apply, perform_of_effect h]

/-- The state after an operation without an effect is the one before it. -/
theorem apply_of_error {e : KeeperError} (h : op.effect s = .error e) : op.apply s = s := by
  rw [apply, perform_of_error h]

/-- What holds at the start and is kept by every effect that happens holds after
every run. -/
theorem run_induction {P : Ledger → Prop} (start : P initial)
    (step : ∀ (s : Ledger) (op : Operation) (eff : Effect), P s → op.effect s = .ok eff →
      P (eff.after s))
    (ops : List Operation) : P (run initial ops) := by
  -- The operations are taken one by one, each from the state that the one before left.
  suffices h : ∀ s, P s → P (run s ops) from h initial start
  induction ops with
  | nil => exact fun s hs => hs
  | cons op ops ih =>
    intro s hs
    refine ih _ ?_
    cases he : op.effect s with
    | ok eff => exact apply_of_effect he ▸ step s op eff hs he
    | error e => exact (apply_of_error he).symm ▸ hs

end Operation

/-- A run from a state that can be reached leads to such a state. -/
theorem Ledger.Reachable.run {s : Ledger} (h : s.Reachable) (ops : List Operation) :
    (Operation.run s ops).Reachable := by
  obtain ⟨front, rfl⟩ := h
  exact ⟨front ++ ops, (Operation.run_append ..).symm⟩

end CoinTransfer
