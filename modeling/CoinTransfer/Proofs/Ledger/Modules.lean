import CoinTransfer.Proofs.Address.Codec
import CoinTransfer.Proofs.Ledger.Atomic
import CoinTransfer.Proofs.Ledger.Registry

/-!
# CoinTransfer.Proofs.Ledger.Modules

Modules as the ends of a route.  The account of a registered module is the one that
its name stands for, and the text that is written for it is read back, so a route
that names the module does what the route between addresses does that is given this
text (`Teller.transfer_by_text`).  All that is peculiar to modules is that they may
not pay a blocked account.

A name that is not registered is refused by the bank.  The directory derives an
account for any name, and so a deposit into the treasury is the deposit of this
account, whether the name is registered or not (`Teller.transfer_of_unregistered`).
-/

namespace CoinTransfer

open Ledger

/-! ## Operations that name modules -/

namespace Operation

variable {s : Ledger} {ctx : Context} {amount : Coins} {name other : String}

/-- Between registered modules, coins are sent from the one account to the other. -/
theorem resolve_sendFromModuleToModule (h : s.Registered) (hname : name ∈ s.modules)
    (hother : other ∈ s.modules) :
    (sendFromModuleToModule ctx name other amount).resolve s =
      (send ctx (Address.ofModule name) (Address.ofModule other) amount).resolve s :=
  (h.moduleAccount_bind hname _).trans (h.moduleAccount_bind hother _)

/-- To a registered module, coins are sent to its account. -/
theorem resolve_sendFromAccountToModule (h : s.Registered) (hname : name ∈ s.modules)
    (sender : Address) :
    (sendFromAccountToModule ctx sender name amount).resolve s =
      (send ctx sender (Address.ofModule name) amount).resolve s :=
  h.moduleAccount_bind hname _

/-- From a registered module, coins are sent from its account, to an account that is not
blocked. -/
theorem resolve_sendFromModuleToAccount (h : s.Registered) (hname : name ∈ s.modules)
    {recipient : Address} (hopen : recipient ∉ s.blocked) :
    (sendFromModuleToAccount ctx name recipient amount).resolve s =
      (send ctx (Address.ofModule name) recipient amount).resolve s :=
  (h.moduleAccount_bind hname _).trans (if_neg hopen)

/-- A deposit goes to the account of the pool in every state that a run can reach. -/
theorem resolve_fundCommunityPool (h : s.Registered) (ctx : Context) (amount : Coins)
    (depositor : Address) :
    (fundCommunityPool ctx amount depositor).resolve s =
      .ok (.fund ctx depositor treasury amount) :=
  h.moduleAccount_bind h.distribution_mem _

end Operation

namespace Teller

variable {s : Ledger} {t : Teller} {ctx : Context} {amount : Amount} {name other : String}

/-! ## Registered modules -/

/-- The text that a teller writes for the account of a module. -/
def moduleText (t : Teller) (name : String) : String :=
  t.codec.spelling (Address.ofModule name) none

/-- The text of a module's account is read as this account. -/
theorem read_moduleText (t : Teller) (role : Role) (name : String) :
    t.read role (t.moduleText name) = .ok (Address.ofModule name) := by
  rw [read_eq_ok_iff, moduleText, AddressCodec.decode_spelling]
  exact if_pos rfl

/-- Between registered modules, names do what the texts of their accounts do. -/
theorem settlement_moduleToModule (h : s.Registered) (hname : name ∈ s.modules)
    (hother : other ∈ s.modules) :
    settlement s (t.operation ctx amount (.moduleToModule name other)) =
      settlement s
        (t.operation ctx amount (.addressToAddress (t.moduleText name) (t.moduleText other))) := by
  simp only [operation, read_moduleText, bind, Except.bind]
  exact settlement_congr (Operation.resolve_sendFromModuleToModule h hname hother)

/-- To a registered module, its name does what the text of its account does. -/
theorem settlement_addressToModule (h : s.Registered) (hname : name ∈ s.modules)
    (sender : String) :
    settlement s (t.operation ctx amount (.addressToModule sender name)) =
      settlement s (t.operation ctx amount (.addressToAddress sender (t.moduleText name))) := by
  refine settlement_bind_congr fun a _ => ?_
  rw [read_moduleText]
  exact settlement_congr (Operation.resolve_sendFromAccountToModule h hname a)

/-- A recipient that cannot be read is no account that may be blocked. -/
theorem settlement_moduleToAddress (h : s.Registered) (hname : name ∈ s.modules)
    {recipient : String} (hopen : ∀ b, t.codec.decode recipient = .ok b → b ∉ s.blocked) :
    settlement s (t.operation ctx amount (.moduleToAddress name recipient)) =
      settlement s (t.operation ctx amount (.addressToAddress (t.moduleText name) recipient)) := by
  simp only [operation, read_moduleText]
  refine settlement_bind_congr fun b hb => ?_
  exact settlement_congr
    (Operation.resolve_sendFromModuleToAccount h hname (hopen b (read_eq_ok_iff.1 hb)))

/-- Into the treasury, any name does what the text of its account does, registered or not. -/
theorem operation_moduleToTreasury (t : Teller) (ctx : Context) (amount : Amount)
    (name : String) :
    t.operation ctx amount (.moduleToTreasury name) =
      t.operation ctx amount (.addressToTreasury (t.moduleText name)) := by
  simp only [operation, read_moduleText]
  rfl

/-- **Modules are accounts**: a route that names registered modules gives the answer,
and leaves the ledger, that the route between addresses does that is given what is
written for their accounts.  A deposit into the treasury does so for any module. -/
theorem transfer_by_text (hs : s.Reachable) (t : Teller) (ctx : Context) (amount : Amount) :
    let settled route := (t.transfer host ctx amount route s).withoutLog
    ∃ text : String → String,
      (∀ name, t.codec.encode (Address.ofModule name) = .ok (text name)) ∧
      (∀ name, settled (.moduleToTreasury name) = settled (.addressToTreasury (text name))) ∧
      ∀ name ∈ s.modules,
        (∀ other ∈ s.modules, settled (.moduleToModule name other) =
          settled (.addressToAddress (text name) (text other))) ∧
        (∀ sender, settled (.addressToModule sender name) =
          settled (.addressToAddress sender (text name))) ∧
        ∀ recipient, (∀ b, t.codec.decode recipient = .ok b → b ∉ s.blocked) →
          settled (.moduleToAddress name recipient) =
            settled (.addressToAddress (text name) recipient) := by
  intro settled
  have h := hs.registered
  refine ⟨t.moduleText, fun name => AddressCodec.encode_eq_ok t.codec _, fun name => ?_,
    fun name hname => ⟨fun other hother => ?_, fun sender => ?_, fun recipient hopen => ?_⟩⟩
  all_goals simp only [settled, withoutLog_transfer]
  · rw [operation_moduleToTreasury]
  · exact settlement_moduleToModule h hname hother
  · exact settlement_addressToModule h hname sender
  · exact settlement_moduleToAddress h hname hopen

end Teller

namespace Ledger.Example

/-- The module that issues new supply is registered, and has issued some. -/
def issued : List Operation := [.registerModule mintModule, .mintToModule mintModule "unova" 10]

end Ledger.Example

open Ledger.Example in
/-- New supply goes to the account of the community pool, by the names of the modules
and by the texts of their accounts. -/
theorem Teller.transfer_by_text_example :
    (Operation.run initial issued).Reachable ∧ mintModule ∈ (Operation.run initial issued).modules ∧
    distributionModule ∈ (Operation.run initial issued).modules ∧
    ∃ text : String → String,
      teller.codec.encode (Address.ofModule mintModule) = .ok (text mintModule) ∧
      (teller.transfer host ctx 4 (.moduleToModule mintModule distributionModule)
        (Operation.run initial issued)).result = .ok () ∧
      (teller.transfer host ctx 4 (.moduleToModule mintModule distributionModule)
        (Operation.run initial issued)).withoutLog =
      (teller.transfer host ctx 4 (.addressToAddress (text mintModule) (text distributionModule))
        (Operation.run initial issued)).withoutLog := by
  have hs : (Operation.run initial issued).Reachable := ⟨issued, rfl⟩
  have hmint : mintModule ∈ (Operation.run initial issued).modules := by decide +kernel
  have hpool := hs.registered.distribution_mem
  obtain ⟨text, hencode, -, hroutes⟩ := Teller.transfer_by_text hs teller ctx 4
  refine ⟨hs, hmint, hpool, text, hencode mintModule, by decide +kernel, ?_⟩
  exact (hroutes mintModule hmint).1 distributionModule hpool

/-! ## Deposits of one coin -/

/-- What it takes for a deposit of one coin into the community pool: the pool can
count it, and the depositor can pay it to the account of the pool. -/
structure Ledger.Depositable (s : Ledger) (depositor : Address) (c : Coin) : Prop where
  counted : s.pool.Addable c
  paid : s.balances.Movable depositor treasury c

namespace Effect

variable {s : Ledger} {ctx : Context} {depositor : Address} {denom : String} {n : Amount}

/-- A coin of no amount is not in the set, and passes all checks as well. -/
theorem check_fund_single (s : Ledger) (ctx : Context) (depositor holder : Address)
    (denom : String) (n : Amount) :
    (fund ctx depositor holder (Coins.single denom n)).check s = (do
      s.checkPoolCoin ⟨denom, n⟩
      s.checkCoin depositor holder ⟨denom, n⟩) := by
  by_cases hn : n = 0
  · subst hn
    have hpool : s.checkPoolCoin ⟨denom, 0⟩ = .ok () :=
      checkPoolCoin_eq_ok_iff.2 (s.pool.amountOf denom).toNat_lt_size
    have hcoin : s.checkCoin depositor holder ⟨denom, 0⟩ = .ok () :=
      checkCoin_eq_ok_iff.2 ⟨UInt64.zero_le, fun _ => (s.balance holder denom).toNat_lt_size⟩
    rw [check, Coins.single_zero, hpool, hcoin]
    rfl
  · rw [check, Coins.toList_single denom hn]
    cases hpool : s.checkPoolCoin ⟨denom, n⟩ <;>
      cases hcoin : s.checkCoin depositor holder ⟨denom, n⟩ <;>
        simp [checkPoolCoins, checkCoins, hpool, hcoin]

/-- A deposit of one coin can happen if the depositor has it, and the totals and the account of
the pool have room for it. -/
theorem check_fund_single_eq_ok_iff :
    (fund ctx depositor treasury (Coins.single denom n)).check s = .ok () ↔
      s.Depositable depositor ⟨denom, n⟩ := by
  rw [check_fund_single, Except.bind_eq_ok_iff]
  constructor
  · rintro ⟨_, hcounted, hpaid⟩
    exact ⟨checkPoolCoin_eq_ok_iff.1 hcounted, checkCoin_eq_ok_iff.1 hpaid⟩
  · intro h
    exact ⟨(), checkPoolCoin_eq_ok_iff.2 h.counted, checkCoin_eq_ok_iff.2 h.paid⟩

/-- A deposit of one coin fails for want of funds or of room. -/
theorem check_fund_single_eq_error {holder : Address} {e : KeeperError}
    (h : (fund ctx depositor holder (Coins.single denom n)).check s = .error e) :
    e = .insufficientFunds depositor.hex denom (s.balance depositor denom) n ∨
      e = .overflow denom n := by
  rw [check_fund_single] at h
  cases hpool : s.checkPoolCoin ⟨denom, n⟩ with
  | error e' =>
    rw [hpool] at h
    cases h
    exact .inr (checkPoolCoin_eq_error_iff.1 hpool).2
  | ok _ =>
    rw [hpool] at h
    cases checkCoin_eq_error_iff.1 h with
    | lacking => exact .inl rfl
    | full => exact .inr rfl

end Effect

namespace Teller

variable {s : Ledger}

/-- A deposit of one coin happens if it can, and leaves the ledger alone otherwise. -/
theorem settlement_fundCommunityPool (h : s.Registered) (ctx : Context) (depositor : Address)
    (denom : String) (n : Amount) :
    let deposited := settlement s
      (.ok (.fundCommunityPool ctx (Coins.single denom n) depositor))
    (s.Depositable depositor ⟨denom, n⟩ → deposited = (.ok (),
      (Effect.fund ctx depositor treasury (Coins.single denom n)).after s)) ∧
    (¬ s.Depositable depositor ⟨denom, n⟩ →
      deposited = (.error (.keeper (.insufficientFunds depositor.hex denom
        (s.balance depositor denom) n)), s) ∨
      deposited = (.error (.keeper (.overflow denom n)), s)) := by
  have hresolve :=
    Operation.resolve_fundCommunityPool h ctx (Coins.single denom n) depositor
  refine ⟨fun hcan => ?_, fun hcannot => ?_⟩
  · exact settlement_of_check hresolve (Effect.check_fund_single_eq_ok_iff.2 hcan)
  · cases hcheck : (Effect.fund ctx depositor treasury (Coins.single denom n)).check s with
    | ok _ => exact absurd (Effect.check_fund_single_eq_ok_iff.1 hcheck) hcannot
    | error e =>
      have hleft := settlement_of_check_error hresolve hcheck
      obtain rfl | rfl := Effect.check_fund_single_eq_error hcheck
      · exact .inl hleft
      · exact .inr hleft

/-! ## Names that are not registered -/

/-- **Names that are not registered**: the bank refuses a route that names one, and
nothing changes.  A deposit into the treasury is that of the account derived from
the name: it is made exactly if this account can pay it and the totals allow it,
and nothing changes otherwise. -/
theorem transfer_of_unregistered (hs : s.Reachable) {name : String} (hname : name ∉ s.modules)
    (t : Teller) (ctx : Context) (amount : Amount) :
    let settled route := (t.transfer host ctx amount route s).withoutLog
    let refused := (Except.error (TransferError.keeper (.unknownModule name)), s)
    let depositor := Address.ofModule name
    (∀ recipient b, t.codec.decode recipient = .ok b →
      settled (.moduleToAddress name recipient) = refused) ∧
    (∀ sender a, t.codec.decode sender = .ok a →
      settled (.addressToModule sender name) = refused) ∧
    (∀ other, settled (.moduleToModule name other) = refused) ∧
    (∀ other ∈ s.modules, settled (.moduleToModule other name) = refused) ∧
    (s.Depositable depositor ⟨t.denom, amount⟩ → settled (.moduleToTreasury name) =
      (.ok (), (s.moved ctx depositor treasury (t.coins amount)).addToPool ctx depositor
        (t.coins amount))) ∧
    (¬ s.Depositable depositor ⟨t.denom, amount⟩ →
      settled (.moduleToTreasury name) = (.error (.keeper (.insufficientFunds depositor.hex
        t.denom (s.balance depositor t.denom) amount)), s) ∨
      settled (.moduleToTreasury name) = (.error (.keeper (.overflow t.denom amount)), s)) := by
  intro settled refused depositor
  have h := hs.registered
  have hdeposit := settlement_fundCommunityPool h ctx depositor t.denom amount
  simp only [settled, withoutLog_transfer]
  refine ⟨fun recipient b hb => ?_, fun sender a ha => ?_, fun other => ?_, fun other hother => ?_,
    hdeposit⟩
  · have hread : t.read .recipient recipient = .ok b := read_eq_ok_iff.2 hb
    simp only [operation, hread]
    exact settlement_of_resolve_error (moduleAccount_bind_of_not_mem hname _)
  · have hread : t.read .sender sender = .ok a := read_eq_ok_iff.2 ha
    simp only [operation, hread]
    exact settlement_of_resolve_error (moduleAccount_bind_of_not_mem hname _)
  · exact settlement_of_resolve_error (moduleAccount_bind_of_not_mem hname _)
  · exact settlement_of_resolve_error
      ((h.moduleAccount_bind hother _).trans (moduleAccount_bind_of_not_mem hname _))

end Teller

namespace Ledger.Example

/-- The account of a name that is not registered holds coins. -/
def haunted : List Operation := [.deposit (Address.ofModule "ghost") "unova" 5]

theorem reachable_haunted : (Operation.run initial haunted).Reachable := ⟨haunted, rfl⟩

theorem ghost_not_mem : "ghost" ∉ (Operation.run initial haunted).modules := by decide +kernel

end Ledger.Example

open Ledger.Example

/-- Routes that name no registered module, on a ledger where the derived account
holds coins. -/
theorem Teller.transfer_of_unregistered_example :
    (Operation.run initial haunted).Reachable ∧
    "ghost" ∉ (Operation.run initial haunted).modules ∧
    teller.codec.decode (teller.moduleText "ghost") = .ok (Address.ofModule "ghost") ∧
    (teller.transfer host ctx 5 (.moduleToAddress "ghost" (teller.moduleText "ghost"))
      (Operation.run initial haunted)).withoutLog =
        (.error (.keeper (.unknownModule "ghost")), Operation.run initial haunted) ∧
    (teller.transfer host ctx 5 (.moduleToModule distributionModule "ghost")
      (Operation.run initial haunted)).withoutLog =
        (.error (.keeper (.unknownModule "ghost")), Operation.run initial haunted) ∧
    (teller.transfer host ctx 6 (.moduleToTreasury "ghost")
      (Operation.run initial haunted)).state = Operation.run initial haunted := by
  obtain ⟨htext, -, -, hmodule, -⟩ :=
    Teller.transfer_of_unregistered reachable_haunted ghost_not_mem teller ctx 5
  obtain ⟨-, -, -, -, -, htreasury⟩ :=
    Teller.transfer_of_unregistered reachable_haunted ghost_not_mem teller ctx 6
  have hread := Teller.read_eq_ok_iff.1 (teller.read_moduleText .recipient "ghost")
  have hpool := reachable_haunted.registered.distribution_mem
  have hpoor : ¬ (Operation.run initial haunted).Depositable (Address.ofModule "ghost")
      ⟨teller.denom, 6⟩ := fun h => absurd h.paid.held (by decide +kernel)
  refine ⟨reachable_haunted, ghost_not_mem, hread, htext _ _ hread, hmodule _ hpool, ?_⟩
  exact (htreasury hpoor).elim (congrArg Prod.snd) (congrArg Prod.snd)

/-- A deposit into the treasury is not refused because its module is not registered. -/
theorem Ledger.unregistered_pays :
    ¬ ∀ (s : Ledger) (name : String) (t : Teller) (ctx : Context) (amount : Amount),
      s.Reachable → name ∉ s.modules →
        (t.transfer host ctx amount (.moduleToTreasury name) s).withoutLog =
          (.error (.keeper (.unknownModule name)), s) := by
  intro h
  have hrefused := congrArg Prod.fst (h _ "ghost" teller ctx 5 reachable_haunted ghost_not_mem)
  have hpaid : (teller.transfer host ctx 5 (.moduleToTreasury "ghost")
      (Operation.run initial haunted)).result = .ok () := by decide +kernel
  rw [Outcome.withoutLog, hpaid] at hrefused
  cases hrefused

end CoinTransfer
