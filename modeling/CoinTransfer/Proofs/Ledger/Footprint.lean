import CoinTransfer.Proofs.Ledger.Records

/-!
# CoinTransfer.Proofs.Ledger.Footprint

What an operation on money reads and writes.  A ledger keeps its amounts in places: the
balances of its accounts, and the totals of the community pool.  An effect `Touches` the
balances of its parties in its denominations and, if it counts coins into the pool, the
totals of these denominations.  It looks at no other place and writes to no other:

* `Effect.check_congr`, `Effect.reply_congr` — an effect answers alike wherever the places
  that it touches have the same amounts;
* `Effect.amountAt_after` — it leaves all other places as they are.

So operations with no place in common do not notice each other, and what an operation says
when it fails is no exception: the balance that an error names is one that it touches.
-/

namespace CoinTransfer

open Ledger

/-- Where a ledger keeps an amount. -/
inductive Place where
  | balance (a : Address) (denom : String)
  /-- The total of a denomination in the community pool. -/
  | pool (denom : String)

def Ledger.amountAt (s : Ledger) : Place → Amount
  | .balance a denom => s.balance a denom
  | .pool denom => s.pool.amountOf denom

/-! ## Footprints of effects -/

namespace Effect

/-- The accounts on whose money an effect bears. -/
def parties : Effect → List Address
  | .register _ => []
  | .block _ => []
  | .mint a _ _ => [a]
  | .move _ sender recipient _ => [sender, recipient]
  | .fund _ depositor holder _ => [depositor, holder]

/-- The denominations in which it does. -/
def denoms : Effect → List String
  | .register _ => []
  | .block _ => []
  | .mint _ denom _ => [denom]
  | .move _ _ _ amount => amount.denoms
  | .fund _ _ _ amount => amount.denoms

/-- The effects that count coins into the community pool. -/
def Counts : Effect → Prop
  | .fund .. => True
  | _ => False

/-- The places that an effect reads and writes. -/
def Touches (eff : Effect) : Place → Prop
  | .balance a denom => a ∈ eff.parties ∧ denom ∈ eff.denoms
  | .pool denom => eff.Counts ∧ denom ∈ eff.denoms

end Effect

namespace Ledger

variable {s s' : Ledger} {sender recipient : Address} {amount : Coins}

/-! ## What is read -/

/-- The check of a coin reads two balances of its denomination. -/
theorem checkCoin_congr {c : Coin}
    (hsender : s'.balance sender c.denom = s.balance sender c.denom)
    (hrecipient : s'.balance recipient c.denom = s.balance recipient c.denom) :
    s'.checkCoin sender recipient c = s.checkCoin sender recipient c := by
  simp only [checkCoin, hsender, hrecipient]

/-- The check of a transfer reads the balances of its two accounts in its denominations. -/
theorem checkCoins_congr
    (h : ∀ a ∈ [sender, recipient], ∀ denom ∈ amount.denoms, s'.balance a denom = s.balance a denom) :
    s'.checkCoins sender recipient amount.toList = s.checkCoins sender recipient amount.toList := by
  refine Except.forM_congr fun c hc => ?_
  have hdenom : c.denom ∈ amount.denoms := List.mem_map_of_mem hc
  exact checkCoin_congr (h sender (by simp) _ hdenom) (h recipient (by simp) _ hdenom)

/-- The check of a deposit reads the totals of its denominations. -/
theorem checkPoolCoins_congr
    (h : ∀ denom ∈ amount.denoms, s'.pool.amountOf denom = s.pool.amountOf denom) :
    s'.checkPoolCoins amount.toList = s.checkPoolCoins amount.toList := by
  refine Except.forM_congr fun c hc => ?_
  rw [checkPoolCoin, checkPoolCoin, h c.denom (List.mem_map_of_mem hc)]

/-! ## What is written -/

/-- A move leaves the balances alone that are not of its two accounts in its denominations. -/
theorem balance_moved_of_not_mem (h : s.checkCoins sender recipient amount.toList = .ok ())
    {a : Address} {denom : String} (hnot : ¬ (a ∈ [sender, recipient] ∧ denom ∈ amount.denoms))
    (ctx : Context) : (s.moved ctx sender recipient amount).balance a denom = s.balance a denom := by
  have hlaw := toNat_balance_moved h ctx a denom
  rw [← UInt64.toNat_inj]
  by_cases hdenom : denom ∈ amount.denoms
  · have ha : a ∉ [sender, recipient] := fun ha => hnot ⟨ha, hdenom⟩
    simp only [List.mem_cons, List.not_mem_nil, or_false, not_or] at ha
    rwa [if_neg (Ne.symm ha.1), if_neg (Ne.symm ha.2)] at hlaw
  · rwa [Coins.amountOf_of_not_mem_denoms hdenom, UInt64.toNat_zero, ite_self, ite_self] at hlaw

/-- Counting coins leaves the totals of other denominations alone. -/
theorem pool_addToPool_of_not_mem (h : s.checkPoolCoins amount.toList = .ok ()) {denom : String}
    (hnot : denom ∉ amount.denoms) (ctx : Context) (depositor : Address) :
    (s.addToPool ctx depositor amount).pool.amountOf denom = s.pool.amountOf denom := by
  have hlaw := toNat_pool_addToPool h ctx depositor denom
  rw [Coins.amountOf_of_not_mem_denoms hnot, UInt64.toNat_zero, Nat.add_zero] at hlaw
  exact UInt64.toNat_inj.1 hlaw

end Ledger

namespace Effect

variable {s s' : Ledger} {eff eff' : Effect}

/-- Whether an effect can happen depends on the places that it touches. -/
theorem check_congr (h : ∀ p, eff.Touches p → s'.amountAt p = s.amountAt p) :
    eff.check s' = eff.check s := by
  have hbalance (a : Address) (ha : a ∈ eff.parties) (denom : String) (hd : denom ∈ eff.denoms) :
      s'.balance a denom = s.balance a denom := h (.balance a denom) ⟨ha, hd⟩
  cases eff with
  | register name => rfl
  | block a => rfl
  | mint a denom n => rw [check, check, hbalance a (by simp [parties]) denom (by simp [denoms])]
  | move ctx sender recipient amount => exact checkCoins_congr hbalance
  | fund ctx depositor holder amount =>
    have hpool (denom : String) (hd : denom ∈ amount.denoms) :
        s'.pool.amountOf denom = s.pool.amountOf denom := h (.pool denom) ⟨trivial, hd⟩
    rw [check, check, checkPoolCoins_congr hpool, checkCoins_congr hbalance]

/-- An answer only tells of places that the effect touches. -/
theorem reply_congr (h : ∀ p, eff.Touches p → s'.amountAt p = s.amountAt p) :
    eff.reply s' = eff.reply s := by
  cases eff with
  | mint a denom n =>
    have hbalance : s'.balance a denom = s.balance a denom :=
      h (.balance a denom) ⟨by simp [parties], by simp [denoms]⟩
    rw [reply, reply, hbalance]
  | _ => rfl

/-- An effect leaves the places alone that it does not touch. -/
theorem amountAt_after (hcheck : eff.check s = .ok ()) {p : Place} (hp : ¬ eff.Touches p) :
    (eff.after s).amountAt p = s.amountAt p := by
  cases eff with
  | register name => cases p <;> rfl
  | block a => cases p <;> rfl
  | mint a denom n =>
    cases p with
    | balance a' d =>
      have hlaw := toNat_balance_minted (check_mint_eq_ok_iff.1 hcheck) a' d
      have hne : ¬ (a = a' ∧ denom = d) := by
        rintro ⟨rfl, rfl⟩
        exact hp ⟨by simp [parties], by simp [denoms]⟩
      rw [if_neg hne] at hlaw
      exact UInt64.toNat_inj.1 hlaw
    | pool d => rfl
  | move ctx sender recipient amount =>
    cases p with
    | balance a d => exact balance_moved_of_not_mem hcheck hp ctx
    | pool d => rfl
  | fund ctx depositor holder amount =>
    obtain ⟨hpool, hcoins⟩ := check_fund_eq_ok_iff.1 hcheck
    cases p with
    | balance a d => exact balance_moved_of_not_mem hcoins hp ctx
    | pool d =>
      have hroom : (s.moved ctx depositor holder amount).checkPoolCoins amount.toList = .ok () :=
        hpool
      exact pool_addToPool_of_not_mem hroom (fun hd => hp ⟨trivial, hd⟩) ctx depositor

/-- An effect does not notice another one that has happened elsewhere. -/
theorem check_after (hcheck : eff'.check s = .ok ())
    (hapart : ∀ p, eff.Touches p → ¬ eff'.Touches p) : eff.check (eff'.after s) = eff.check s :=
  check_congr fun p hp => amountAt_after hcheck (hapart p hp)

/-- An effect does not show in the answer of one that touches other places. -/
theorem reply_after (hcheck : eff'.check s = .ok ())
    (hapart : ∀ p, eff.Touches p → ¬ eff'.Touches p) : eff.reply (eff'.after s) = eff.reply s :=
  reply_congr fun p hp => amountAt_after hcheck (hapart p hp)

end Effect

/-! ## Operations on money -/

namespace Operation

variable {s s' : Ledger} {op op' : Operation} {eff eff' : Effect}

/-- The operations that move or create coins: all but those that register a module or block
an account. -/
def OnMoney : Operation → Prop
  | .registerModule _ => False
  | .blockAddress _ => False
  | _ => True

/-- An operation on money leaves the modules and the blocked accounts as they are. -/
theorem OnMoney.registers_apply (h : op.OnMoney) (s : Ledger) :
    (op.apply s).modules = s.modules ∧ (op.apply s).blocked = s.blocked := by
  cases he : op.effect s with
  | error e =>
    rw [apply_of_error he]
    exact ⟨rfl, rfl⟩
  | ok eff =>
    rw [apply_of_effect he]
    cases resolves_of_resolve (effect_eq_ok_iff.1 he).1 with
    | registerModule | blockAddress => exact h.elim
    | _ => exact ⟨rfl, rfl⟩

/-- Operations on money leave the registers alone. -/
theorem registers_run {ops : List Operation} (h : ∀ op ∈ ops, op.OnMoney) (s : Ledger) :
    (run s ops).modules = s.modules ∧ (run s ops).blocked = s.blocked := by
  induction ops generalizing s with
  | nil => exact ⟨rfl, rfl⟩
  | cons op ops ih =>
      obtain ⟨hop, hops⟩ := List.forall_mem_cons.1 h
      obtain ⟨hmodules, hblocked⟩ := hop.registers_apply s
      obtain ⟨hmodules', hblocked'⟩ := ih hops (op.apply s)
      exact ⟨hmodules'.trans hmodules, hblocked'.trans hblocked⟩

/-- What an operation asks for depends on the modules and the blocked accounts. -/
theorem resolve_congr (hmodules : s'.modules = s.modules) (hblocked : s'.blocked = s.blocked)
    (op : Operation) : op.resolve s' = op.resolve s := by
  cases op <;> simp only [resolve, moduleAccount, hmodules, hblocked]

/-- Two operations do not meet: unless one of them fails before it comes to any coins, they
have no account in common, or no denomination. -/
def Independent (s : Ledger) (op op' : Operation) : Prop :=
  ∀ eff eff', op.resolve s = .ok eff → op'.resolve s = .ok eff' →
    eff.parties.Disjoint eff'.parties ∨ eff.denoms.Disjoint eff'.denoms

/-- Independence goes both ways. -/
theorem Independent.symm (h : Independent s op op') : Independent s op' op := by
  intro eff' eff hr' hr
  obtain hparties | hdenoms := h eff eff' hr hr'
  · exact .inl fun _ ha' ha => hparties ha ha'
  · exact .inr fun _ hd' hd => hdenoms hd hd'

end Operation

namespace Ledger

variable {s : Ledger} {op op' : Operation} {eff eff' : Effect}

/-- Operations that do not meet touch no place in common.  Two deposits into the community
pool have its account in common, so it must be the denominations that they differ in. -/
theorem Registered.apart (h : s.Registered) (hind : Operation.Independent s op op')
    (hr : op.resolve s = .ok eff) (hr' : op'.resolve s = .ok eff') (p : Place)
    (hp : eff.Touches p) : ¬ eff'.Touches p := by
  intro hp'
  cases p with
  | balance a denom =>
    obtain hparties | hdenoms := hind eff eff' hr hr'
    · exact hparties hp.1 hp'.1
    · exact hdenoms hp.2 hp'.2
  | pool denom =>
    obtain hparties | hdenoms := hind eff eff' hr hr'
    · cases eff with
      | fund ctx depositor holder amount =>
        cases eff' with
        | fund ctx' depositor' holder' amount' =>
          rw [h.holder_eq hr, h.holder_eq hr'] at hparties
          exact hparties (a := treasury) (by simp [Effect.parties]) (by simp [Effect.parties])
        | _ => exact hp'.1
      | _ => exact hp.1
    · exact hdenoms hp.2 hp'.2

/-- An operation answers as if an independent one had not come before it. -/
theorem Registered.result_perform_apply (h : s.Registered) (hmoney : op'.OnMoney)
    (hind : Operation.Independent s op op') :
    (op.perform (op'.apply s)).result = (op.perform s).result := by
  obtain ⟨hmodules, hblocked⟩ := hmoney.registers_apply s
  have hresolve : op.resolve (op'.apply s) = op.resolve s :=
    Operation.resolve_congr hmodules hblocked op
  cases he' : op'.effect s with
  | error e => rw [Operation.apply_of_error he']
  | ok eff' =>
    obtain ⟨hr', hcheck'⟩ := Operation.effect_eq_ok_iff.1 he'
    rw [Operation.perform_apply, Operation.perform_apply, hresolve,
      Operation.apply_of_effect he']
    cases hr : op.resolve s with
    | error e => rfl
    | ok eff =>
      have hapart := h.apart hind hr hr'
      simp only [Effect.settle, Effect.outcome, Effect.check_after hcheck' hapart,
        Effect.reply_after hcheck' hapart]
      cases eff.check s <;> rfl

/-- The events of two operations are the same, up to their order, if their answers are. -/
theorem Registered.history_perm (h : s.Registered)
    (hresult : (op.perform (op'.apply s)).result = (op.perform s).result)
    (hresult' : (op'.perform (op.apply s)).result = (op'.perform s).result) :
    (Operation.run s [op, op']).history.Perm (Operation.run s [op', op]).history := by
  simp only [Operation.run_cons, Operation.run_nil]
  rw [(h.apply op).history_apply op', h.history_apply op, (h.apply op').history_apply op,
    h.history_apply op', hresult, hresult', List.append_assoc, List.append_assoc]
  exact List.perm_append_comm.append_left _

/-- **Independent operations commute**: two operations on money that have no account in
common, or no denomination, give the same answers in either order, down to the amounts that
a refusal names, and lead to the same money, modules and blocked accounts, and to the same
events up to their order. -/
theorem independent_commute (hs : s.Reachable) (hmoney : op.OnMoney) (hmoney' : op'.OnMoney)
    (hind : Operation.Independent s op op') :
    let t := Operation.run s [op, op']
    let t' := Operation.run s [op', op]
    (op.perform (op'.apply s)).result = (op.perform s).result ∧
    (op'.perform (op.apply s)).result = (op'.perform s).result ∧
    (∀ a denom, t.balance a denom = t'.balance a denom) ∧
    t.communityPool = t'.communityPool ∧ t.modules = t'.modules ∧ t.blocked = t'.blocked ∧
    t.history.Perm t'.history := by
  intro t t'
  have h := hs.registered
  have hresult := h.result_perform_apply hmoney' hind
  have hresult' := h.result_perform_apply hmoney hind.symm
  have hhistory : t.history.Perm t'.history := h.history_perm hresult hresult'
  obtain ⟨hbalance, hpool⟩ :=
    (hs.run [op, op']).audited.eq_of_perm (hs.run [op', op]).audited hhistory
  have hboth : ∀ x ∈ [op, op'], x.OnMoney := by simp [hmoney, hmoney']
  have hboth' : ∀ x ∈ [op', op], x.OnMoney := by simp [hmoney, hmoney']
  obtain ⟨hmodules, hblocked⟩ := Operation.registers_run hboth s
  obtain ⟨hmodules', hblocked'⟩ := Operation.registers_run hboth' s
  exact ⟨hresult, hresult', hbalance, hpool, hmodules.trans hmodules'.symm,
    hblocked.trans hblocked'.symm, hhistory⟩

namespace Example

/-- Alice pays more of one denomination than she has. -/
def overdraft : Operation := .send ctx alice bob (Coins.single "unova" 1001)

/-- She deposits all that she has of another. -/
def donation : Operation := .fundCommunityPool ctx (Coins.single "uatom" 5) alice

theorem independent_overdraft_donation : Operation.Independent ledger overdraft donation := by
  intro eff eff' hr hr'
  cases Operation.resolves_of_resolve hr
  cases Operation.resolves_of_resolve hr'
  refine .inr fun denom hd hd' => ?_
  obtain rfl : denom = "unova" := List.mem_singleton.1 hd
  exact absurd (List.mem_singleton.1 hd') (by decide)

end Example

open Example in
/-- Alice is refused the same way, and her deposit is counted, in either order. -/
theorem independent_commute_example :
    ledger.Reachable ∧ overdraft.OnMoney ∧ donation.OnMoney ∧
    Operation.Independent ledger overdraft donation ∧
    (overdraft.perform ledger).result =
      .error (.insufficientFunds alice.hex "unova" 1000 1001) ∧
    (overdraft.perform (donation.apply ledger)).result =
      .error (.insufficientFunds alice.hex "unova" 1000 1001) ∧
    (Operation.run ledger [overdraft, donation]).communityPool.amountOf "uatom" = 5 ∧
    (Operation.run ledger [overdraft, donation]).communityPool =
      (Operation.run ledger [donation, overdraft]).communityPool := by
  have hs : ledger.Reachable := ⟨_, rfl⟩
  have hrefused : (overdraft.perform ledger).result =
      .error (.insufficientFunds alice.hex "unova" 1000 1001) := rfl
  have hmoney : overdraft.OnMoney := trivial
  have hmoney' : donation.OnMoney := trivial
  obtain ⟨hresult, -, -, hpool, -⟩ :=
    independent_commute hs hmoney hmoney' independent_overdraft_donation
  exact ⟨hs, hmoney, hmoney', independent_overdraft_donation, hrefused,
    hresult.trans hrefused, by decide +kernel, hpool⟩

end Ledger

end CoinTransfer
