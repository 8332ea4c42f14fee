import CoinTransfer.Proofs.Ledger.Footprint
import CoinTransfer.Proofs.Ledger.Supply

/-!
# CoinTransfer.Proofs.Route.Frame

What routes leave alone.  A route that succeeds `Carries` an amount of the teller's
denomination from one account to another, and one that fails changes nothing.  So the
law of a move, read for one denomination, says it all: only the two ends of a route
can have another balance after it, only its source can have less, and nothing at all
changes in another denomination.
-/

namespace CoinTransfer

open Ledger

/-! ## Effects in one denomination -/

/-- An effect that takes an amount of one denomination from one account to another. -/
inductive Effect.Carries (denom : String) (source destination : Address) : Effect → Prop
  | move (ctx : Context) (n : Amount) :
      Carries denom source destination (.move ctx source destination (Coins.single denom n))
  | fund (ctx : Context) (n : Amount) :
      Carries denom source destination (.fund ctx source destination (Coins.single denom n))

namespace Effect.Carries

variable {s : Ledger} {denom : String} {source destination : Address} {eff : Effect}

/-- What is carried is taken from the one end and added to the other. -/
theorem toNat_balance_after (h : eff.Carries denom source destination)
    (hcheck : eff.check s = .ok ()) :
    ∃ n : Nat, ∀ a d,
      ((eff.after s).balance a d).toNat + (if source = a ∧ denom = d then n else 0) =
        (s.balance a d).toNat + if destination = a ∧ denom = d then n else 0 := by
  obtain ⟨ctx, n, hcoins, hafter⟩ : ∃ ctx n,
      s.checkCoins source destination (Coins.single denom n).toList = .ok () ∧
      ∀ a d, (eff.after s).balance a d =
        (s.moved ctx source destination (Coins.single denom n)).balance a d := by
    cases h with
    | move ctx n => exact ⟨ctx, n, hcheck, fun _ _ => rfl⟩
    | fund ctx n => exact ⟨ctx, n, (check_fund_eq_ok_iff.1 hcheck).2, fun _ _ => rfl⟩
  refine ⟨n.toNat, fun a d => ?_⟩
  have hlaw := toNat_balance_moved hcoins ctx a d
  rw [Coins.amountOf_single] at hlaw
  rw [hafter]
  by_cases hd : denom = d
  · simpa [hd] using hlaw
  · simpa [hd] using hlaw

/-- The accounts of a transfer are its source and its destination. -/
theorem parties_eq (h : eff.Carries denom source destination) :
    eff.parties = [source, destination] := by
  cases h <;> rfl

/-- A transfer of a teller is in the teller's denomination alone. -/
theorem eq_of_mem_denoms (h : eff.Carries denom source destination) {d : String}
    (hd : d ∈ eff.denoms) : d = denom := by
  obtain ⟨n, hn⟩ : ∃ n, eff.denoms = (Coins.single denom n).denoms := by
    cases h with
    | move ctx n => exact ⟨n, rfl⟩
    | fund ctx n => exact ⟨n, rfl⟩
  rw [hn, Coins.mem_denoms_iff, Coins.amountOf_single] at hd
  exact Decidable.byContradiction fun hne => hd (if_neg (Ne.symm hne))

/-- Balances in other denominations stay as they are. -/
theorem balance_after_of_ne (h : eff.Carries denom source destination)
    (hcheck : eff.check s = .ok ()) {d : String} (hd : d ≠ denom) (a : Address) :
    (eff.after s).balance a d = s.balance a d :=
  amountAt_after (p := .balance a d) hcheck fun hp => hd (h.eq_of_mem_denoms hp.2)

/-- The pool counts nothing in other denominations. -/
theorem pool_after_of_ne (h : eff.Carries denom source destination)
    (hcheck : eff.check s = .ok ()) {d : String} (hd : d ≠ denom) :
    (eff.after s).pool.amountOf d = s.pool.amountOf d :=
  amountAt_after (p := .pool d) hcheck fun hp => hd (h.eq_of_mem_denoms hp.2)

/-- Only the source has less than before. -/
theorem balance_le_after (h : eff.Carries denom source destination)
    (hcheck : eff.check s = .ok ()) {a : Address} (ha : source ≠ a) (d : String) :
    s.balance a d ≤ (eff.after s).balance a d := by
  obtain ⟨n, hlaw⟩ := h.toNat_balance_after hcheck
  have := hlaw a d
  simp only [ha, false_and, if_false] at this
  rw [UInt64.le_iff_toNat_le]
  omega

/-- Accounts other than the source and the destination keep what they have. -/
theorem balance_after_of_bystander (h : eff.Carries denom source destination)
    (hcheck : eff.check s = .ok ()) {a : Address} (ha : source ≠ a) (hb : destination ≠ a)
    (d : String) : (eff.after s).balance a d = s.balance a d := by
  refine amountAt_after (p := .balance a d) hcheck fun hp => ?_
  have hmem : a ∈ [source, destination] := h.parties_eq ▸ hp.1
  simp [Ne.symm ha, Ne.symm hb] at hmem

/-- No supply is created or lost. -/
theorem supply_after_eq (h : eff.Carries denom source destination)
    (hcheck : eff.check s = .ok ()) (d : String) : (eff.after s).supply d = s.supply d := by
  rw [supply_after hcheck]
  cases h <;> rfl

/-- No module is registered. -/
theorem modules_after (h : eff.Carries denom source destination) :
    (eff.after s).modules = s.modules := by
  cases h <;> rfl

/-- No account is blocked. -/
theorem blocked_after (h : eff.Carries denom source destination) :
    (eff.after s).blocked = s.blocked := by
  cases h <;> rfl

end Effect.Carries

namespace Teller

variable {s s' : Ledger} {t : Teller} {ctx : Context} {amount : Amount} {route : Route}
  {op : Operation} {eff : Effect}

/-! ## The ends of a route -/

/-- The account that a route takes coins from: a text is read, and the ledger looks a
module up, unless the coins go to the treasury. -/
def source (t : Teller) (s : Ledger) : Route → Option Address
  | .addressToAddress sender _ => (t.codec.decode sender).toOption
  | .moduleToAddress sender _ => s.modules[sender]?
  | .addressToModule sender _ => (t.codec.decode sender).toOption
  | .moduleToModule sender _ => s.modules[sender]?
  | .addressToTreasury sender => (t.codec.decode sender).toOption
  | .moduleToTreasury sender => some (Address.ofModule sender)

/-- The account that a route takes coins to. -/
def destination (t : Teller) (s : Ledger) : Route → Option Address
  | .addressToAddress _ recipient => (t.codec.decode recipient).toOption
  | .moduleToAddress _ recipient => (t.codec.decode recipient).toOption
  | .addressToModule _ recipient => s.modules[recipient]?
  | .moduleToModule _ recipient => s.modules[recipient]?
  | .addressToTreasury _ => s.modules[distributionModule]?
  | .moduleToTreasury _ => s.modules[distributionModule]?

/-- What a teller reads is what its codec does. -/
theorem toOption_decode_of_read {role : Role} {text : String} {a : Address}
    (h : t.read role text = .ok a) : (t.codec.decode text).toOption = some a := by
  rw [read_eq_ok_iff.1 h]
  rfl

/-- What a route comes down to carries the teller's denomination between its ends. -/
theorem carries_of_operation (h : t.operation ctx amount route = .ok op)
    (hresolve : op.resolve s = .ok eff) :
    ∃ a b, t.source s route = some a ∧ t.destination s route = some b ∧
      eff.Carries t.denom a b := by
  have hends := Operation.resolves_of_resolve hresolve
  cases route with
  | addressToAddress sender recipient =>
    obtain ⟨a, ha, h⟩ := Except.bind_eq_ok_iff.1 h
    obtain ⟨b, hb, h⟩ := Except.bind_eq_ok_iff.1 h
    cases h
    cases hends
    exact ⟨a, b, toOption_decode_of_read ha, toOption_decode_of_read hb, .move ctx amount⟩
  | moduleToAddress sender recipient =>
    obtain ⟨b, hb, h⟩ := Except.bind_eq_ok_iff.1 h
    cases h
    cases hends with
    | sendFromModuleToAccount _ _ ha _ =>
      exact ⟨_, b, ha, toOption_decode_of_read hb, .move ctx amount⟩
  | addressToModule sender recipient =>
    obtain ⟨a, ha, h⟩ := Except.bind_eq_ok_iff.1 h
    cases h
    cases hends with
    | sendFromAccountToModule _ _ _ hb =>
      exact ⟨a, _, toOption_decode_of_read ha, hb, .move ctx amount⟩
  | moduleToModule sender recipient =>
    cases h
    cases hends with
    | sendFromModuleToModule _ _ ha hb => exact ⟨_, _, ha, hb, .move ctx amount⟩
  | addressToTreasury sender =>
    obtain ⟨a, ha, h⟩ := Except.bind_eq_ok_iff.1 h
    cases h
    cases hends with
    | fundCommunityPool _ _ _ hholder =>
      exact ⟨a, _, toOption_decode_of_read ha, hholder, .fund ctx amount⟩
  | moduleToTreasury sender =>
    cases h
    cases hends with
    | fundCommunityPool _ _ _ hholder => exact ⟨_, _, rfl, hholder, .fund ctx amount⟩

/-- What a single call can do: nothing, or to carry the teller's denomination from the
source of its route to the destination. -/
theorem state_transfer (t : Teller) (ctx : Context) (amount : Amount) (route : Route)
    (s : Ledger) :
    (t.transfer host ctx amount route s).state = s ∨
      ∃ (a b : Address) (eff : Effect), t.source s route = some a ∧
        t.destination s route = some b ∧ eff.Carries t.denom a b ∧ eff.check s = .ok () ∧
        (t.transfer host ctx amount route s).state = eff.after s := by
  have hstate : (t.transfer host ctx amount route s).state =
      (settlement s (t.operation ctx amount route)).2 :=
    congrArg Prod.snd (withoutLog_transfer t ctx amount route s)
  rw [hstate]
  cases ho : t.operation ctx amount route with
  | error e => exact .inl rfl
  | ok op =>
    cases he : op.effect s with
    | error e => exact .inl (Operation.apply_of_error he)
    | ok eff =>
      obtain ⟨hresolve, hcheck⟩ := Operation.effect_eq_ok_iff.1 he
      obtain ⟨a, b, ha, hb, hcarries⟩ := carries_of_operation ho hresolve
      exact .inr ⟨a, b, eff, ha, hb, hcarries, hcheck, Operation.apply_of_effect he⟩

/-! ## Runs of a teller -/

/-- A call on a teller. -/
structure Request where
  ctx : Context
  amount : Amount
  route : Route

/-- The ledger after some calls on a teller, whether they succeeded or not. -/
def run (t : Teller) (s : Ledger) (calls : List Request) : Ledger :=
  calls.foldl (fun s c => (t.transfer host c.ctx c.amount c.route s).state) s

/-- What the calls on a teller of a denomination leave alone. -/
structure Spares (denom : String) (s s' : Ledger) : Prop where
  balance : ∀ a d, d ≠ denom → s'.balance a d = s.balance a d
  pool : ∀ d, d ≠ denom → s'.pool.amountOf d = s.pool.amountOf d
  supply : s'.supply denom = s.supply denom
  modules : s'.modules = s.modules
  blocked : s'.blocked = s.blocked

theorem Spares.refl (denom : String) (s : Ledger) : Spares denom s s :=
  ⟨fun _ _ _ => rfl, fun _ _ => rfl, rfl, rfl, rfl⟩

/-- What is left alone twice is left alone by both in a row. -/
theorem Spares.trans {denom : String} {s s' s'' : Ledger} (h : Spares denom s s')
    (h' : Spares denom s' s'') : Spares denom s s'' where
  balance a d hd := (h'.balance a d hd).trans (h.balance a d hd)
  pool d hd := (h'.pool d hd).trans (h.pool d hd)
  supply := h'.supply.trans h.supply
  modules := h'.modules.trans h.modules
  blocked := h'.blocked.trans h.blocked

/-- One call on a teller leaves alone what is not of its denomination, and the supply. -/
theorem spares_transfer (t : Teller) (ctx : Context) (amount : Amount) (route : Route)
    (s : Ledger) : Spares t.denom s (t.transfer host ctx amount route s).state := by
  obtain h | ⟨a, b, eff, -, -, hcarries, hcheck, h⟩ := state_transfer t ctx amount route s
  · rw [h]
    exact Spares.refl t.denom s
  · rw [h]
    exact ⟨fun a _ hd => hcarries.balance_after_of_ne hcheck hd a,
      fun _ hd => hcarries.pool_after_of_ne hcheck hd, hcarries.supply_after_eq hcheck t.denom,
      hcarries.modules_after, hcarries.blocked_after⟩

/-- Any number of calls on a teller leaves alone what is not of its denomination, and the supply. -/
theorem spares_run (t : Teller) (s : Ledger) (calls : List Request) :
    Spares t.denom s (t.run s calls) := by
  induction calls generalizing s with
  | nil => exact Spares.refl t.denom s
  | cons c calls ih => exact (spares_transfer t c.ctx c.amount c.route s).trans (ih _)

/-- **Routes stay within their denomination and their ends**: whatever a teller is asked
for, no other denomination moves, the supply of its own stays, and so do the modules and
the blocked accounts.  A single call changes no balance but those of its two ends, and
takes from its source alone. -/
theorem transfer_confined (t : Teller) (s : Ledger) (calls : List Request) :
    let s' := t.run s calls
    (∀ d, d ≠ t.denom → (∀ a, s'.balance a d = s.balance a d) ∧
      s'.communityPool.amountOf d = s.communityPool.amountOf d) ∧
    s'.supply t.denom = s.supply t.denom ∧ s'.modules = s.modules ∧ s'.blocked = s.blocked ∧
    ∀ ctx amount route a,
      let s'' := (t.transfer host ctx amount route s').state
      (t.source s' route ≠ some a → s'.balance a t.denom ≤ s''.balance a t.denom) ∧
      (t.source s' route ≠ some a → t.destination s' route ≠ some a →
        s''.balance a t.denom = s'.balance a t.denom) := by
  intro s'
  have h := spares_run t s calls
  refine ⟨fun d hd => ⟨fun a => h.balance a d hd, ?_⟩, h.supply, h.modules, h.blocked,
    fun ctx amount route a => ?_⟩
  · rw [communityPool, communityPool, Coins.amountOf_ofTotals, Coins.amountOf_ofTotals]
    exact h.pool d hd
  · intro s''
    obtain hsame | ⟨x, y, eff, hx, hy, hcarries, hcheck, hafter⟩ :=
      state_transfer t ctx amount route s'
    · have hs'' : s'' = s' := hsame
      rw [hs'']
      exact ⟨fun _ => UInt64.le_refl _, fun _ _ => rfl⟩
    · have hs'' : s'' = eff.after s' := hafter
      simp only [hs'', hx, hy, ne_eq, Option.some.injEq]
      exact ⟨fun ha => hcarries.balance_le_after hcheck ha t.denom,
        fun ha hb => hcarries.balance_after_of_bystander hcheck ha hb t.denom⟩

end Teller

namespace Ledger.Example

/-- Alice holds another denomination than the teller's, and the account of the community
pool holds some of it. -/
def endowed : Ledger :=
  Operation.run initial
    [.deposit alice "uatom" 5, .registerModule mintModule,
      .mintToModule distributionModule "unova" 10]

/-- The account of the community pool deposits into the pool, and a text is no address. -/
def calls : List Teller.Request :=
  [⟨ctx, 4, .moduleToTreasury distributionModule⟩,
    ⟨ctx, 1, .addressToModule "nobody" distributionModule⟩]

/-- The account of the community pool pays another module. -/
def payment : Route := .moduleToModule distributionModule mintModule

end Ledger.Example

open Ledger.Example in
/-- A deposit whose two ends are one account, a call that fails, and a payment between two
modules: nothing of Alice's moves. -/
theorem Teller.transfer_confined_example :
    let s := teller.run endowed calls
    "uatom" ≠ teller.denom ∧ s.communityPool.amountOf "unova" = 4 ∧
    s.balance alice "uatom" = endowed.balance alice "uatom" ∧
    (teller.transfer host ctx 3 payment s).result = .ok () ∧
    teller.source s payment ≠ some alice ∧ teller.destination s payment ≠ some alice ∧
    (teller.transfer host ctx 3 payment s).state.balance alice "unova" =
      s.balance alice "unova" := by
  intro s
  have hdenom : "uatom" ≠ teller.denom := by decide
  have hsource : teller.source s payment ≠ some alice := by decide +kernel
  have hdestination : teller.destination s payment ≠ some alice := by decide +kernel
  obtain ⟨hother, -, -, -, hends⟩ := Teller.transfer_confined teller endowed calls
  exact ⟨hdenom, by decide +kernel, (hother "uatom" hdenom).1 alice, by decide +kernel, hsource,
    hdestination, (hends ctx 3 payment alice).2 hsource hdestination⟩

end CoinTransfer
