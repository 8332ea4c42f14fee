import CoinTransfer.Proofs.Ledger.Deposits
import CoinTransfer.Proofs.Ledger.Order

/-!
# CoinTransfer.Proofs.Ledger.Directory

The account that the name of a module stands for.  It is written into the register when
the module is registered, the bank and the queries read it there, and the directory of the
host derives it from the name each time it is asked.  These agree in every state that a
run can reach, because the register is filled in one way only and nothing is taken out of
it or written over (`Ledger.one_account_per_module`).
-/

namespace CoinTransfer.Ledger

variable {s : Ledger} {name : String}

/-- Whatever a ledger does with the name of a module it does with one account. -/
structure StandsFor (s : Ledger) (name : String) (a : Address) : Prop where
  /-- The look-up that the bank makes. -/
  found : moduleAddress name s = ⟨.ok a, s, []⟩
  /-- The directory of the host. -/
  derived : host.moduleAddress name s = ⟨.ok a, s, []⟩
  asked : ∀ denom, s.moduleBalance name denom = s.balance a denom
  minted : ∀ denom n, mintToModule name denom n s = deposit a denom n s
  paysAccount : ∀ ctx recipient amount, recipient ∉ s.blocked →
    sendFromModuleToAccount ctx name recipient amount s = send ctx a recipient amount s
  paysModule : ∀ ctx other amount,
    sendFromModuleToModule ctx name other amount s = sendFromAccountToModule ctx a other amount s
  paid : ∀ ctx sender amount,
    sendFromAccountToModule ctx sender name amount s = send ctx sender a amount s

/-! ## Registered names -/

/-- A call that looks a registered module up goes on with the account of its name. -/
theorem Registered.moduleAddress_bind (h : s.Registered) (hname : name ∈ s.modules) {α : Type}
    (f : Address → Call α) : (moduleAddress name >>= f) s = f (Address.ofModule name) s :=
  Action.bind_of_ok (h.moduleAddress_of_mem hname)

theorem checkNotBlocked_of_not_mem {a : Address} (h : a ∉ s.blocked) :
    checkNotBlocked a s = ⟨.ok (), s, []⟩ := by
  rw [checkNotBlocked, Action.bind_of_ok (Action.get_apply s), if_neg h]
  rfl

theorem Registered.standsFor (h : s.Registered) (hname : name ∈ s.modules) :
    s.StandsFor name (Address.ofModule name) where
  found := h.moduleAddress_of_mem hname
  derived := rfl
  asked denom := by rw [moduleBalance, h.getElem?_modules hname]
  minted denom n := h.moduleAddress_bind hname _
  paysAccount ctx recipient amount hopen := by
    rw [sendFromModuleToAccount, h.moduleAddress_bind hname]
    exact Action.bind_of_ok (checkNotBlocked_of_not_mem hopen)
  paysModule ctx other amount := h.moduleAddress_bind hname _
  paid ctx sender amount := h.moduleAddress_bind hname _

/-- A registration stays as it is, also if the module is registered again. -/
theorem Registered.getElem?_modules_apply (h : s.Registered) {a : Address}
    (ha : s.modules[name]? = some a) (op : Operation) : (op.apply s).modules[name]? = some a := by
  rw [Operation.getElem?_modules_apply, ha]
  split
  · rw [h.derived name a ha]
  · rfl

/-- **One account for each module**: in every state that a run can reach, a registered name
has the address that follows from it, and the bank, the queries and the directory of the host
all take it for that account.  The module of the community pool is registered, no operation
undoes or alters a registration, and what is deposited into the pool goes to the account that
follows from the name of its module. -/
theorem one_account_per_module (ops : List Operation) :
    let s := Operation.run initial ops
    (∀ name a, s.modules[name]? = some a → a = Address.ofModule name ∧ s.StandsFor name a) ∧
    s.modules[distributionModule]? = some (Address.ofModule distributionModule) ∧
    (∀ (op : Operation) (name : String) (a : Address), s.modules[name]? = some a →
      (op.apply s).modules[name]? = some a) ∧
    ∀ (ctx : Context) (amount : Coins) (depositor : Address),
      let funded := fundCommunityPool ctx amount depositor s
      let holder := Address.ofModule distributionModule
      funded.result = .ok () →
        (∀ a denom, (funded.state.balance a denom).toNat +
            (if depositor = a then (amount.amountOf denom).toNat else 0) =
          (s.balance a denom).toNat + if holder = a then (amount.amountOf denom).toNat else 0) ∧
        funded.state.history = s.history ++ [.transfer ctx.blockHeight depositor holder amount,
          .communityPoolFunded ctx.blockHeight depositor amount] := by
  intro s
  have h : s.Registered := registered_run ops
  refine ⟨fun name a ha => ?_, h.present, fun op name a ha => h.getElem?_modules_apply ha op,
    fun ctx amount depositor hok =>
      ⟨h.toNat_balance_fundCommunityPool hok, h.history_fundCommunityPool hok⟩⟩
  obtain rfl := h.derived name a ha
  have hname : name ∈ s.modules := by
    rw [Std.ExtTreeMap.mem_iff_isSome_getElem?, ha]
    rfl
  exact ⟨rfl, h.standsFor hname⟩

open Example in
/-- The module that issues supply, after a run in which two operations fail: the ledger asks
about its account, pays Alice from it, and does not forget it, and what it deposits into the
community pool arrives. -/
theorem one_account_per_module_example :
    let s := Operation.run initial business
    let issuer := Address.ofModule mintModule
    let holder := Address.ofModule distributionModule
    let funded := fundCommunityPool ctx (Coins.single "unova" 4) issuer s
    s.modules[mintModule]? = some issuer ∧ alice ∉ s.blocked ∧
    s.moduleBalance mintModule "unova" = s.balance issuer "unova" ∧
    sendFromModuleToAccount ctx mintModule alice (Coins.single "unova" 6) s =
      send ctx issuer alice (Coins.single "unova" 6) s ∧
    ((Operation.registerModule mintModule).apply s).modules[mintModule]? = some issuer ∧
    funded.result = .ok () ∧
    (funded.state.balance holder "unova").toNat = (s.balance holder "unova").toNat + 4 := by
  intro s issuer holder funded
  have hissuer : s.modules[mintModule]? = some issuer :=
    (Operation.getElem?_modules_run ..).trans (if_pos List.mem_cons_self)
  have hopen : alice ∉ s.blocked := by decide +kernel
  have hother : issuer ≠ holder := by decide +kernel
  have hok : funded.result = .ok () := by decide +kernel
  obtain ⟨hname, -, hkept, hfund⟩ := one_account_per_module business
  obtain ⟨-, hstands⟩ := hname mintModule issuer hissuer
  obtain ⟨hbalance, -⟩ := hfund ctx (Coins.single "unova" 4) issuer hok
  have harrived := hbalance holder "unova"
  rw [if_neg hother, if_pos rfl, Coins.amountOf_single, if_pos rfl] at harrived
  exact ⟨hissuer, hopen, hstands.asked "unova", hstands.paysAccount ctx alice _ hopen,
    hkept _ mintModule issuer hissuer, hok, harrived⟩

end CoinTransfer.Ledger
