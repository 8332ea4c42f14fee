import CoinTransfer.Proofs.Coins.Merge
import CoinTransfer.Proofs.Ledger.Sends

/-!
# CoinTransfer.Proofs.Ledger.Successive

Two sends between the same two accounts, one after the other.  A send is judged one
denomination at a time, by what the sender has and what the recipient has room for, and
moves these two by the same amount.  So what two sends in a row ask for is linear in each
denomination:

* `send_add` — two sends one way are the send of the sum of their coins;
* `send_back` — a send and the same coins back are no send at all.
-/

namespace CoinTransfer

namespace Coins

variable {a b c : Coins}

/-- Two sets add up to the set that has the sums of their amounts. -/
theorem ofList_toList_append_eq_ok_iff :
    ofList (a.toList ++ b.toList) = .ok c ↔
      ∀ denom, (c.amountOf denom).toNat = (a.amountOf denom).toNat + (b.amountOf denom).toNat := by
  simp only [ofList_eq_ok_iff, Coin.total_append, ← toNat_amountOf]

theorem exists_ofList_toList_append_iff :
    (∃ c, ofList (a.toList ++ b.toList) = .ok c) ↔
      ∀ denom, (a.amountOf denom).toNat + (b.amountOf denom).toNat < UInt64.size := by
  simp only [exists_ofList_iff, Coin.total_append, ← toNat_amountOf]

end Coins

namespace Ledger

section

variable {s : Ledger} {ctx ctx' ctx'' : Context} {sender recipient : Address} {amount a b : Coins}

/-- What the sender and another recipient have after a transfer. -/
theorem toNat_balance_transfer_of_ne (hne : sender ≠ recipient)
    (hok : (transfer ctx sender recipient amount s).result = .ok ()) (denom : String) :
    ((transfer ctx sender recipient amount s).state.balance sender denom).toNat +
        (amount.amountOf denom).toNat = (s.balance sender denom).toNat ∧
      ((transfer ctx sender recipient amount s).state.balance recipient denom).toNat =
        (s.balance recipient denom).toNat + (amount.amountOf denom).toNat := by
  have hsender := toNat_balance_transfer hok sender denom
  have hrecipient := toNat_balance_transfer hok recipient denom
  rw [if_pos rfl, if_neg hne.symm] at hsender
  rw [if_neg hne, if_pos rfl] at hrecipient
  exact ⟨hsender, hrecipient⟩

/-! ## One way -/

/-- Two transfers are made exactly if, of each denomination, the sender has what their coins
hold together and the recipient has room for it. -/
theorem result_transfer_transfer_eq_ok_iff (hne : sender ≠ recipient) :
    (transfer ctx sender recipient a s).result = .ok () ∧
      (transfer ctx' sender recipient b (transfer ctx sender recipient a s).state).result =
        .ok () ↔
    ∀ denom,
      (a.amountOf denom).toNat + (b.amountOf denom).toNat ≤ (s.balance sender denom).toNat ∧
      (s.balance recipient denom).toNat + (a.amountOf denom).toNat + (b.amountOf denom).toNat <
        UInt64.size := by
  constructor
  · rintro ⟨hfirst, hsecond⟩ denom
    obtain ⟨hsender, hrecipient⟩ := toNat_balance_transfer_of_ne hne hfirst denom
    obtain ⟨hheld, hfits⟩ := result_transfer_eq_ok_iff_forall_denom.1 hsecond denom
    have hroom := hfits hne
    omega
  · intro h
    have hfirst : (transfer ctx sender recipient a s).result = .ok () :=
      result_transfer_eq_ok_iff_forall_denom.2 fun denom => by
        obtain ⟨hheld, hfits⟩ := h denom
        exact ⟨by omega, fun _ => by omega⟩
    refine ⟨hfirst, result_transfer_eq_ok_iff_forall_denom.2 fun denom => ?_⟩
    -- The second finds the balances that the first has left.
    obtain ⟨hsender, hrecipient⟩ := toNat_balance_transfer_of_ne hne hfirst denom
    obtain ⟨hheld, hfits⟩ := h denom
    exact ⟨by omega, fun _ => by omega⟩

/-- Sets can be added up and sent at once under the same conditions. -/
theorem exists_sum_eq_ok_iff (hne : sender ≠ recipient) :
    (∃ c, Coins.ofList (a.toList ++ b.toList) = .ok c ∧
      (transfer ctx sender recipient c s).result = .ok ()) ↔
    ∀ denom,
      (a.amountOf denom).toNat + (b.amountOf denom).toNat ≤ (s.balance sender denom).toNat ∧
      (s.balance recipient denom).toNat + (a.amountOf denom).toNat + (b.amountOf denom).toNat <
        UInt64.size := by
  simp only [result_transfer_eq_ok_iff_forall_denom]
  constructor
  · rintro ⟨c, hc, h⟩ denom
    have hsum := Coins.ofList_toList_append_eq_ok_iff.1 hc denom
    obtain ⟨hheld, hfits⟩ := h denom
    have hroom := hfits hne
    omega
  · intro h
    -- What the sender has is an amount, and so the sums are.
    obtain ⟨c, hc⟩ : ∃ c, Coins.ofList (a.toList ++ b.toList) = .ok c :=
      Coins.exists_ofList_toList_append_iff.2 fun denom =>
        Nat.lt_of_le_of_lt (h denom).1 (s.balance sender denom).toNat_lt_size
    refine ⟨c, hc, fun denom => ?_⟩
    rw [Coins.ofList_toList_append_eq_ok_iff.1 hc denom, ← Nat.add_assoc]
    exact ⟨(h denom).1, fun _ => (h denom).2⟩

theorem balance_transfer_transfer {c : Coins}
    (hc : Coins.ofList (a.toList ++ b.toList) = .ok c)
    (hfirst : (transfer ctx sender recipient a s).result = .ok ())
    (hsecond : (transfer ctx' sender recipient b
      (transfer ctx sender recipient a s).state).result = .ok ())
    (htogether : (transfer ctx'' sender recipient c s).result = .ok ()) (x : Address)
    (denom : String) :
    (transfer ctx' sender recipient b
        (transfer ctx sender recipient a s).state).state.balance x denom =
      (transfer ctx'' sender recipient c s).state.balance x denom := by
  have hone := toNat_balance_transfer hfirst x denom
  have htwo := toNat_balance_transfer hsecond x denom
  have hsum := toNat_balance_transfer htogether x denom
  rw [Coins.ofList_toList_append_eq_ok_iff.1 hc denom] at hsum
  rw [← UInt64.toNat_inj]
  split_ifs at hone htwo hsum <;> omega

/-! ## There and back -/

/-- The recipient of a transfer has the coins, and the sender has the room that they left. -/
theorem result_transfer_back (hok : (transfer ctx sender recipient amount s).result = .ok ())
    (ctx' : Context) :
    (transfer ctx' recipient sender amount
      (transfer ctx sender recipient amount s).state).result = .ok () := by
  refine result_transfer_eq_ok_iff_forall_denom.2 fun denom => ?_
  obtain ⟨hheld, -⟩ := result_transfer_eq_ok_iff_forall_denom.1 hok denom
  obtain rfl | hne := eq_or_ne sender recipient
  · -- Coins that stayed where they were are there to be sent again.
    have hsame := toNat_balance_transfer hok sender denom
    exact ⟨by omega, fun hne => absurd rfl hne⟩
  · obtain ⟨hsender, hrecipient⟩ := toNat_balance_transfer_of_ne hne hok denom
    have hbound := (s.balance sender denom).toNat_lt_size
    exact ⟨by omega, fun _ => by omega⟩

theorem balance_transfer_back (hok : (transfer ctx sender recipient amount s).result = .ok ())
    (ctx' : Context) (x : Address) (denom : String) :
    (transfer ctx' recipient sender amount
      (transfer ctx sender recipient amount s).state).state.balance x denom =
        s.balance x denom := by
  have hthere := toNat_balance_transfer hok x denom
  have hback := toNat_balance_transfer (result_transfer_back hok ctx') x denom
  rw [← UInt64.toNat_inj]
  omega

end

/-! ## Main results -/

/-- **Sends add up**: two sends in a row from one account to another are both made exactly if
their coins add up to a set that could have been sent at once, and the balances are the same
either way. -/
theorem send_add {sender recipient : Address} (hne : sender ≠ recipient) (s : Ledger)
    (ctx ctx' ctx'' : Context) (a b : Coins) :
    let first := send ctx sender recipient a s
    let second := send ctx' sender recipient b first.state
    let together c := send ctx'' sender recipient c s
    ((first.result = .ok () ∧ second.result = .ok ()) ↔
      ∃ c, Coins.ofList (a.toList ++ b.toList) = .ok c ∧ (together c).result = .ok ()) ∧
    ∀ c, Coins.ofList (a.toList ++ b.toList) = .ok c → (together c).result = .ok () →
      ∀ x denom, second.state.balance x denom = (together c).state.balance x denom := by
  intro first second together
  have hboth : (first.result = .ok () ∧ second.result = .ok ()) ↔
      ∃ c, Coins.ofList (a.toList ++ b.toList) = .ok c ∧ (together c).result = .ok () :=
    (result_transfer_transfer_eq_ok_iff hne).trans (exists_sum_eq_ok_iff hne).symm
  refine ⟨hboth, fun c hc htogether => ?_⟩
  obtain ⟨hfirst, hsecond⟩ := hboth.2 ⟨c, hc, htogether⟩
  exact balance_transfer_transfer hc hfirst hsecond htogether

namespace Example

/-- Part of what Alice has, in two denominations. -/
def share : Coins := ⟨[⟨"uatom", 5⟩, ⟨"unova", 400⟩], by decide, by decide⟩

/-- All that Alice has. -/
def whole : Coins := ⟨[⟨"uatom", 5⟩, ⟨"unova", 1000⟩], by decide, by decide⟩

/-- Alice has as much as an amount can say. -/
def rich : Ledger := Operation.run initial [.deposit alice "unova" 18446744073709551615]

end Example

open Example in
/-- Alice sends Bob a share of what she has, and then the rest. -/
theorem send_add_example :
    let first := send ctx alice bob share ledger
    let second := send ctx alice bob (Coins.single "unova" 600) first.state
    alice ≠ bob ∧ Coins.ofList (share.toList ++ (Coins.single "unova" 600).toList) = .ok whole ∧
    (send ctx alice bob whole ledger).result = .ok () ∧
    (first.result = .ok () ∧ second.result = .ok ()) ∧
    second.state.balance bob "unova" =
      (send ctx alice bob whole ledger).state.balance bob "unova" := by
  intro first second
  have hne : alice ≠ bob := by decide
  have hsum : Coins.ofList (share.toList ++ (Coins.single "unova" 600).toList) = .ok whole := rfl
  have htogether : (send ctx alice bob whole ledger).result = .ok () := rfl
  obtain ⟨hboth, hbalance⟩ :=
    send_add hne ledger ctx ctx ctx share (Coins.single "unova" 600)
  exact ⟨hne, hsum, htogether, hboth.2 ⟨whole, hsum, htogether⟩,
    hbalance whole hsum htogether bob "unova"⟩

/-- **Sends can be undone**: what has been sent can be sent back, and then all balances are
what they were. -/
theorem send_back {s : Ledger} {ctx : Context} {sender recipient : Address} {amount : Coins}
    (hok : (send ctx sender recipient amount s).result = .ok ()) (ctx' : Context) :
    let back := send ctx' recipient sender amount (send ctx sender recipient amount s).state
    back.result = .ok () ∧ ∀ a denom, back.state.balance a denom = s.balance a denom :=
  ⟨result_transfer_back hok ctx', balance_transfer_back hok ctx'⟩

open Example in
/-- Bob gives back as much as an amount can say. -/
theorem send_back_example :
    let lent := send ctx alice bob (Coins.single "unova" 18446744073709551615) rich
    let back := send ctx bob alice (Coins.single "unova" 18446744073709551615) lent.state
    lent.result = .ok () ∧ lent.state.balance alice "unova" = 0 ∧ back.result = .ok () ∧
      back.state.balance alice "unova" = rich.balance alice "unova" := by
  intro lent back
  have hlent : lent.result = .ok () := rfl
  obtain ⟨hback, hbalance⟩ := send_back hlent ctx
  exact ⟨hlent, by decide +kernel, hback, hbalance alice "unova"⟩

end Ledger

end CoinTransfer
