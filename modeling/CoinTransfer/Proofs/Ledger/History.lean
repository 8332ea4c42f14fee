import Mathlib.Data.List.Induction
import CoinTransfer.Proofs.Ledger.Effect

/-!
# CoinTransfer.Proofs.Ledger.History

The events of a ledger as its books.  `replay` posts events one after the other to
exact balances that may go below zero or grow without bound, and knows nothing of
the checks that a ledger makes.  The main result is that the events determine the
money: balances and pool are what the events sum up to, and no beginning of the
history ever leaves the bounds of an amount.

The invariant is `Audited`.  Each change of a ledger adds one event and changes the
money as posting it does (`Audited.record`); a deposit into the community pool is
two such changes in a row.
-/

namespace CoinTransfer

namespace Event

/-! ## Sums over events -/

/-- What an event creates in an account. -/
def created (a : Address) (denom : String) : Event → Nat
  | .minted recipient c => if recipient = a ∧ c.denom = denom then c.amount.toNat else 0
  | _ => 0

/-- What an event moves to an account. -/
def received (a : Address) (denom : String) : Event → Nat
  | .transfer _ _ recipient amount => if recipient = a then (amount.amountOf denom).toNat else 0
  | _ => 0

/-- What an event moves from an account. -/
def sent (a : Address) (denom : String) : Event → Nat
  | .transfer _ sender _ amount => if sender = a then (amount.amountOf denom).toNat else 0
  | _ => 0

/-- What an event counts into the community pool. -/
def pooled (denom : String) : Event → Nat
  | .communityPoolFunded _ _ amount => (amount.amountOf denom).toNat
  | _ => 0

/-- The sum of a quantity over events. -/
def total (f : Event → Nat) (log : List Event) : Nat := (log.map f).sum

@[simp] theorem total_nil (f : Event → Nat) : total f [] = 0 := rfl

@[simp] theorem total_cons (f : Event → Nat) (e : Event) (log : List Event) :
    total f (e :: log) = f e + total f log := by
  simp [total]

/-- A quantity adds up over the parts of a history. -/
@[simp] theorem total_append (f : Event → Nat) (front back : List Event) :
    total f (front ++ back) = total f front + total f back := by
  simp [total]

/-- The order of events does not matter for a sum over them. -/
theorem total_perm {log log' : List Event} (h : log.Perm log') (f : Event → Nat) :
    total f log = total f log' :=
  (h.map f).sum_nat

/-! ## Replay -/

/-- Posts an event to exact balances. -/
def post (book : Address → String → Int) : Event → Address → String → Int
  | .transfer _ sender recipient amount => fun a denom =>
      book a denom - (if sender = a then (amount.amountOf denom).toNat else 0) +
        if recipient = a then (amount.amountOf denom).toNat else 0
  | .communityPoolFunded .. => book
  | .minted recipient c => fun a denom =>
      book a denom + if recipient = a ∧ c.denom = denom then c.amount.toNat else 0

/-- The exact balances after some events, with nothing to start from. -/
def replay (log : List Event) : Address → String → Int := log.foldl post fun _ _ => 0

/-- The last event is posted to the balances before it. -/
@[simp] theorem replay_concat (log : List Event) (e : Event) :
    replay (log ++ [e]) = post (replay log) e := by
  simp [replay]

/-- What posting an event does to one balance: what is created and received is added, and what
is sent is taken away. -/
theorem post_apply (book : Address → String → Int) (e : Event) (a : Address) (denom : String) :
    post book e a denom =
      book a denom + created a denom e + received a denom e - sent a denom e := by
  cases e with
  | transfer height sender recipient amount =>
    simp only [post, created, received, sent]
    omega
  | communityPoolFunded height depositor amount => simp [post, created, received, sent]
  | minted recipient c => simp [post, created, received, sent]

/-- The exact balances are sums over the events. -/
theorem replay_eq (log : List Event) (a : Address) (denom : String) :
    replay log a denom =
      total (created a denom) log + total (received a denom) log - total (sent a denom) log := by
  induction log using List.reverseRecOn with
  | nil => rfl
  | append_singleton log e ih =>
    rw [replay_concat, post_apply, ih]
    simp only [total_append, total_cons, total_nil]
    omega

/-- The order of events does not matter for the exact balances at the end. -/
theorem replay_perm {log log' : List Event} (h : log.Perm log') : replay log = replay log' := by
  funext a denom
  simp only [replay_eq, total_perm h]

end Event

/-- What an effect records when it happens. -/
def Effect.records : Effect → List Event
  | .register _ => []
  | .block _ => []
  | .mint a denom n => [.minted a ⟨denom, n⟩]
  | .move ctx sender recipient amount => [.transfer ctx.blockHeight sender recipient amount]
  | .fund ctx depositor holder amount =>
      [.transfer ctx.blockHeight depositor holder amount,
        .communityPoolFunded ctx.blockHeight depositor amount]

namespace Ledger

/-! ## What the changes of a ledger add to its history -/

/-- The events so far, in order. -/
def history (s : Ledger) : List Event := s.events.toList

@[simp] theorem history_record (s : Ledger) (e : Event) :
    (s.record e).history = s.history ++ [e] := by
  simp [history, record]

/-- New supply adds one event to the history. -/
theorem history_minted (s : Ledger) (a : Address) (denom : String) (n : Amount) :
    (s.minted a denom n).history = s.history ++ [.minted a ⟨denom, n⟩] := history_record _ _

/-- A transfer adds one event to the history. -/
theorem history_moved (s : Ledger) (ctx : Context) (sender recipient : Address)
    (amount : Coins) :
    (s.moved ctx sender recipient amount).history =
      s.history ++ [.transfer ctx.blockHeight sender recipient amount] := history_record _ _

/-- Counting coins into the pool adds one event to the history. -/
theorem history_addToPool (s : Ledger) (ctx : Context) (depositor : Address) (amount : Coins) :
    (s.addToPool ctx depositor amount).history =
      s.history ++ [.communityPoolFunded ctx.blockHeight depositor amount] := history_record _ _

/-- An effect adds to the history what it records, behind what is there. -/
theorem history_after (s : Ledger) (eff : Effect) :
    (eff.after s).history = s.history ++ eff.records := by
  cases eff with
  | register name => exact (List.append_nil _).symm
  | block a => exact (List.append_nil _).symm
  | mint a denom n => exact history_minted ..
  | move ctx sender recipient amount => exact history_moved ..
  | fund ctx depositor holder amount =>
    rw [Effect.after, history_addToPool, history_moved, List.append_assoc]
    rfl

/-! ## What they do to the money -/

variable {s s' : Ledger} {a : Address} {denom : String}

/-- New supply shows in the balance it is created in alone. -/
theorem toNat_balance_minted {n : Amount}
    (h : (s.balance a denom).toNat + n.toNat < UInt64.size) (a' : Address) (d : String) :
    ((s.minted a denom n).balance a' d).toNat =
      (s.balance a' d).toNat + if a = a' ∧ denom = d then n.toNat else 0 :=
  Balances.toNat_amountOf_credited h a' d

/-- What a transfer does to balances; its sender may be its recipient. -/
theorem toNat_balance_moved {sender recipient : Address} {amount : Coins}
    (h : s.checkCoins sender recipient amount.toList = .ok ()) (ctx : Context) (a : Address)
    (d : String) :
    ((s.moved ctx sender recipient amount).balance a d).toNat +
        (if sender = a then (amount.amountOf d).toNat else 0) =
      (s.balance a d).toNat + if recipient = a then (amount.amountOf d).toNat else 0 := by
  rw [Coins.toNat_amountOf]
  exact Balances.toNat_amountOf_movedAll (checkCoins_eq_ok_iff.1 h) a d

/-- Counting coins into the pool adds them to the totals exactly. -/
theorem toNat_pool_addToPool {amount : Coins} (h : s.checkPoolCoins amount.toList = .ok ())
    (ctx : Context) (depositor : Address) (d : String) :
    ((s.addToPool ctx depositor amount).pool.amountOf d).toNat =
      (s.pool.amountOf d).toNat + (amount.amountOf d).toNat := by
  rw [Coins.toNat_amountOf]
  exact Totals.toNat_amountOf_foldl_plus amount.distinct (checkPoolCoins_eq_ok_iff.1 h) d

/-! ## The invariant -/

/-- The history accounts for the money, and every beginning of it stays in the
bounds of an amount. -/
structure Audited (s : Ledger) : Prop where
  balance : ∀ a denom, ((s.balance a denom).toNat : Int) = Event.replay s.history a denom
  pool : ∀ denom, (s.pool.amountOf denom).toNat = Event.total (Event.pooled denom) s.history
  bounded : ∀ log, log <+: s.history → ∀ a denom,
    0 ≤ Event.replay log a denom ∧ Event.replay log a denom < UInt64.size

/-- A ledger starts with no events and no money. -/
theorem audited_initial : initial.Audited where
  balance _ _ := by simp [initial, register, balance, history, Event.replay]
  pool _ := by simp [initial, register, history]
  bounded log h a denom := by
    have hnil : log = [] := List.prefix_nil.1 h
    simp [hnil, Event.replay]

/-- One more event that is posted to the money keeps the books in order. -/
theorem Audited.record (h : s.Audited) {e : Event} (hhistory : s'.history = s.history ++ [e])
    (hbalance : ∀ a denom, ((s'.balance a denom).toNat : Int) =
      Event.post (fun a denom => (s.balance a denom).toNat) e a denom)
    (hpool : ∀ denom, (s'.pool.amountOf denom).toNat =
      (s.pool.amountOf denom).toNat + Event.pooled denom e) : s'.Audited := by
  have hbook : (fun a denom => ((s.balance a denom).toNat : Int)) = Event.replay s.history := by
    funext a denom
    exact h.balance a denom
  have hreplay : ∀ a denom, ((s'.balance a denom).toNat : Int) =
      Event.replay s'.history a denom := by
    intro a denom
    rw [hbalance, hbook, hhistory, Event.replay_concat]
  refine ⟨hreplay, fun denom => ?_, fun log hlog a denom => ?_⟩
  · rw [hpool, h.pool, hhistory, Event.total_append, Event.total_cons, Event.total_nil,
      Nat.add_zero]
  · -- A beginning is all of the new history, whose replay is the balances, or an old one.
    rw [hhistory, List.prefix_concat_iff, ← hhistory] at hlog
    obtain rfl | hlog := hlog
    · have := (s'.balance a denom).toNat_lt_size
      rw [← hreplay]
      omega
    · exact h.bounded log hlog a denom

/-- New supply that fits keeps the books in order. -/
theorem Audited.minted {n : Amount} (h : s.Audited)
    (hfits : (s.balance a denom).toNat + n.toNat < UInt64.size) : (s.minted a denom n).Audited := by
  refine h.record (history_minted ..) (fun a' d => ?_) fun _ => rfl
  rw [toNat_balance_minted hfits]
  simp only [Event.post]
  omega

/-- A transfer that passes its check keeps the books in order. -/
theorem Audited.moved {sender recipient : Address} {amount : Coins} (h : s.Audited)
    (hcheck : s.checkCoins sender recipient amount.toList = .ok ()) (ctx : Context) :
    (s.moved ctx sender recipient amount).Audited := by
  refine h.record (history_moved ..) (fun a d => ?_) fun _ => rfl
  have hlaw := toNat_balance_moved hcheck ctx a d
  simp only [Event.post]
  omega

/-- Counting coins that fit into the pool keeps the books in order. -/
theorem Audited.addToPool {amount : Coins} (h : s.Audited)
    (hcheck : s.checkPoolCoins amount.toList = .ok ()) (ctx : Context) (depositor : Address) :
    (s.addToPool ctx depositor amount).Audited :=
  h.record (history_addToPool ..) (fun _ _ => rfl) (toNat_pool_addToPool hcheck ctx depositor)

/-- Every effect that passes its check keeps the books in order. -/
theorem Audited.after {eff : Effect} (h : s.Audited) (hcheck : eff.check s = .ok ()) :
    (eff.after s).Audited := by
  cases eff with
  | register name => exact ⟨h.balance, h.pool, h.bounded⟩
  | block a => exact ⟨h.balance, h.pool, h.bounded⟩
  | mint a denom n => exact h.minted (Effect.check_mint_eq_ok_iff.1 hcheck)
  | move ctx sender recipient amount => exact h.moved hcheck ctx
  | fund ctx depositor holder amount =>
    obtain ⟨hpool, hcoins⟩ := Effect.check_fund_eq_ok_iff.1 hcheck
    exact (h.moved hcoins ctx).addToPool hpool ctx depositor

/-- The books are in order after every run. -/
theorem audited_run (ops : List Operation) : (Operation.run initial ops).Audited :=
  Operation.run_induction audited_initial
    (fun _ _ _ h he => h.after (Operation.effect_eq_ok_iff.1 he).2) ops

theorem Reachable.audited (h : s.Reachable) : s.Audited := by
  obtain ⟨ops, rfl⟩ := h
  exact audited_run ops

/-- The order of the events does not show in the money. -/
theorem Audited.eq_of_perm (h : s.Audited) (h' : s'.Audited) (hperm : s.history.Perm s'.history) :
    (∀ a denom, s.balance a denom = s'.balance a denom) ∧ s.communityPool = s'.communityPool := by
  constructor
  · intro a denom
    rw [← UInt64.toNat_inj, ← Int.natCast_inj, h.balance, h'.balance, Event.replay_perm hperm]
  · refine Coins.ext_amountOf fun denom => ?_
    rw [communityPool, communityPool, Coins.amountOf_ofTotals, Coins.amountOf_ofTotals,
      ← UInt64.toNat_inj, h.pool, h'.pool, Event.total_perm hperm]

/-- **The history determines the money**: after any run, balances and pool are what the
events sum up to, and replaying the first events, however many, never leaves the
bounds of an amount. -/
theorem balances_of_history (ops : List Operation) :
    let s := Operation.run initial ops
    (∀ a denom, ((s.balance a denom).toNat : Int) =
      Event.total (Event.created a denom) s.history +
        Event.total (Event.received a denom) s.history -
          Event.total (Event.sent a denom) s.history) ∧
    (∀ denom, (s.communityPool.amountOf denom).toNat =
      Event.total (Event.pooled denom) s.history) ∧
    (∀ a denom, Event.replay s.history a denom = (s.balance a denom).toNat) ∧
    ∀ k a denom, 0 ≤ Event.replay (s.history.take k) a denom ∧
      Event.replay (s.history.take k) a denom < UInt64.size := by
  intro s
  have h : s.Audited := audited_run ops
  refine ⟨fun a denom => ?_, fun denom => ?_, fun a denom => (h.balance a denom).symm,
    fun k => h.bounded _ (List.take_prefix k _)⟩
  · rw [h.balance, Event.replay_eq]
  · rw [communityPool, Coins.amountOf_ofTotals, h.pool]

end Ledger

end CoinTransfer
