import CoinTransfer.Keeper.Recorded
import CoinTransfer.Proofs.Route

/-!
# CoinTransfer.Proofs.Route.Host

Routes over any host.  A host may do anything in a call, so what a route does is said
by the calls that it makes: none if one of its texts is no address, and else the one
of `Asks` that moves coins, after the directory has been asked if the route needs it.
What the route leaves behind is then what this call leaves behind, with the error of
the host wrapped (`Teller.calls_of_transfer`).

The calls are seen by `Host.recorded`, which is a host like any other.  So every fact
is proved for any host first, and what is noted follows from the same fact about the
recorded host.
-/

namespace CoinTransfer

variable {σ : Type}

/-! ## Calls -/

/-- Makes a call on a host.  What a directory answers is passed over. -/
def HostCall.perform (host : Host σ) : HostCall → Action σ KeeperError Unit
  | .send ctx sender recipient amount => host.send ctx sender recipient amount
  | .sendFromModuleToAccount ctx sender recipient amount =>
      host.sendFromModuleToAccount ctx sender recipient amount
  | .sendFromModuleToModule ctx sender recipient amount =>
      host.sendFromModuleToModule ctx sender recipient amount
  | .sendFromAccountToModule ctx sender recipient amount =>
      host.sendFromAccountToModule ctx sender recipient amount
  | .fundCommunityPool ctx amount depositor => host.fundCommunityPool ctx amount depositor
  | .moduleAddress name => (fun _ => ()) <$> (host.moduleAddress name).lift

/-- A recorded host makes the call of the host behind it, and notes it. -/
theorem HostCall.withoutLog_perform_recorded (host : Host σ) (call : HostCall) (s : σ)
    (noted : List HostCall) :
    (call.perform host.recorded (s, noted)).withoutLog =
      ((call.perform host s).result, ((call.perform host s).state, noted ++ [call])) := by
  cases call with
  | moduleAddress name =>
    simp only [perform, Action.map_apply, Action.lift, Action.mapError_apply]
    rfl
  | _ => rfl

/-- A directory answers, as it cannot fail. -/
theorem Host.exists_moduleAddress_eq_ok (host : Host σ) (name : String) (s : σ) :
    ∃ a, (host.moduleAddress name s).result = .ok a := by
  cases h : (host.moduleAddress name s).result with
  | ok a => exact ⟨a, rfl⟩
  | error e => exact e.elim

/-! ## What a route asks of a host -/

namespace Teller

variable {t : Teller} {host : Host σ} {ctx : Context} {amount : Amount} {route : Route} {s s' : σ}
  {before : List HostCall} {move : HostCall}

/-- The error about a text if it is no address. -/
def fault (t : Teller) (role : Role) (text : String) : Option TransferError :=
  match t.codec.decode text with
  | .ok _ => none
  | .error cause => some (.invalidAddress role text cause)

/-- The error about the first text of a route that is no address. -/
def refusal (t : Teller) : Route → Option TransferError
  | .addressToAddress sender recipient =>
      (t.fault .sender sender).or (t.fault .recipient recipient)
  | .moduleToAddress _ recipient => t.fault .recipient recipient
  | .addressToModule sender _ => t.fault .sender sender
  | .moduleToModule _ _ => none
  | .addressToTreasury sender => t.fault .sender sender
  | .moduleToTreasury _ => none

theorem exists_decode_eq_ok {role : Role} {text : String} (h : t.fault role text = none) :
    ∃ a, t.codec.decode text = .ok a := by
  unfold fault at h
  split at h
  · next a ha => exact ⟨a, ha⟩
  · cases h

/-- Reading a text that is no address ends a route, and the host has not been asked. -/
theorem withoutLog_decode_bind {role : Role} {text : String} {e : TransferError}
    (h : t.fault role text = some e) (f : Address → Action σ TransferError Unit) (s : σ) :
    ((t.decode role text >>= f) s).withoutLog = (.error e, s) := by
  unfold fault at h
  split at h
  · cases h
  · next cause hc =>
    cases h
    rw [Action.bind_of_error (decode_of_error hc role s)]
    rfl

/-- A route ends at the first text that is no address. -/
theorem withoutLog_transfer_of_refusal {e : TransferError} (h : t.refusal route = some e)
    (host : Host σ) (ctx : Context) (amount : Amount) (s : σ) :
    (t.transfer host ctx amount route s).withoutLog = (.error e, s) := by
  cases route with
  | addressToAddress sender recipient =>
    obtain hs | ⟨hs, hr⟩ := Option.or_eq_some_iff.1 h
    · exact withoutLog_decode_bind hs _ s
    · obtain ⟨a, ha⟩ := exists_decode_eq_ok hs
      rw [transfer, decode_of_ok ha, pure_bind]
      exact withoutLog_decode_bind hr _ s
  | moduleToAddress sender recipient => exact withoutLog_decode_bind h _ s
  | addressToModule sender recipient => exact withoutLog_decode_bind h _ s
  | moduleToModule sender recipient => cases h
  | addressToTreasury sender => exact withoutLog_decode_bind h _ s
  | moduleToTreasury sender => cases h

/-! ## The calls of a route -/

/-- What a route asks of a host in a state: the calls before the one that moves coins,
the state that they leave, and the call that moves coins.  The texts of the route are
read as addresses, and names of modules are passed on as they are. -/
inductive Asks (t : Teller) (host : Host σ) (ctx : Context) (amount : Amount) (s : σ) :
    Route → List HostCall → σ → HostCall → Prop
  | addressToAddress {sender recipient : String} {a b : Address}
      (ha : t.codec.decode sender = .ok a) (hb : t.codec.decode recipient = .ok b) :
      Asks t host ctx amount s (.addressToAddress sender recipient) [] s
        (.send ctx a b (t.coins amount))
  | moduleToAddress {sender recipient : String} {b : Address}
      (hb : t.codec.decode recipient = .ok b) :
      Asks t host ctx amount s (.moduleToAddress sender recipient) [] s
        (.sendFromModuleToAccount ctx sender b (t.coins amount))
  | addressToModule {sender recipient : String} {a : Address}
      (ha : t.codec.decode sender = .ok a) :
      Asks t host ctx amount s (.addressToModule sender recipient) [] s
        (.sendFromAccountToModule ctx a recipient (t.coins amount))
  | moduleToModule {sender recipient : String} :
      Asks t host ctx amount s (.moduleToModule sender recipient) [] s
        (.sendFromModuleToModule ctx sender recipient (t.coins amount))
  | addressToTreasury {sender : String} {a : Address} (ha : t.codec.decode sender = .ok a) :
      Asks t host ctx amount s (.addressToTreasury sender) [] s
        (.fundCommunityPool ctx (t.coins amount) a)
  | moduleToTreasury {sender : String} {a : Address}
      (ha : (host.moduleAddress sender s).result = .ok a) :
      Asks t host ctx amount s (.moduleToTreasury sender) [.moduleAddress sender]
        (host.moduleAddress sender s).state (.fundCommunityPool ctx (t.coins amount) a)

/-- A route whose texts are addresses asks something of every host. -/
theorem exists_asks (h : t.refusal route = none) (host : Host σ) (ctx : Context)
    (amount : Amount) (s : σ) :
    ∃ before s' move, t.Asks host ctx amount s route before s' move := by
  cases route with
  | addressToAddress sender recipient =>
    obtain ⟨hs, hr⟩ := Option.or_eq_none_iff.1 h
    obtain ⟨a, ha⟩ := exists_decode_eq_ok hs
    obtain ⟨b, hb⟩ := exists_decode_eq_ok hr
    exact ⟨_, _, _, .addressToAddress ha hb⟩
  | moduleToAddress sender recipient =>
    obtain ⟨b, hb⟩ := exists_decode_eq_ok h
    exact ⟨_, _, _, .moduleToAddress hb⟩
  | addressToModule sender recipient =>
    obtain ⟨a, ha⟩ := exists_decode_eq_ok h
    exact ⟨_, _, _, .addressToModule ha⟩
  | moduleToModule sender recipient => exact ⟨_, _, _, .moduleToModule⟩
  | addressToTreasury sender =>
    obtain ⟨a, ha⟩ := exists_decode_eq_ok h
    exact ⟨_, _, _, .addressToTreasury ha⟩
  | moduleToTreasury sender =>
    obtain ⟨a, ha⟩ := host.exists_moduleAddress_eq_ok sender s
    exact ⟨_, _, _, .moduleToTreasury ha⟩

/-- A recorded host is asked the same, and has noted the calls before. -/
theorem Asks.recorded (h : t.Asks host ctx amount s route before s' move)
    (noted : List HostCall) :
    t.Asks host.recorded ctx amount (s, noted) route before (s', noted ++ before) move := by
  cases h with
  | addressToAddress ha hb => simpa using Asks.addressToAddress ha hb
  | moduleToAddress hb => simpa using Asks.moduleToAddress hb
  | addressToModule ha => simpa using Asks.addressToModule ha
  | moduleToModule => simpa using Asks.moduleToModule
  | addressToTreasury ha => simpa using Asks.addressToTreasury ha
  | moduleToTreasury ha => exact .moduleToTreasury ha

/-- Going on with the answer of a call that cannot fail. -/
theorem withoutLog_lift_bind {x : Action σ Empty Address} {a : Address}
    (h : (x s).result = .ok a) (f : Address → Action σ TransferError Unit) :
    ((x.lift >>= f) s).withoutLog = (f a (x s).state).withoutLog := by
  have hlift : (x.lift : Action σ TransferError Address) s = ⟨.ok a, (x s).state, (x s).log⟩ := by
    rw [Action.lift, Action.mapError_apply, h]
    rfl
  rw [Action.bind_of_ok hlift]
  rfl

/-- The last step of a route: it announces a call and makes it. -/
theorem withoutLog_emit_bind (r : Log.Record) (x : Action σ KeeperError Unit) (s : σ) :
    ((Action.emit r >>= fun _ => x.mapError TransferError.keeper) s).withoutLog =
      ((x s).result.mapError .keeper, (x s).state) := rfl

/-- A route leaves behind what the call does that moves coins. -/
theorem Asks.withoutLog_transfer (h : t.Asks host ctx amount s route before s' move) :
    (t.transfer host ctx amount route s).withoutLog =
      ((move.perform host s').result.mapError .keeper, (move.perform host s').state) := by
  cases h with
  | addressToAddress ha hb =>
    rw [transfer, decode_of_ok ha, pure_bind, decode_of_ok hb, pure_bind]
    exact withoutLog_emit_bind ..
  | moduleToAddress hb =>
    rw [transfer, decode_of_ok hb, pure_bind]
    exact withoutLog_emit_bind ..
  | addressToModule ha =>
    rw [transfer, decode_of_ok ha, pure_bind]
    exact withoutLog_emit_bind ..
  | moduleToModule => exact withoutLog_emit_bind ..
  | addressToTreasury ha =>
    rw [transfer, decode_of_ok ha, pure_bind]
    exact withoutLog_emit_bind ..
  | moduleToTreasury ha =>
    rw [transfer, withoutLog_lift_bind ha]
    exact withoutLog_emit_bind ..

/-- **Contract of a route** over any host.  The first text that is no address ends it:
its error names the side, the text and the cause, and the host, which has not been
called, is in the state that it was in.  Else the calls noted are those of `Asks`, the
last of which moves coins, and both the answer of the route and the state of the host
are those of this call, an error being wrapped. -/
theorem calls_of_transfer (t : Teller) (host : Host σ) (ctx : Context) (amount : Amount)
    (route : Route) (s : σ) (noted : List HostCall) :
    let left := (t.transfer host ctx amount route s).withoutLog
    let recorded := (t.transfer host.recorded ctx amount route (s, noted)).withoutLog
    (t.coins amount).toList = (if amount = 0 then [] else [⟨t.denom, amount⟩]) ∧
    match t.refusal route with
    | some e => left = (.error e, s) ∧ recorded = (.error e, (s, noted))
    | none => ∃ before s' move, t.Asks host ctx amount s route before s' move ∧
        let o := move.perform host s'
        left = (o.result.mapError .keeper, o.state) ∧
        recorded = (o.result.mapError .keeper, (o.state, noted ++ before ++ [move])) := by
  intro left recorded
  constructor
  · by_cases hz : amount = 0
    · rw [if_pos hz, hz, coins, Coins.single_zero, Coins.toList_empty]
    · rw [if_neg hz, coins, Coins.toList_single _ hz]
  · cases h : t.refusal route with
    | some e =>
      exact ⟨withoutLog_transfer_of_refusal h host ctx amount s,
        withoutLog_transfer_of_refusal h host.recorded ctx amount (s, noted)⟩
    | none =>
      obtain ⟨before, s', move, hasks⟩ := exists_asks h host ctx amount s
      refine ⟨before, s', move, hasks, hasks.withoutLog_transfer, ?_⟩
      have hnoted := HostCall.withoutLog_perform_recorded host move s' (noted ++ before)
      obtain ⟨hresult, hstate⟩ := Prod.mk.inj hnoted
      rw [← hresult, ← hstate]
      exact (hasks.recorded noted).withoutLog_transfer

end Teller

end CoinTransfer
