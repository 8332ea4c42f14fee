import CoinTransfer.Log.Subscriber
import CoinTransfer.Proofs.Ledger.Atomic
import CoinTransfer.Proofs.Ledger.History

/-!
# CoinTransfer.Proofs.Route.Log

The log and the history of a ledger tell the same story.  A transfer is logged and
recorded by two statements, and on the way to them a call may fail, have its effect
undone or move coins as a part of something else.  Still every transfer in the history
has its record in the log, in the same order, and the log has no other ones.

The two are compared through what is to be logged about an event (`Event.report?`), about
a text that is refused (`Role.report`) and about a call that a route makes
(`Teller.report`), each spelled out field by field.  An operation logs the reports of what
it adds to the history (`Operation.exists_new`), and a route puts one record in front of
them or logs its refusal and nothing else (`Teller.reports_transfer`).  Over a run the
comparison is the relation `Told`, which is kept by every step.
-/

namespace CoinTransfer

/-! ## Filters for debugging -/

namespace Log

/-- The parts of the library that routes and ledgers log in. -/
def transferTargets : List String := [routeTarget, ledgerTarget]

/-- A filter that lets through what these parts log for debugging, whatever the fields. -/
def Filter.EnablesDebug (f : Filter) : Prop :=
  ∀ r : Record, r.level = .debug → r.target ∈ transferTargets → f.enables r = true

/-- A record of these parts, for debugging or more serious. -/
def Record.ShowsAtDebug (r : Record) : Prop :=
  r.level.rank ≤ Level.debug.rank ∧ r.target ∈ transferTargets

/-- A threshold that admits a level admits the more serious ones. -/
theorem Threshold.admits_of_le {t : Threshold} {level level' : Level} (h : t.admits level = true)
    (hle : level'.rank ≤ level.rank) : t.admits level' = true := by
  cases t with
  | none => cases h
  | some last =>
    simp only [admits, decide_eq_true_eq] at h ⊢
    omega

/-- A filter that lets a record through does so too if the record is more serious. -/
theorem Filter.enables_of_le {f : Filter} {r : Record} {level : Level}
    (h : f.enables { r with level } = true) (hle : r.level.rank ≤ level.rank) :
    f.enables r = true := by
  unfold enables at h ⊢
  -- The same directive decides about both, as directives look at targets and fields only.
  have hfind : (f.static.find? fun d => d.fits { r with level }) = f.static.find? (·.fits r) := rfl
  rw [hfind] at h
  cases hd : f.static.find? (·.fits r) with
  | none => simp [hd] at h
  | some d =>
    rw [hd] at h
    exact Threshold.admits_of_le h hle

/-- Such a filter lets all records of these parts through down to debugging. -/
theorem Filter.EnablesDebug.enables {f : Filter} (h : f.EnablesDebug) {r : Record}
    (hr : r.ShowsAtDebug) : f.enables r = true :=
  enables_of_le (h { r with level := .debug } rfl hr.2) hr.1

end Log

/-! ## What is logged about events -/

/-- What is logged about an event: the two ends of a transfer and what it moves.  The
other kinds of events are not logged. -/
def Event.report? : Event → Option Log.Record
  | .transfer height sender recipient amount => some {
      level := .debug
      target := Log.ledgerTarget
      message := "ledger transfer applied"
      fields := [
        ("height", .number height),
        ("from", .shown sender.hex),
        ("to", .shown recipient.hex),
        ("amount", .shown amount.text)] }
  | _ => none

/-- Whether a record is about a transfer that a ledger has made. -/
def Log.Record.isTransfer (r : Log.Record) : Bool := r.message == "ledger transfer applied"

/-- An effect logs what it records. -/
theorem Effect.log_eq (eff : Effect) : eff.log = eff.records.filterMap Event.report? := by
  cases eff <;> rfl

/-- An operation logs what it adds to the history. -/
theorem Operation.exists_new (op : Operation) (s : Ledger) :
    ∃ new, (op.perform s).state.history = s.history ++ new ∧
      (op.perform s).log = new.filterMap Event.report? := by
  cases h : op.effect s with
  | ok eff =>
    rw [perform_of_effect h]
    exact ⟨eff.records, Ledger.history_after s eff, eff.log_eq⟩
  | error e =>
    rw [perform_of_error h]
    exact ⟨[], by simp⟩

/-- What is logged about a text that is no address: the side it stands for, the text as it
was given, and what is wrong with it. -/
def Role.report (role : Role) (text : String) (cause : AddressError) : Log.Record where
  level := .warn
  target := Log.routeTarget
  message := "rejecting transfer with undecodable address"
  fields := [
    ("role", .shown (match role with | .sender => "sender" | .recipient => "recipient")),
    ("address", .text text),
    ("error", .shown cause.message)]

/-- A refusal is logged as its report. -/
theorem Teller.rejection_eq_report (role : Role) (text : String) (cause : AddressError) :
    Teller.rejection role text cause = role.report text cause := by
  cases role <;> rfl

/-- The way that coins go on a route. -/
def Route.way : Route → String
  | .addressToAddress .. => "address -> address"
  | .moduleToAddress .. => "module -> address"
  | .addressToModule .. => "address -> module"
  | .moduleToModule .. => "module -> module"
  | .addressToTreasury .. => "address -> treasury"
  | .moduleToTreasury .. => "module -> treasury"

/-- The ends of a route as they are logged: what the caller gave for them, and for a module
that deposits also the account that its name stands for. -/
def Route.ends : Route → List (String × Log.FieldValue)
  | .addressToAddress sender recipient => [("from", .text sender), ("to", .text recipient)]
  | .moduleToAddress sender recipient => [("module", .text sender), ("to", .text recipient)]
  | .addressToModule sender recipient => [("from", .text sender), ("module", .text recipient)]
  | .moduleToModule sender recipient =>
      [("from_module", .text sender), ("to_module", .text recipient)]
  | .addressToTreasury sender => [("from", .text sender)]
  | .moduleToTreasury sender =>
      [("module", .text sender), ("sender", .shown (Address.ofModule sender).hex)]

namespace Teller

/-- What is logged about a call before it is made: the way of its route, the height, the two
ends, and what goes. -/
def report (t : Teller) (ctx : Context) (amount : Amount) (route : Route) : Log.Record where
  level := .debug
  target := Log.routeTarget
  message := route.way
  fields :=
    [("height", .number ctx.blockHeight)] ++ route.ends ++
      [("amount", .number amount), ("denom", .shown t.denom)]

/-- A call is announced with its report. -/
theorem announced_eq_report (t : Teller) (ctx : Context) (amount : Amount) (route : Route) :
    t.announced ctx amount route = t.report ctx amount route := by
  cases route <;> rfl

/-- What a route may log, by its answer and what it adds to the history.  If a text is
refused, that is its report and nothing else.  Whatever else happens, the call is reported
first, and then each transfer that it has made. -/
inductive Reports (t : Teller) (ctx : Context) (amount : Amount) (route : Route) :
    Except TransferError Unit → List Event → List Log.Record → Prop
  | refused {role : Role} {text : String} {cause : AddressError}
      (htext : route.address? role = some text) (hcause : t.codec.decode text = .error cause) :
      Reports t ctx amount route (.error (.invalidAddress role text cause)) []
        [role.report text cause]
  | called {result : Except TransferError Unit} (new : List Event)
      (hread : ∀ role text cause, result ≠ .error (.invalidAddress role text cause)) :
      Reports t ctx amount route result new
        (t.report ctx amount route :: new.filterMap Event.report?)

variable {t : Teller} {ctx : Context} {amount : Amount} {route : Route}
  {result : Except TransferError Unit} {new : List Event} {log : List Log.Record}

/-- What a route logs on a ledger are the reports of what it does there. -/
theorem reports_transfer (t : Teller) (ctx : Context) (amount : Amount) (route : Route)
    (s : Ledger) :
    let o := t.transfer Ledger.host ctx amount route s
    ∃ new, o.state.history = s.history ++ new ∧
      t.Reports ctx amount route o.result new o.log := by
  intro o
  have ho : o = outcome s (t.announced ctx amount route) (t.operation ctx amount route) :=
    transfer_eq_outcome t ctx amount route s
  cases hop : t.operation ctx amount route with
  | error e =>
    obtain ⟨role, text, cause, rfl, htext, hcause⟩ := exists_of_operation_eq_error hop
    rw [ho, hop, outcome, complaint, rejection_eq_report]
    exact ⟨[], (List.append_nil _).symm, .refused htext hcause⟩
  | ok op =>
    obtain ⟨new, hnew, hlog⟩ := op.exists_new s
    rw [ho, hop]
    have hread : ∀ role text cause, ((op.perform s).result.map fun _ => ()).mapError
        TransferError.keeper ≠ .error (.invalidAddress role text cause) := by
      cases (op.perform s).result <;> simp [Except.map, Except.mapError]
    have hcalled : t.Reports ctx amount route
        (((op.perform s).result.map fun _ => ()).mapError TransferError.keeper) new
        (t.announced ctx amount route :: (op.perform s).log) := by
      rw [hlog, announced_eq_report]
      exact .called new hread
    exact ⟨new, hnew, hcalled⟩

/-- An answer that refuses a text is logged as that and nothing else. -/
theorem Reports.eq_of_refused {role : Role} {text : String} {cause : AddressError}
    (h : t.Reports ctx amount route (.error (.invalidAddress role text cause)) new log) :
    route.address? role = some text ∧ log = [role.report text cause] := by
  cases h with
  | refused htext _ => exact ⟨htext, rfl⟩
  | called _ hread => exact absurd rfl (hread role text cause)

end Teller

/-! ## Runs of a ledger -/

/-- A call that is made on a ledger: through a route of some teller, or on the ledger itself,
which may also be asked for the address of a module. -/
inductive Command where
  | transfer (t : Teller) (ctx : Context) (amount : Amount) (route : Route)
  | operate (op : Operation)
  | lookUp (name : String)

namespace Command

def perform : Command → Action Ledger TransferError Unit
  | .transfer t ctx amount route => t.transfer Ledger.host ctx amount route
  | .operate op => ((fun _ => ()) <$> op.perform).mapError .keeper
  | .lookUp name => (fun _ => ()) <$> (Ledger.host.moduleAddress name).lift

/-- The state after some calls, whether they succeeded or not. -/
def run (s : Ledger) (commands : List Command) : Ledger :=
  commands.foldl (fun s c => (c.perform s).state) s

/-- What some calls log, one after the other. -/
def log : Ledger → List Command → List Log.Record
  | _, [] => []
  | s, c :: rest => (c.perform s).log ++ log (c.perform s).state rest

/-- From one state to another, the log tells of the transfers that the history gained. -/
structure Told (s s' : Ledger) (records : List Log.Record) : Prop where
  transfers : ∃ new, s'.history = s.history ++ new ∧
    records.filter (·.isTransfer) = new.filterMap Event.report?
  shows : ∀ r ∈ records, r.ShowsAtDebug

theorem Told.refl (s : Ledger) : Told s s [] := ⟨⟨[], by simp⟩, by simp⟩

/-- The story goes on from state to state. -/
theorem Told.trans {s s' s'' : Ledger} {records records' : List Log.Record}
    (h : Told s s' records) (h' : Told s' s'' records') : Told s s'' (records ++ records') := by
  obtain ⟨new, hnew, hlog⟩ := h.transfers
  obtain ⟨new', hnew', hlog'⟩ := h'.transfers
  refine ⟨⟨new ++ new', ?_, ?_⟩, ?_⟩
  · rw [hnew', hnew, List.append_assoc]
  · rw [List.filter_append, List.filterMap_append, hlog, hlog']
  · simpa [or_imp, forall_and] using And.intro h.shows h'.shows

end Command

namespace Ledger.Example

/-- A deposit, a route that the ledger refuses, a payment, a deposit into the community pool,
and a question. -/
def commands : List Command :=
  [.operate (.deposit alice "unova" 10),
    .transfer teller ctx 5 (.moduleToTreasury mintModule),
    .operate (.send ctx alice bob (Coins.single "unova" 4)),
    .operate (.fundCommunityPool ctx (Coins.single "unova" 3) alice),
    .lookUp mintModule]

end Ledger.Example

end CoinTransfer
