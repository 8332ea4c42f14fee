import CoinTransfer.Ledger.Shared
import CoinTransfer.Proofs.Ledger.Order

/-!
# CoinTransfer.Proofs.Ledger.Shared

A shared ledger is linearizable: whatever the schedule is, the operations might as well
have been made one after the other, in the order in which they returned.  Only a mint
into the account of a module has a gap in it.  What it has found there is still so when
it goes on, because a registration is never removed and never changed, and so the mint
might have been made as a whole at its last step.

The invariant is `Linearized`.  A step either completes a whole operation or does nothing
to the ledger (`Client.Steps.whole`).
-/

namespace CoinTransfer

open Ledger

/-! ## The two halves of a mint -/

namespace Operation

variable {s : Ledger} {name : String}

/-- A mint ends at its look-up if that fails. -/
theorem perform_mintToModule_of_error {e : KeeperError} (h : s.moduleAccount name = .error e)
    (denom : String) (n : Amount) : (mintToModule name denom n).perform s = ⟨.error e, s, []⟩ := by
  rw [perform_apply, resolve, h]
  rfl

/-- A mint into an account that is registered is a deposit. -/
theorem perform_mintToModule_of_found {a : Address} (h : s.modules[name]? = some a)
    (denom : String) (n : Amount) :
    (mintToModule name denom n).perform s = (deposit a denom n).perform s := by
  have hresolve : (mintToModule name denom n).resolve s = .ok (.mint a denom n) := by
    rw [resolve, moduleAccount_eq_ok_iff.2 h]
    rfl
  rw [perform_apply, perform_apply, hresolve]
  rfl

end Operation

/-! ## Steps of a client -/

namespace Client

variable {s : Ledger} {c : Client} {p : Progress}

/-- The account that a client has found is the one that is registered. -/
def Sound (s : Ledger) : Client → Prop
  | .ready _ => True
  | .minting name _ _ found _ => s.modules[name]? = some found

/-- No operation takes back what has been found. -/
theorem Sound.apply (h : c.Sound s) (hs : s.Registered) (op : Operation) :
    c.Sound (op.apply s) := by
  cases c with
  | ready ops => trivial
  | minting name denom n found ops =>
    have hfound : s.modules[name]? = some found := h
    rw [Sound, Operation.getElem?_modules_apply]
    split
    · rw [hs.derived name found hfound]
    · exact hfound

/-- What a step of a client may do.  A look-up that fails completes its mint at once. -/
inductive Steps (s : Ledger) : Client → Progress → Prop
  | rest : Steps s (.ready []) ⟨.ready [], s, none⟩
  | complete (op : Operation) (ops : List Operation) :
      Steps s (.ready (op :: ops)) ⟨.ready ops, op.apply s, some ⟨op, (op.perform s).result⟩⟩
  | found {name : String} {a : Address} (denom : String) (n : Amount) (ops : List Operation)
      (h : s.modules[name]? = some a) :
      Steps s (.ready (.mintToModule name denom n :: ops)) ⟨.minting name denom n a ops, s, none⟩
  | deposit (name denom : String) (n : Amount) (a : Address) (ops : List Operation) :
      Steps s (.minting name denom n a ops) ⟨.ready ops, (Operation.deposit a denom n).apply s,
        some ⟨.mintToModule name denom n, ((Operation.deposit a denom n).perform s).result⟩⟩

/-- The first step of creating supply in a module's account finds the account. -/
theorem step_mint_of_ok {name : String} {a : Address} (h : s.moduleAccount name = .ok a)
    (denom : String) (n : Amount) (ops : List Operation) :
    step s (.ready (.mintToModule name denom n :: ops)) =
      ⟨.minting name denom n a ops, s, none⟩ := by
  simp only [step, moduleAddress_apply, h]

/-- Creating supply for an unknown module ends with its first step. -/
theorem step_mint_of_error {name : String} {e : KeeperError}
    (h : s.moduleAccount name = .error e) (denom : String) (n : Amount) (ops : List Operation) :
    step s (.ready (.mintToModule name denom n :: ops)) =
      ⟨.ready ops, s, some ⟨.mintToModule name denom n, .error e⟩⟩ := by
  simp only [step, moduleAddress_apply, h]

/-- A step of a client is one of those that `Steps` lists. -/
theorem steps (s : Ledger) (c : Client) : c.Steps s (c.step s) := by
  cases c with
  | minting name denom n a ops => exact .deposit name denom n a ops
  | ready ops =>
    cases ops with
    | nil => exact .rest
    | cons op ops =>
      cases op with
      | mintToModule name denom n =>
        cases h : s.moduleAccount name with
        | ok a =>
          rw [step_mint_of_ok h]
          exact .found denom n ops (moduleAccount_eq_ok_iff.1 h)
        | error e =>
          have hcomplete := Steps.complete (s := s) (.mintToModule name denom n) ops
          rw [Operation.apply, Operation.perform_mintToModule_of_error h] at hcomplete
          rw [step_mint_of_error h]
          exact hcomplete
      | _ => exact .complete _ ops

/-- A step from a ledger either leaves it alone, or completes the first pending operation
as if this were made as a whole. -/
inductive Progress.Whole (s : Ledger) : List Operation → Progress → Prop
  | idle (c : Client) : Whole s c.pending ⟨c, s, none⟩
  | complete (op : Operation) (c : Client) :
      Whole s (op :: c.pending) ⟨c, op.apply s, some ⟨op, (op.perform s).result⟩⟩

/-- A step leaves the ledger alone or does the whole of the first operation that is pending. -/
theorem Steps.whole (h : c.Steps s p) (hc : c.Sound s) : p.Whole s c.pending := by
  cases h with
  | rest => exact .idle (.ready [])
  | complete op ops => exact .complete op (.ready ops)
  | found denom n ops h => exact .idle (.minting _ denom n _ ops)
  | deposit name denom n a ops =>
    -- The account is still the registered one, so this is the mint as a whole.
    have hmint := Operation.perform_mintToModule_of_found hc denom n
    rw [Operation.apply, ← hmint]
    exact .complete (.mintToModule name denom n) (.ready ops)

/-- After a step, the account that a client has found is still the one of its module. -/
theorem Steps.sound (h : c.Steps s p) : p.client.Sound p.ledger := by
  cases h with
  | found denom n ops h => exact h
  | _ => trivial

end Client

namespace SharedLedger

variable {ι : Type} [DecidableEq ι] {s : Ledger} {programs : ι → List Operation}
  {z : SharedLedger ι} {i : ι}

/-! ## Steps of a shared ledger -/

/-- The next step of a client completes an operation, with the answer and the effect that
the operation has if it is made as a whole at this moment. -/
structure Completes (z : SharedLedger ι) (i : ι) (op : Operation) : Prop where
  ledger : (z.step i).ledger = op.apply z.ledger
  returns : (z.step i).returns = z.returns ++ [(i, ⟨op, (op.perform z.ledger).result⟩)]
  pending : (z.clients i).pending = op :: ((z.step i).clients i).pending

/-- The next step of a client can be noticed by nobody else. -/
structure Silent (z : SharedLedger ι) (i : ι) : Prop where
  ledger : (z.step i).ledger = z.ledger
  returns : (z.step i).returns = z.returns
  pending : (z.clients i).pending = ((z.step i).clients i).pending

/-- A step moves the client that takes it. -/
@[simp] theorem clients_step_self (z : SharedLedger ι) (i : ι) :
    (z.step i).clients i = ((z.clients i).step z.ledger).client :=
  if_pos rfl

/-- A step leaves the other clients where they are. -/
theorem clients_step_of_ne (z : SharedLedger ι) {j : ι} (h : j ≠ i) :
    (z.step i).clients j = z.clients j :=
  if_neg h

/-- A client that is never scheduled stays where it is. -/
theorem clients_run_of_not_mem {schedule : List ι} (h : i ∉ schedule) (z : SharedLedger ι) :
    (z.run schedule).clients i = z.clients i := by
  induction schedule generalizing z with
  | nil => rfl
  | cons j schedule ih =>
      obtain ⟨hne, hrest⟩ := not_or.1 (mt List.mem_cons.2 h)
      rw [run_cons, ih hrest, clients_step_of_ne z hne]

/-- Calls that have returned stay on record. -/
theorem returns_prefix_run (z : SharedLedger ι) (schedule : List ι) :
    z.returns <+: (z.run schedule).returns := by
  induction schedule generalizing z with
  | nil => exact List.prefix_rfl
  | cons j schedule ih => exact (List.prefix_append ..).trans (ih (z.step j))

/-- A client whose find is sound completes an operation or goes unnoticed. -/
theorem completes_or_silent (h : (z.clients i).Sound z.ledger) :
    (∃ op, z.Completes i op) ∨ z.Silent i := by
  have hwhole := (Client.steps z.ledger (z.clients i)).whole h
  generalize hops : (z.clients i).pending = ops at hwhole
  generalize hp : (z.clients i).step z.ledger = p at hwhole
  cases hwhole with
  | idle c =>
    refine .inr ⟨?_, ?_, ?_⟩ <;> simp [step, hp, hops]
  | complete op c =>
    refine .inl ⟨op, ?_, ?_, ?_⟩ <;> simp [step, hp, hops]

namespace Completes

variable {op : Operation}

/-- A completed operation is the last one of the order. -/
theorem operations (h : z.Completes i op) : (z.step i).operations = z.operations ++ [op] := by
  simp [SharedLedger.operations, h.returns]

/-- A completed operation returns what the whole of it answers on the ledger at that moment. -/
theorem answers (h : z.Completes i op) :
    (z.step i).answers = z.answers ++ [(op.perform z.ledger).result] := by
  simp [SharedLedger.answers, h.returns]

/-- A completed operation is the last one of its client, too. -/
theorem operationsOf_self (h : z.Completes i op) :
    (z.step i).operationsOf i = z.operationsOf i ++ [op] := by
  simp [operationsOf, h.returns]

/-- When one client completes an operation, the others have completed what they had before. -/
theorem operationsOf_of_ne (h : z.Completes i op) {j : ι} (hj : j ≠ i) :
    (z.step i).operationsOf j = z.operationsOf j := by
  simp [operationsOf, h.returns, hj.symm]

end Completes

/-! ## Linearizability -/

/-- What has returned might have been made one operation after the other from the
beginning, and what has not returned has had no effect. -/
structure Linearized (s : Ledger) (programs : ι → List Operation) (z : SharedLedger ι) : Prop where
  registered : z.ledger.Registered
  sound : ∀ i, (z.clients i).Sound z.ledger
  ledger : z.ledger = Operation.run s z.operations
  answers : z.answers = Operation.answers s z.operations
  programs : ∀ i, z.operationsOf i ++ (z.clients i).pending = programs i

namespace Linearized

/-- The order is empty at the start. -/
theorem start (hs : s.Registered) (programs : ι → List Operation) :
    (SharedLedger.start s programs).Linearized s programs where
  registered := hs
  sound _ := trivial
  ledger := rfl
  answers := rfl
  programs _ := rfl

/-- A step that completes an operation puts it at the end of the order. -/
theorem of_completes (h : z.Linearized s programs) {op : Operation} (hop : z.Completes i op) :
    (z.step i).Linearized s programs where
  registered := hop.ledger ▸ h.registered.apply op
  sound j := by
    by_cases hj : j = i
    · subst hj
      rw [clients_step_self]
      exact (Client.steps z.ledger (z.clients j)).sound
    · rw [clients_step_of_ne z hj, hop.ledger]
      exact (h.sound j).apply h.registered op
  ledger := by
    rw [hop.ledger, hop.operations, Operation.run_append, ← h.ledger]
    rfl
  answers := by
    rw [hop.answers, hop.operations, Operation.answers_append, ← h.ledger, h.answers]
    rfl
  programs j := by
    by_cases hj : j = i
    · subst hj
      rw [hop.operationsOf_self, List.append_assoc, List.singleton_append, ← hop.pending,
        h.programs]
    · rw [hop.operationsOf_of_ne hj, clients_step_of_ne z hj, h.programs]

/-- A step that completes nothing leaves the order as it is. -/
theorem of_silent (h : z.Linearized s programs) (hi : z.Silent i) :
    (z.step i).Linearized s programs where
  registered := hi.ledger ▸ h.registered
  sound j := by
    by_cases hj : j = i
    · subst hj
      rw [clients_step_self]
      exact (Client.steps z.ledger (z.clients j)).sound
    · rw [clients_step_of_ne z hj, hi.ledger]
      exact h.sound j
  ledger := by
    rw [hi.ledger, operations, hi.returns]
    exact h.ledger
  answers := by
    rw [SharedLedger.answers, operations, hi.returns]
    exact h.answers
  programs j := by
    rw [operationsOf, hi.returns, ← operationsOf]
    by_cases hj : j = i
    · subst hj
      rw [← hi.pending, h.programs]
    · rw [clients_step_of_ne z hj, h.programs]

/-- Every step keeps the ledger and the answers those of a sequential order. -/
theorem step (h : z.Linearized s programs) (i : ι) : (z.step i).Linearized s programs := by
  obtain ⟨op, hop⟩ | hsilent := completes_or_silent (h.sound i)
  · exact h.of_completes hop
  · exact h.of_silent hsilent

/-- Every schedule keeps the ledger and the answers those of a sequential order. -/
theorem run (h : z.Linearized s programs) (schedule : List ι) :
    (z.run schedule).Linearized s programs := by
  induction schedule generalizing z with
  | nil => exact h
  | cons i schedule ih => exact ih (h.step i)

end Linearized

/-! ## The gap in a mint -/

section Mint

variable {name denom : String} {n : Amount} {ops : List Operation}

/-- A client that asks for an unknown module completes its operation in that step. -/
theorem completes_mint_of_error (hready : z.clients i = .ready (.mintToModule name denom n :: ops))
    {e : KeeperError} (h : z.ledger.moduleAccount name = .error e) :
    z.Completes i (.mintToModule name denom n) := by
  have hmint := Operation.perform_mintToModule_of_error h denom n
  have hstep := Client.step_mint_of_error h denom n ops
  refine ⟨?_, ?_, ?_⟩ <;>
    simp [step, hready, hstep, hmint, Operation.apply, Client.pending]

/-- A client that has found the account of a module goes on to create the supply. -/
theorem clients_step_of_found
    (hready : z.clients i = .ready (.mintToModule name denom n :: ops)) {a : Address}
    (h : z.ledger.moduleAccount name = .ok a) :
    (z.step i).clients i = .minting name denom n a ops := by
  rw [clients_step_self, hready, Client.step_mint_of_ok h]

/-- The step that finds the account of a module completes nothing yet. -/
theorem silent_of_found (hready : z.clients i = .ready (.mintToModule name denom n :: ops))
    {a : Address} (h : z.ledger.moduleAccount name = .ok a) : z.Silent i := by
  have hstep := Client.step_mint_of_ok h denom n ops
  refine ⟨?_, ?_, ?_⟩ <;> simp [step, hready, hstep, Client.pending]

/-- The second step of creating supply completes it, as the account it has found is still the
right one. -/
theorem completes_mint_of_sound {a : Address}
    (hminting : z.clients i = .minting name denom n a ops) (h : (z.clients i).Sound z.ledger) :
    z.Completes i (.mintToModule name denom n) := by
  rw [hminting] at h
  have hmint := Operation.perform_mintToModule_of_found h denom n
  refine ⟨?_, ?_, ?_⟩ <;>
    simp [step, hminting, hmint, Operation.apply, Client.step, Client.pending]

end Mint

/-- **A shared ledger is linearizable.**  Its clients take their steps in any order.  A mint
whose look-up fails is made as a whole there.  Otherwise nobody notices the look-up, and
whatever the other clients do before the mint goes on, it is made as a whole where it
ends.  So the ledger and the answers are those of a ledger on which the operations that
have returned were made one after the other, in the order in which they returned, which
keeps the order of every client. -/
theorem linearizable (hs : s.Reachable) (programs : ι → List Operation) (schedule : List ι) :
    let z := (start s programs).run schedule
    (∀ i name denom n ops, z.clients i = .ready (.mintToModule name denom n :: ops) →
      (∀ e, (Ledger.moduleAddress name z.ledger).result = .error e →
        z.Completes i (.mintToModule name denom n)) ∧
      ∀ a, (Ledger.moduleAddress name z.ledger).result = .ok a →
        z.Silent i ∧
        ∀ gap : List ι, i ∉ gap →
          ((z.step i).run gap).Completes i (.mintToModule name denom n)) ∧
    z.ledger = Operation.run s z.operations ∧
    z.answers = Operation.answers s z.operations ∧
    (∀ i, z.operationsOf i ++ (z.clients i).pending = programs i) ∧
    ∀ later : List ι, z.returns <+: (z.run later).returns := by
  intro z
  have h : z.Linearized s programs := (Linearized.start hs.registered programs).run schedule
  refine ⟨fun i name denom n ops hready => ⟨fun e he => ?_, fun a ha => ?_⟩, h.ledger, h.answers,
    h.programs, z.returns_prefix_run⟩
  · rw [moduleAddress_apply] at he
    exact completes_mint_of_error hready he
  · rw [moduleAddress_apply] at ha
    refine ⟨silent_of_found hready ha, fun gap hgap => ?_⟩
    have hclient : ((z.step i).run gap).clients i = .minting name denom n a ops := by
      rw [clients_run_of_not_mem hgap, clients_step_of_found hready ha]
    exact completes_mint_of_sound hclient (((h.step i).run gap).sound i)

end SharedLedger

/-- One client mints, and the other registers the module once more and mints as well. -/
def Ledger.Example.minters : Bool → List Operation
  | false => [.mintToModule mintModule "unova" 5]
  | true => [.registerModule mintModule, .mintToModule mintModule "unova" 2]

open Ledger.Example in
/-- Both mint at once: all steps of the one fall between the two steps of the other, which
mints last. -/
theorem SharedLedger.linearizable_example :
    let s := Operation.run Example.ledger [.registerModule mintModule]
    let z := start s minters
    let y := (z.step false).run [true, true, true]
    s.Reachable ∧ z.Silent false ∧ y.Completes false (.mintToModule mintModule "unova" 5) ∧
    (y.step false).ledger = Operation.run s
      [.registerModule mintModule, .mintToModule mintModule "unova" 2,
        .mintToModule mintModule "unova" 5] ∧
    (y.step false).ledger.moduleBalance mintModule "unova" = 7 := by
  intro s z y
  have hs : s.Reachable := ⟨[.deposit alice "uatom" 5, .deposit alice "unova" 1000,
    .registerModule mintModule], rfl⟩
  have hfound : (Ledger.moduleAddress mintModule z.ledger).result =
    .ok (Address.ofModule mintModule) := by decide +kernel
  obtain ⟨hmint, -⟩ := linearizable hs minters []
  obtain ⟨hsilent, hgap⟩ := (hmint false mintModule "unova" 5 [] rfl).2 _ hfound
  obtain ⟨-, hledger, -⟩ := linearizable hs minters [false, true, true, true, false]
  have hsum : (y.step false).ledger.moduleBalance mintModule "unova" = 7 := by decide +kernel
  exact ⟨hs, hsilent, hgap [true, true, true] (by decide), hledger, hsum⟩

end CoinTransfer
