import CoinTransfer.Ledger.Operation

/-!
# CoinTransfer.Ledger.Shared

A ledger that several clients use at once.  An operation holds the lock of the ledger
from its beginning to its end, and so it is one step.  The exception is a mint into the
account of a module: it looks the account up under one lock and deposits under another,
and other clients may take any number of steps in between.  Which client takes the next
step is up to the schedule.
-/

namespace CoinTransfer

/-- What an operation has answered. -/
structure Returned where
  op : Operation
  answer : Except KeeperError Reply

/-- Where a client stands. -/
inductive Client where
  /-- It is between two operations. -/
  | ready (ops : List Operation)
  /-- It has found the account to mint into, and lets go of the ledger. -/
  | minting (name denom : String) (n : Amount) (found : Address) (ops : List Operation)

namespace Client

/-- The operations of a client that have not returned, the one that it is at included. -/
def pending : Client → List Operation
  | .ready ops => ops
  | .minting name denom n _ ops => .mintToModule name denom n :: ops

/-- What a step of a client leads to. -/
structure Progress where
  client : Client
  ledger : Ledger
  /-- The operation that the step has completed, if there is one. -/
  returned : Option Returned

/-- What a client does while it holds the lock once. -/
def step (s : Ledger) : Client → Progress
  | .ready [] => ⟨.ready [], s, none⟩
  | .ready (.mintToModule name denom n :: ops) =>
      let o := Ledger.moduleAddress name s
      match o.result with
      | .ok a => ⟨.minting name denom n a ops, o.state, none⟩
      | .error e => ⟨.ready ops, o.state, some ⟨.mintToModule name denom n, .error e⟩⟩
  | .ready (op :: ops) =>
      let o := op.perform s
      ⟨.ready ops, o.state, some ⟨op, o.result⟩⟩
  | .minting name denom n found ops =>
      let o := (Operation.deposit found denom n).perform s
      ⟨.ready ops, o.state, some ⟨.mintToModule name denom n, o.result⟩⟩

end Client

/-- A ledger with its clients. -/
structure SharedLedger (ι : Type) where
  ledger : Ledger
  clients : ι → Client
  /-- What has returned so far, in this order, and to whom. -/
  returns : List (ι × Returned)

namespace SharedLedger

variable {ι : Type}

/-- A ledger whose clients are going to make the operations of their programs. -/
def start (s : Ledger) (programs : ι → List Operation) : SharedLedger ι where
  ledger := s
  clients i := .ready (programs i)
  returns := []

/-- The operations that have returned, in this order. -/
def operations (z : SharedLedger ι) : List Operation := z.returns.map fun r => r.2.op

/-- The answers of these operations. -/
def answers (z : SharedLedger ι) : List (Except KeeperError Reply) :=
  z.returns.map fun r => r.2.answer

variable [DecidableEq ι]

/-- The operations that have returned to one client. -/
def operationsOf (z : SharedLedger ι) (i : ι) : List Operation :=
  (z.returns.filter fun r => r.1 = i).map fun r => r.2.op

/-- One client takes a step. -/
def step (z : SharedLedger ι) (i : ι) : SharedLedger ι :=
  let p := (z.clients i).step z.ledger
  { ledger := p.ledger
    clients := fun j => if j = i then p.client else z.clients j
    returns := z.returns ++ p.returned.toList.map fun r => (i, r) }

/-- The clients take steps in the order of a schedule. -/
def run (z : SharedLedger ι) (schedule : List ι) : SharedLedger ι := schedule.foldl step z

@[simp] theorem run_nil (z : SharedLedger ι) : z.run [] = z := rfl

@[simp] theorem run_cons (z : SharedLedger ι) (i : ι) (schedule : List ι) :
    z.run (i :: schedule) = (z.step i).run schedule := rfl

end SharedLedger

end CoinTransfer
