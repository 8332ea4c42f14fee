import CoinTransfer.Ledger.Transfer

/-!
# CoinTransfer.Ledger.Operation

The operations that change a ledger, as data, so that a run of a ledger is a list
of them.  A run goes on after an operation that fails.
-/

namespace CoinTransfer

/-- An operation on a ledger. -/
inductive Operation where
  | registerModule (name : String)
  | blockAddress (a : Address)
  | deposit (a : Address) (denom : String) (n : Amount)
  | mintToModule (name denom : String) (n : Amount)
  | send (ctx : Context) (sender recipient : Address) (amount : Coins)
  | sendFromModuleToAccount (ctx : Context) (sender : String) (recipient : Address)
      (amount : Coins)
  | sendFromModuleToModule (ctx : Context) (sender recipient : String) (amount : Coins)
  | sendFromAccountToModule (ctx : Context) (sender : Address) (recipient : String)
      (amount : Coins)
  | fundCommunityPool (ctx : Context) (amount : Coins) (depositor : Address)
deriving DecidableEq

/-- The answer of an operation. -/
inductive Reply where
  | done
  | address (a : Address)
  | balance (n : Amount)
deriving DecidableEq

namespace Operation

def perform : Operation → Ledger.Call Reply
  | .registerModule name => .address <$> Ledger.registerModule name
  | .blockAddress a => (fun _ => .done) <$> Ledger.blockAddress a
  | .deposit a denom n => .balance <$> Ledger.deposit a denom n
  | .mintToModule name denom n => .balance <$> Ledger.mintToModule name denom n
  | .send ctx sender recipient amount =>
      (fun _ => .done) <$> Ledger.send ctx sender recipient amount
  | .sendFromModuleToAccount ctx sender recipient amount =>
      (fun _ => .done) <$> Ledger.sendFromModuleToAccount ctx sender recipient amount
  | .sendFromModuleToModule ctx sender recipient amount =>
      (fun _ => .done) <$> Ledger.sendFromModuleToModule ctx sender recipient amount
  | .sendFromAccountToModule ctx sender recipient amount =>
      (fun _ => .done) <$> Ledger.sendFromAccountToModule ctx sender recipient amount
  | .fundCommunityPool ctx amount depositor =>
      (fun _ => .done) <$> Ledger.fundCommunityPool ctx amount depositor

/-- The state after an operation, whether it succeeded or not. -/
def apply (s : Ledger) (op : Operation) : Ledger := (op.perform s).state

/-- The state after a list of operations. -/
def run (s : Ledger) (ops : List Operation) : Ledger := ops.foldl apply s

/-- The answers of a list of operations, each made on the state that the one before left. -/
def answers : Ledger → List Operation → List (Except KeeperError Reply)
  | _, [] => []
  | s, op :: ops => (op.perform s).result :: answers (op.apply s) ops

@[simp] theorem run_nil (s : Ledger) : run s [] = s := rfl

@[simp] theorem run_cons (s : Ledger) (op : Operation) (ops : List Operation) :
    run s (op :: ops) = run (op.apply s) ops := rfl

theorem run_append (s : Ledger) (front back : List Operation) :
    run s (front ++ back) = run (run s front) back := by
  simp [run]

theorem answers_append (s : Ledger) (front back : List Operation) :
    answers s (front ++ back) = answers s front ++ answers (run s front) back := by
  induction front generalizing s with
  | nil => rfl
  | cons op front ih => exact congrArg _ (ih (op.apply s))

end Operation

/-- A state that some run of operations leads to from the start. -/
def Ledger.Reachable (s : Ledger) : Prop := ∃ ops, s = Operation.run Ledger.initial ops

end CoinTransfer
