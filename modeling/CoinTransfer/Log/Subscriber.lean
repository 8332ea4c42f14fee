import CoinTransfer.Action
import CoinTransfer.Log.Settings

/-!
# CoinTransfer.Log.Subscriber

Where log records go.  A subscriber writes the records that its filter lets
through, in its format.  A process has one place for a subscriber, which is empty
at first and can be filled once; what is written before that is lost.
-/

namespace CoinTransfer.Log

/-- A filter and a format. -/
structure Subscriber where
  filter : Filter
  format : Format
deriving DecidableEq

namespace Subscriber

/-- The subscriber of logging settings. -/
def ofSettings (patterns : Patterns) (s : Settings) : Except Error Subscriber :=
  return ⟨← s.filter patterns, s.format⟩

/-- The records that are written. -/
def enabled (sub : Subscriber) (records : List Record) : List Record :=
  records.filter sub.filter.enables

/-- What is written for a list of records, record by record. -/
def output (sub : Subscriber) (records : List Record) : List String :=
  (sub.enabled records).map sub.format.write

end Subscriber

/-! ## Installing a subscriber -/

/-- The place for the subscriber of a process. -/
abbrev Slot := Option Subscriber

/-- The settings in force: a filter from the environment takes the place of the
configured one, if it is there and can be read. -/
def Settings.effective (patterns : Patterns) (s : Settings) (environment : Option String) :
    Settings :=
  match environment with
  | some level => if (Filter.parse patterns level).isOk then { s with level } else s
  | none => s

/-- The record about logging having been set up. -/
def setUpRecord (s : Settings) : Record where
  level := .debug
  target := loggingTarget
  message := "logging initialized"
  fields := [("level", .shown s.level), ("format", .shown s.format.name)]

/-- Sets logging up.  A filter that cannot be read is reported even if the place
is taken. -/
def install (patterns : Patterns) (environment : Option String) (settings : Settings) :
    Action Slot Error Unit := do
  let s := settings.effective patterns environment
  let sub ← Action.ofExcept (Subscriber.ofSettings patterns s)
  match ← Action.get with
  | some _ => Action.fail .alreadyInstalled
  | none =>
    Action.modify fun _ => some sub
    Action.emit (setUpRecord s)

end CoinTransfer.Log
