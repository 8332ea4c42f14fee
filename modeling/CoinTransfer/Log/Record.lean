import CoinTransfer.Log.Level

/-!
# CoinTransfer.Log.Record

What is logged: a level, the part of the library that logs, a message, and named
values.  A record says how a value is to be shown, so that text from outside can
be quoted where it is shown on a line.
-/

namespace CoinTransfer.Log

/-- The value of a field. -/
inductive FieldValue where
  /-- A text from outside, which lines show in quotes. -/
  | text (s : String)
  /-- A text of the library's own making, which lines show as it is. -/
  | shown (s : String)
  | number (n : UInt64)
deriving DecidableEq, Repr

/-- One log record. -/
structure Record where
  level : Level
  /-- The part of the library that logs. -/
  target : String
  message : String
  /-- The named values, in the order they are shown in. -/
  fields : List (String × FieldValue)
deriving DecidableEq, Repr

/-- The names that filters may ask for; the message counts as a field. -/
def Record.fieldNames (r : Record) : List String := "message" :: r.fields.map (·.1)

/-! ## Targets -/

def routeTarget : String := "nova_transfer::transfer"

def ledgerTarget : String := "nova_transfer::keeper::memory"

def loggingTarget : String := "nova_transfer::logging"

end CoinTransfer.Log
