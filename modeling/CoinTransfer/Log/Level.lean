/-!
# CoinTransfer.Log.Level

Levels of log records, and thresholds that say which levels are let through.
-/

namespace CoinTransfer.Log

/-- How serious a record is, from the most serious level on. -/
inductive Level where
  | error
  | warn
  | info
  | debug
  | trace
deriving DecidableEq, Repr

namespace Level

def all : List Level := [.error, .warn, .info, .debug, .trace]

/-- The place of a level among all, from one on. -/
def rank : Level → Nat
  | .error => 1
  | .warn => 2
  | .info => 3
  | .debug => 4
  | .trace => 5

def name : Level → String
  | .error => "error"
  | .warn => "warn"
  | .info => "info"
  | .debug => "debug"
  | .trace => "trace"

/-- The name of a level as log lines show it. -/
def mark : Level → String
  | .error => "ERROR"
  | .warn => "WARN"
  | .info => "INFO"
  | .debug => "DEBUG"
  | .trace => "TRACE"

end Level

/-! ## Thresholds -/

/-- The last level that is let through; `none` lets nothing through. -/
abbrev Threshold := Option Level

namespace Threshold

/-- Whether a threshold lets a level through. -/
def admits (t : Threshold) (level : Level) : Bool :=
  match t with
  | none => false
  | some last => level.rank ≤ last.rank

def name : Threshold → String
  | none => "off"
  | some last => last.name

/-- All thresholds, in the order of their numbers. -/
def all : List Threshold := none :: Level.all.map some

/-- The threshold of a number from zero to five, which may have a sign and
leading zeros. -/
def ofNumber? (text : List Char) : Option Threshold :=
  let ds := if text.head? = some '+' then text.tail else text
  if ds.isEmpty ∨ ds.any (! ·.isDigit) then none else all[Nat.ofDigitChars 10 ds 0]?

/-- The threshold of a name in any case. -/
def ofName? (text : List Char) : Option Threshold :=
  all.find? fun t => t.name.toList == text.map Char.toLower

/-- The threshold that a text states by number or by name. -/
def parse? (text : List Char) : Option Threshold := ofNumber? text <|> ofName? text

end Threshold

end CoinTransfer.Log
