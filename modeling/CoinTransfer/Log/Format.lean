import CoinTransfer.Log.Record
import CoinTransfer.Json.Value
import CoinTransfer.Json.Typed
import CoinTransfer.Text.Quoted

/-!
# CoinTransfer.Log.Format

The two ways a log record is written: as a line to be read by people, or as a
JSON object.  Either way a record takes one line.
-/

namespace CoinTransfer.Log

/-- How records are written. -/
inductive Format where
  /-- Lines to be read by people. -/
  | pretty
  /-- One JSON object a line. -/
  | json
deriving DecidableEq, Repr

namespace Format

def name : Format → String
  | .pretty => "pretty"
  | .json => "json"

/-- The format of a name in any case. -/
def ofName? (text : String) : Option Format :=
  [pretty, json].find? fun f => f.name.toList == text.toList.map Char.toLower

/-- The format of an exact name. -/
def ofExactName (text : String) : Format := if text = json.name then .json else .pretty

def toJson (f : Format) : Json.Value := .text f.name

/-- Reads a format: its name, or an object with the name and `null`. -/
def read : Json.Reader Format :=
  Json.variant [pretty.name, json.name] (fun text => return ofExactName text) fun text => do
    Json.null
    return ofExactName text

end Format

/-! ## Lines to be read by people -/

/-- A value as a line shows it. -/
def FieldValue.shownText : FieldValue → String
  | .text s => Text.quote s
  | .shown s => s
  | .number n => toString n

/-- The level, the target and the message, followed by the named values.  The time that stands
in front of them, and the blanks that fill a shorter level up, are left out. -/
def Record.line (r : Record) : String :=
  let fields := r.fields.map fun f => " " ++ f.1 ++ "=" ++ f.2.shownText
  r.level.mark ++ " " ++ r.target ++ ": " ++ r.message ++ String.join fields

/-! ## JSON -/

def FieldValue.toJson : FieldValue → Json.Value
  | .text s => .text s
  | .shown s => .text s
  | .number n => .number n.toNat

/-- A record as JSON; the message is one of the fields.  The time, which comes first, is left
out. -/
def Record.toJson (r : Record) : Json.Value :=
  .object [
    ("level", .text r.level.mark),
    ("fields", .object (("message", .text r.message) :: r.fields.map fun f => (f.1, f.2.toJson))),
    ("target", .text r.target)]

/-- What is written for a record, with the end of the line. -/
def Format.write (f : Format) (r : Record) : String :=
  match f with
  | .pretty => r.line ++ "\n"
  | .json => r.toJson.render ++ "\n"

end CoinTransfer.Log
