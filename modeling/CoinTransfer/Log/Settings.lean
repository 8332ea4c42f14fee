import CoinTransfer.Log.Filter
import CoinTransfer.Log.Format
import CoinTransfer.Json.Layout

/-!
# CoinTransfer.Log.Settings

The logging section of a configuration: the text of a filter and a format.  The
text is kept as it was given and read when the filter is needed.
-/

namespace CoinTransfer.Log

/-- Why logging cannot be set up. -/
inductive Error where
  /-- The text is no filter. -/
  | invalidFilter (text : String) (cause : Directive.Error)
  /-- The text names no format. -/
  | unknownFormat (text : String)
  /-- Records already go to a subscriber. -/
  | alreadyInstalled
deriving DecidableEq, Repr

def Error.message : Error → String
  | .invalidFilter text cause => s!"invalid log filter '{text}': {cause.message}"
  | .unknownFormat text => s!"unknown log format '{text}'"
  | .alreadyInstalled => "a global default trace dispatcher has already been set"

/-- The format a text names. -/
def Format.parse (text : String) : Except Error Format :=
  match ofName? text with
  | some f => .ok f
  | none => .error (.unknownFormat text)

/-- The logging section of a configuration. -/
structure Settings where
  /-- The text of a filter. -/
  level : String := "info"
  format : Format := .pretty
deriving DecidableEq, Repr

namespace Settings

/-- The filter of the settings. -/
def filter (patterns : Patterns) (s : Settings) : Except Error Filter :=
  (Filter.parse patterns s.level).mapError (.invalidFilter s.level)

def toJson (s : Settings) : Json.Value :=
  .object [("level", .text s.level), ("format", s.format.toJson)]

structure Draft where
  level : Option String
  format : Option Format

/-- How settings are read; what is left out has its default. -/
def layout : Json.Layout Draft Settings where
  label := "struct LoggingConfig"
  fields := [
    Json.field "level" Draft.level (fun d v => { d with level := some v }) Json.text,
    Json.field "format" Draft.format (fun d v => { d with format := some v }) Format.read]
  mayBeShort := true
  blank := ⟨none, none⟩
  finish d :=
    let default : Settings := {}
    return ⟨d.level.getD default.level, d.format.getD default.format⟩

def read : Json.Reader Settings := layout.read

end Settings

end CoinTransfer.Log
