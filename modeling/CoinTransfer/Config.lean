import CoinTransfer.Denom
import CoinTransfer.Bech32.Prefix
import CoinTransfer.Log.Settings

/-!
# CoinTransfer.Config

The configuration of transfers: the denomination they are made in, the prefix of
the addresses they take, and the logging section.  A document may leave any of
them out.  Reading a document also checks the configuration: the denomination
first, then the prefix, then the log filter.
-/

namespace CoinTransfer

/-- The configuration of transfers. -/
structure Config where
  denom : String := "unova"
  /-- The prefix of addresses. -/
  hrp : String := "nova"
  logging : Log.Settings := {}
deriving DecidableEq, Repr

/-- Why a configuration cannot be used. -/
inductive ConfigError where
  /-- The bank does not take the denomination. -/
  | invalidDenom (denom : String) (problem : Denom.Problem)
  /-- The text is no prefix. -/
  | invalidPrefix (text : String) (problem : Bech32.Prefix.Problem)
  /-- The log filter cannot be read. -/
  | invalidLogLevel (level : String) (cause : Log.Error)
  /-- The document cannot be read. -/
  | parse (cause : Json.Error)
deriving DecidableEq, Repr

def ConfigError.message : ConfigError → String
  | .invalidDenom denom problem => s!"invalid denomination '{denom}': {problem.message}"
  | .invalidPrefix text problem => s!"invalid bech32 prefix '{text}': {problem.message}"
  | .invalidLogLevel level cause => s!"invalid log level '{level}': {cause.message}"
  | .parse cause => s!"config parse error: {cause.message}"

namespace Config

/-! ## Checking -/

def checkDenom (denom : String) : Except ConfigError Unit :=
  match Denom.problem? denom with
  | none => .ok ()
  | some problem => .error (.invalidDenom denom problem)

/-- The prefix that a text spells. -/
def checkPrefix (text : String) : Except ConfigError Bech32.Prefix :=
  (Bech32.Prefix.parse text).mapError (.invalidPrefix text)

/-- The filter of logging settings. -/
def checkLogging (patterns : Log.Patterns) (settings : Log.Settings) :
    Except ConfigError Log.Filter :=
  (settings.filter patterns).mapError (.invalidLogLevel settings.level)

/-- Checks a configuration and reports the first problem with it. -/
def validate (patterns : Log.Patterns) (c : Config) : Except ConfigError Unit := do
  checkDenom c.denom
  let _ ← checkPrefix c.hrp
  let _ ← checkLogging patterns c.logging

/-! ## JSON -/

def toJson (c : Config) : Json.Value :=
  .object [("denom", .text c.denom), ("bech32_prefix", .text c.hrp), ("logging", c.logging.toJson)]

structure Draft where
  denom : Option String
  hrp : Option String
  logging : Option Log.Settings

/-- How a configuration is read; what is left out has its default. -/
def layout : Json.Layout Draft Config where
  label := "struct TransferConfig"
  fields := [
    Json.field "denom" Draft.denom (fun d v => { d with denom := some v }) Json.text,
    Json.field "bech32_prefix" Draft.hrp (fun d v => { d with hrp := some v }) Json.text,
    Json.field "logging" Draft.logging (fun d v => { d with logging := some v }) Log.Settings.read]
  mayBeShort := true
  blank := ⟨none, none, none⟩
  finish d :=
    let default : Config := {}
    return ⟨d.denom.getD default.denom, d.hrp.getD default.hrp, d.logging.getD default.logging⟩

def read : Json.Reader Config := layout.read

/-- The configuration of a document, checked. -/
def ofJson (patterns : Log.Patterns) (document : String) : Except ConfigError Config := do
  let c ← (Json.parse read document).mapError .parse
  c.validate patterns
  return c

end Config

end CoinTransfer
