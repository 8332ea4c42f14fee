import CoinTransfer.Time.Rfc3339
import CoinTransfer.Json.Layout
import CoinTransfer.Json.Value

/-!
# CoinTransfer.Context

What a call knows of the block it runs in.  Routes pass it on to the host as they
got it; of the three parts the ledger records the height.
-/

namespace CoinTransfer

/-- The block of a call. -/
structure Context where
  chainId : String
  blockHeight : UInt64
  blockTime : Time.Instant
deriving DecidableEq, Repr

namespace Context

/-- The same chain and time at another height. -/
def withHeight (ctx : Context) (height : UInt64) : Context := { ctx with blockHeight := height }

def toJson (ctx : Context) : Json.Value :=
  .object [
    ("chain_id", .text ctx.chainId),
    ("block_height", .number ctx.blockHeight.toNat),
    ("block_time", .text ctx.blockTime.text)]

/-- Reads a point in time. -/
def readTime : Json.Reader Time.Instant := do
  match Time.Instant.parse? (← Json.text) with
  | some t => return t
  | none => throw (.rejected "not a point in time")

structure Draft where
  chainId : Option String
  blockHeight : Option UInt64
  blockTime : Option Time.Instant

def layout : Json.Layout Draft Context where
  label := "struct Context"
  fields := [
    Json.field "chain_id" Draft.chainId (fun d v => { d with chainId := some v }) Json.text,
    Json.field "block_height" Draft.blockHeight (fun d v => { d with blockHeight := some v })
      Json.word64,
    Json.field "block_time" Draft.blockTime (fun d v => { d with blockTime := some v }) readTime]
  mayBeShort := false
  blank := ⟨none, none, none⟩
  finish d := return ⟨← Json.required "chain_id" d.chainId,
    ← Json.required "block_height" d.blockHeight, ← Json.required "block_time" d.blockTime⟩

def read : Json.Reader Context := layout.read

end Context

end CoinTransfer
