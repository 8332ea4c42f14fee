import CoinTransfer.Config
import CoinTransfer.Ledger.Event
import CoinTransfer.Proofs.Coins.Merge
import CoinTransfer.Proofs.Except
import CoinTransfer.Proofs.Json.Reads

/-!
# CoinTransfer.Proofs.Json.Documents

Events and configurations are read back as they were written.  The texts in them are
arbitrary.  A set of coins is read as a list and made a set once more, which gives the
same set, and an address is read from its digits.  A configuration is checked after it has
been read, so what was written is read back unless the configuration itself is at fault.

A list of coins need not be one that a set writes: `Coins.parse_read_of_parse_list` says
that whatever document holds it is read as the set that `Coins.ofList` makes of it, or
refused with what `Coins.ofList` finds wrong.
-/

namespace CoinTransfer

open Json

/-! ## Coins and addresses -/

/-- An address is read back from its digits. -/
theorem Address.reads (a : Address) : Reads Address.read a.toJson a := by
  refine (reads_text a.hex).bind ?_
  rw [ofHex_hex]

/-- A coin is read back, whatever its denomination is. -/
theorem Coin.reads (c : Coin) : Reads Coin.read c.toJson c :=
  Coin.layout.reads (by decide)
    (.cons rfl ((reads_text c.denom).bind rfl) <|
      .cons rfl ((reads_word64 c.amount).bind rfl) <| .nil _) rfl

/-- A list of coins is read as it is, whether or not it can be made a set. -/
theorem Coin.reads_list (coins : List Coin) :
    Reads (Json.list Coin.read) (.list (coins.map Coin.toJson)) coins :=
  Json.reads_list fun c _ => c.reads

/-- A set of coins is read back: its list makes the same set once more. -/
theorem Coins.reads (coins : Coins) : Reads Coins.read coins.toJson coins := by
  refine (Coin.reads_list coins.toList).bind ?_
  rw [ofList_toList]

/-- An event is read back, whatever kind it is of. -/
theorem Event.reads (e : Event) : Reads Event.read e.toJson e := by
  cases e with
  | transfer height sender recipient amount =>
    refine reads_variant_content (by decide) ?_
    exact transferLayout.reads (by decide)
      (.cons rfl ((reads_word64 height).bind rfl) <|
        .cons rfl (sender.reads.bind rfl) <| .cons rfl (recipient.reads.bind rfl) <|
        .cons rfl (amount.reads.bind rfl) <| .nil _) rfl
  | communityPoolFunded height depositor amount =>
    refine reads_variant_content (by decide) ?_
    exact communityPoolFundedLayout.reads (by decide)
      (.cons rfl ((reads_word64 height).bind rfl) <|
        .cons rfl (depositor.reads.bind rfl) <| .cons rfl (amount.reads.bind rfl) <| .nil _) rfl
  | minted recipient amount =>
    refine reads_variant_content (by decide) ?_
    exact mintedLayout.reads (by decide)
      (.cons rfl (recipient.reads.bind rfl) <| .cons rfl (amount.reads.bind rfl) <| .nil _) rfl

/-! ## Configurations -/

/-- A format is read back from its name. -/
theorem Log.Format.reads (f : Log.Format) : Reads Log.Format.read f.toJson f := by
  cases f with
  | pretty => exact reads_variant_bare (by decide) rfl
  | json => exact reads_variant_bare (by decide) rfl

/-- Logging settings are read back, whatever the text of the filter is. -/
theorem Log.Settings.reads (s : Log.Settings) : Reads Log.Settings.read s.toJson s :=
  Log.Settings.layout.reads (by decide)
    (.cons rfl ((reads_text s.level).bind rfl) <|
      .cons rfl (s.format.reads.bind rfl) <| .nil _) rfl

namespace Config

/-- A configuration is read back before it is checked. -/
theorem reads (c : Config) : Reads Config.read c.toJson c :=
  Config.layout.reads (by decide)
    (.cons rfl ((reads_text c.denom).bind rfl) <| .cons rfl ((reads_text c.hrp).bind rfl) <|
      .cons rfl (c.logging.reads.bind rfl) <| .nil _) rfl

/-- A check finds fault with the configuration, never with a document. -/
theorem validate_ne_parse (patterns : Log.Patterns) (c : Config) (cause : Json.Error) :
    c.validate patterns ≠ .error (.parse cause) := by
  have hdenom : checkDenom c.denom ≠ .error (.parse cause) := by
    rw [checkDenom]
    cases Denom.problem? c.denom <;> exact nofun
  have hprefix : checkPrefix c.hrp ≠ .error (.parse cause) := by
    rw [checkPrefix]
    cases Bech32.Prefix.parse c.hrp <;> exact nofun
  have hlogging : checkLogging patterns c.logging ≠ .error (.parse cause) := by
    rw [checkLogging]
    cases c.logging.filter patterns <;> exact nofun
  exact Except.bind_ne_error hdenom fun _ => Except.bind_ne_error hprefix fun _ =>
    Except.bind_ne_error hlogging fun _ => nofun

/-- A configuration that was written is checked as it stands. -/
theorem ofJson_render (patterns : Log.Patterns) (c : Config) :
    ofJson patterns c.toJson.render = (c.validate patterns).map fun _ => c := by
  rw [ofJson, c.reads.parse]
  rfl

end Config

/-- **Documents are read back**: an event is the one that was written, and so is a
configuration that passes its checks.  One that does not is refused for what is wrong with
it, and never as a document. -/
theorem Json.documents_read_back :
    (∀ e : Event, Json.parse Event.read e.toJson.render = .ok e) ∧
    ∀ (patterns : Log.Patterns) (c : Config),
      Config.ofJson patterns c.toJson.render = ((c.validate patterns).map fun _ => c) ∧
      ∀ cause, Config.ofJson patterns c.toJson.render ≠ .error (.parse cause) := by
  refine ⟨fun e => e.reads.parse,
    fun patterns c => ⟨c.ofJson_render patterns, fun cause h => ?_⟩⟩
  rw [c.ofJson_render] at h
  cases hcheck : c.validate patterns with
  | ok u =>
    rw [hcheck] at h
    cases h
  | error e =>
    rw [hcheck] at h
    cases h
    exact c.validate_ne_parse patterns cause hcheck

end CoinTransfer
