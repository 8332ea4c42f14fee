import CoinTransfer.Proofs.Bech32.Prefix
import CoinTransfer.Proofs.Coins.Text
import CoinTransfer.Proofs.Json.Reads
import CoinTransfer.Proofs.Log.Lines
import CoinTransfer.Proofs.Route.Frame
import CoinTransfer.Proofs.Route.Log

/-!
# CoinTransfer.Proofs.Route.Lines

Nothing that is handed to a route can forge a line of the log.  Addresses and names of
modules are logged as texts from outside, which are quoted.  What is shown as it is are
texts of a known form: digits, the names of the sides, a denomination that the bank takes,
and the message about an address that cannot be read.  That message may quote a prefix of
the caller's text, but a prefix consists of visible characters.

So every record of a route is `Unbroken` (`Teller.unbroken_of_mem_log`), in any state of the
ledger.  In JSON a refusal can moreover be read back, with the text that was refused.
-/

namespace CoinTransfer

/-! ## Texts that are shown as they are -/

/-- The digits of an address hold no newline. -/
theorem Address.newline_not_mem_hex (a : Address) : '\n' ∉ a.hex.toList := by
  simp only [hex, Hex.encode, Hex.digits, String.toList_ofList, List.mem_flatMap, Hex.ofByte,
    List.mem_cons, List.not_mem_nil, or_false, not_exists, not_and, not_or]
  intro b _
  have hb := b.toNat_lt
  exact ⟨(Text.digitChar_ne_newline (b.toNat / 16) (by omega)).symm,
    (Text.digitChar_ne_newline (b.toNat % 16) (by omega)).symm⟩

/-- A prefix consists of visible characters. -/
theorem Bech32.Prefix.newline_not_mem_text (p : Bech32.Prefix) : '\n' ∉ p.text.toList := by
  obtain ⟨-, -, hvisible, -⟩ := problem?_eq_none_iff.1 p.sound
  rw [text, String.toList_ofList]
  exact fun h => absurd (hvisible _ h) (by decide)

/-- What a codec has against a text is said on one line, although it may quote the prefix of
the text. -/
theorem AddressCodec.newline_not_mem_message {codec : AddressCodec} {text : String}
    {cause : AddressError} (h : codec.decode text = .error cause) :
    '\n' ∉ cause.message.toList := by
  unfold decode at h
  split at h
  · obtain rfl : AddressError.empty = cause := Except.error.inj h
    decide
  · cases hd : Bech32.decode text with
    | error fault =>
      rw [hd] at h
      obtain rfl : AddressError.notBech32 fault = cause := Except.error.inj h
      show '\n' ∉ ("bech32 decode error: " ++ fault.message).toList
      cases fault <;> simp [Bech32.Error.message]
    | ok parts =>
      obtain ⟨hrp, data⟩ := parts
      simp only [hd] at h
      split at h
      · unfold Address.ofBytes at h
        split at h
        · cases h
        · obtain rfl := Except.error.inj h
          show '\n' ∉ ("invalid address length: expected 20 bytes, got " ++
            (Bech32.bytesOfSymbols data).length.repr).toList
          simp [Text.newline_not_mem_decimal]
      · obtain rfl := Except.error.inj h
        show '\n' ∉ ("invalid bech32 prefix: expected '" ++ codec.hrp.text ++ "', got '" ++
          hrp.text ++ "'").toList
        simp [Bech32.Prefix.newline_not_mem_text]

/-- A denomination that the bank takes holds no newline. -/
theorem Denom.Valid.newline_not_mem {name : String} (h : Denom.Valid name) :
    '\n' ∉ name.toList := fun hn =>
  absurd (h.isNameChar_of_mem hn) (by decide)

/-- A coin in such a denomination is shown without a newline. -/
theorem Coins.newline_not_mem_text_single {denom : String} (h : Denom.Valid denom) (n : Amount) :
    '\n' ∉ (single denom n).text.toList := by
  by_cases hn : n = 0
  · simp [hn, text]
  · have htext : (single denom n).text = (⟨denom, n⟩ : Coin).text := by
      simp [text, toList_single, hn]
    rw [htext]
    exact fun hc => absurd (Coin.isNameChar_of_mem_text (c := ⟨denom, n⟩) h hc) (by decide)

namespace Teller

variable {t : Teller} {ctx : Context} {amount : Amount} {route : Route} {role : Role}
  {text : String} {cause : AddressError} {a b : Address}

/-! ## The records of a route -/

open Log

/-- The record about a text that is no address is unbroken, whatever the text is. -/
theorem unbroken_rejection (h : t.codec.decode text = .error cause) (role : Role) :
    (rejection role text cause).Unbroken where
  target := by simp [rejection, routeTarget]
  message := by simp [rejection]
  fields := by
    have hrole : '\n' ∉ role.name.toList := by cases role <;> decide
    have hcause := AddressCodec.newline_not_mem_message h
    simp [rejection, hrole, hcause]

/-- An announcement is unbroken if its way and its ends are. -/
theorem unbroken_announcement {way : String} {ends : List (String × FieldValue)}
    (hway : '\n' ∉ way.toList) (hends : ∀ f ∈ ends, '\n' ∉ f.1.toList ∧ f.2.Unbroken) :
    (t.announcement ctx amount way ends).Unbroken where
  target := by simp [announcement, routeTarget]
  message := hway
  fields := by
    have hdenom := t.denom_valid.newline_not_mem
    exact List.forall_mem_cons.2 ⟨by simp, List.forall_mem_append.2 ⟨hends, by simp [hdenom]⟩⟩

/-- The record in front of a call is unbroken, whatever texts the call is given. -/
theorem unbroken_announced (t : Teller) (ctx : Context) (amount : Amount) (route : Route) :
    (t.announced ctx amount route).Unbroken := by
  cases route with
  | moduleToTreasury sender =>
    have hex := (Address.ofModule sender).newline_not_mem_hex
    exact unbroken_announcement (by simp) (by simp [hex])
  | _ => exact unbroken_announcement (by simp) (by simp)

/-- The record about a transfer is unbroken if its coins are. -/
theorem unbroken_transferRecord {coins : Coins} (h : '\n' ∉ coins.text.toList) :
    (Ledger.transferRecord ctx a b coins).Unbroken where
  target := by simp [Ledger.transferRecord, ledgerTarget]
  message := by simp [Ledger.transferRecord]
  fields := by
    simp [Ledger.transferRecord, a.newline_not_mem_hex, b.newline_not_mem_hex, h]

/-- What a route carries is logged in the teller's denomination. -/
theorem exists_log_eq_of_carries {eff : Effect} (h : eff.Carries t.denom a b) :
    ∃ ctx n, eff.log = [Ledger.transferRecord ctx a b (Coins.single t.denom n)] := by
  cases h with
  | move ctx n => exact ⟨ctx, n, rfl⟩
  | fund ctx n => exact ⟨ctx, n, rfl⟩

/-- Whatever a route is given, it logs what does not break a line. -/
theorem unbroken_of_mem_log (t : Teller) (ctx : Context) (amount : Amount) (route : Route)
    (s : Ledger) : ∀ r ∈ (t.transfer Ledger.host ctx amount route s).log, r.Unbroken := by
  rw [transfer_eq_outcome]
  cases hop : t.operation ctx amount route with
  | error e =>
    obtain ⟨role, text, cause, rfl, -, hcause⟩ := exists_of_operation_eq_error hop
    exact List.forall_mem_singleton.2 (unbroken_rejection hcause role)
  | ok op =>
    refine List.forall_mem_cons.2 ⟨t.unbroken_announced ctx amount route, ?_⟩
    cases heff : op.effect s with
    | error e => simp [Operation.perform_of_error heff]
    | ok eff =>
      have hresolve := (Operation.effect_eq_ok_iff.1 heff).1
      obtain ⟨a, b, -, -, hcarries⟩ := carries_of_operation hop hresolve
      obtain ⟨ctx', n, hlog⟩ := exists_log_eq_of_carries hcarries
      have hcoins := Coins.newline_not_mem_text_single t.denom_valid n
      rw [Operation.perform_of_effect heff, hlog]
      exact List.forall_mem_singleton.2 (unbroken_transferRecord hcoins)

end Teller

/-! ## Refusals in JSON -/

namespace Refusal

/-- The values of a refusal that is written in JSON. -/
structure Values where
  message : String
  role : String
  address : String
  error : String
deriving DecidableEq

structure Values.Draft where
  message : Option String
  role : Option String
  address : Option String
  error : Option String

/-- How the values are read; each one is a text. -/
def Values.layout : Json.Layout Values.Draft Values where
  label := "struct Values"
  fields := [
    Json.field "message" Draft.message (fun d v => { d with message := some v }) Json.text,
    Json.field "role" Draft.role (fun d v => { d with role := some v }) Json.text,
    Json.field "address" Draft.address (fun d v => { d with address := some v }) Json.text,
    Json.field "error" Draft.error (fun d v => { d with error := some v }) Json.text]
  mayBeShort := false
  blank := ⟨none, none, none, none⟩
  finish d :=
    return ⟨← Json.required "message" d.message, ← Json.required "role" d.role,
      ← Json.required "address" d.address, ← Json.required "error" d.error⟩

end Refusal

/-- A refusal that is written in JSON. -/
structure Refusal where
  level : String
  fields : Refusal.Values
  target : String
deriving DecidableEq

namespace Refusal

structure Draft where
  level : Option String
  fields : Option Values
  target : Option String

def layout : Json.Layout Draft Refusal where
  label := "struct Refusal"
  fields := [
    Json.field "level" Draft.level (fun d v => { d with level := some v }) Json.text,
    Json.field "fields" Draft.fields (fun d v => { d with fields := some v }) Values.layout.read,
    Json.field "target" Draft.target (fun d v => { d with target := some v }) Json.text]
  mayBeShort := false
  blank := ⟨none, none, none⟩
  finish d :=
    return ⟨← Json.required "level" d.level, ← Json.required "fields" d.fields,
      ← Json.required "target" d.target⟩

def read : Json.Reader Refusal := layout.read

/-- What is to be read from the line about a text. -/
def of (role : Role) (text : String) (cause : AddressError) : Refusal where
  level := "WARN"
  fields := ⟨"rejecting transfer with undecodable address", role.name, text, cause.message⟩
  target := Log.routeTarget

open Json in
/-- A refusal that is written in JSON is read back. -/
theorem reads (role : Role) (text : String) (cause : AddressError) :
    Reads read (Teller.rejection role text cause).toJson (of role text cause) := by
  have hvalues := Values.layout.reads (by decide)
    (.cons rfl ((reads_text "rejecting transfer with undecodable address").bind rfl) <|
      .cons rfl ((reads_text role.name).bind rfl) <| .cons rfl ((reads_text text).bind rfl) <|
      .cons rfl ((reads_text cause.message).bind rfl) <| .nil _) rfl
  exact layout.reads (by decide)
    (.cons rfl ((reads_text "WARN").bind rfl) <| .cons rfl (hvalues.bind rfl) <|
      .cons rfl ((reads_text Log.routeTarget).bind rfl) <| .nil _) rfl

/-- The end of a line is white space to a reader. -/
theorem parse_write (role : Role) (text : String) (cause : AddressError) :
    Json.parse read (Log.Format.json.write (Teller.rejection role text cause)) =
      .ok (of role text cause) := by
  refine Json.parse_eq_ok_iff.2 ⟨['\n'], ?_, by decide⟩
  have hend : Json.EndsNumber ['\n'] := Json.endsNumber_cons (by decide) []
  have hread := reads role text cause ['\n'] hend
  simpa [Log.Format.write, Json.Value.render] using hread

end Refusal

namespace Teller

/-- **No route forges a line of the log**, whatever texts it is given, in either format.  All
that is written for a call are whole lines, one for each record that the filter lets through.
If the call is refused for an address, that is the text of the caller, and in JSON it is read
back from the line as it was given. -/
theorem lines_of_transfer (sub : Log.Subscriber) (t : Teller) (ctx : Context) (amount : Amount)
    (route : Route) (s : Ledger) :
    let o := t.transfer Ledger.host ctx amount route s
    let written := sub.output o.log
    (∀ line ∈ written, Text.IsLine line) ∧
    (String.join written).toList.count '\n' = (sub.enabled o.log).length ∧
    ∀ role text cause, o.result = .error (.invalidAddress role text cause) →
      route.address? role = some text ∧
      (sub.format = .json → ∀ line ∈ written,
        Json.parse Refusal.read line = .ok (Refusal.of role text cause)) := by
  intro o written
  have hunbroken := t.unbroken_of_mem_log ctx amount route s
  refine ⟨fun line => Log.Subscriber.isLine_of_mem_output hunbroken,
    Log.Subscriber.count_newline_output hunbroken, fun role text cause hresult => ?_⟩
  obtain ⟨new, -, hreports⟩ := t.reports_transfer ctx amount route s
  rw [hresult] at hreports
  obtain ⟨htext, hlog⟩ := hreports.eq_of_refused
  rw [← rejection_eq_report] at hlog
  refine ⟨htext, fun hformat line hline => ?_⟩
  have hrefusal : line ∈ sub.output [rejection role text cause] := hlog ▸ hline
  obtain ⟨r, hr, rfl⟩ := List.mem_map.1 hrefusal
  obtain rfl := List.mem_singleton.1 (List.mem_filter.1 hr).1
  rw [hformat]
  exact Refusal.parse_write role text cause

open Ledger.Example in
/-- A text with a line of its own inside, under a filter that lets refusals through. -/
theorem lines_of_transfer_example :
    let sub : Log.Subscriber := ⟨⟨[⟨none, none, none, some .warn⟩], []⟩, .json⟩
    let text := "x\n\x7b\"level\":\"INFO\"\x7d\n"
    let o := teller.transfer Ledger.host ctx 1 (.addressToTreasury text) Ledger.initial
    o.result = .error (.invalidAddress .sender text (.notBech32 .malformed)) ∧
    (sub.output o.log).length = 1 ∧
    ∀ line ∈ sub.output o.log, Text.IsLine line ∧
      Json.parse Refusal.read line = .ok (Refusal.of .sender text (.notBech32 .malformed)) := by
  intro sub text o
  have hresult : o.result = .error (.invalidAddress .sender text (.notBech32 .malformed)) := by
    decide +kernel
  obtain ⟨hlines, -, hread⟩ := lines_of_transfer sub teller ctx 1 (.addressToTreasury text)
    Ledger.initial
  obtain ⟨-, hjson⟩ := hread _ _ _ hresult
  exact ⟨hresult, by decide +kernel, fun line hline => ⟨hlines line hline, hjson rfl line hline⟩⟩

end Teller

end CoinTransfer
