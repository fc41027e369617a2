import BoxOffice.Launch
import BoxOffice.Processor.Wire
import BoxOffice.Rehearsal.World
import BoxOffice.Script.Fault

/-! The world of a script: the settings, how the stand-ins answer, and what is seen of it. -/

namespace BoxOffice.Script

open Rehearsal

/-! ### Stand-ins -/

def wallet (j : Json) : Reads Wallet := do
  let reason ← textOr j "reason" ""
  match ← textOr j "mode" "accept" with
  | "accept" => return .fresh .accept
  | "decline" => return .fresh (.decline reason)
  | "unreachable" => return .fresh (.unreachable reason)
  | _ => throw "mode"

def provider (j : Json) : Reads Provider := do
  let mode ← match ← textOr j "mode" "accept" with
    | "accept" => pure ProviderMode.accept
    | "unreachable" => pure .unreachable
    | "reject" => pure .reject
    | _ => throw "mode"
  return .fresh mode (← wantOption ProviderConfiguration.ofJson j "configuration")
    (← (given? j "discover_error").mapM providerError)
    (← (given? j "push_error").mapM providerError)

/-- An answer of the processor that is given beforehand: an error, or the value of a field. -/
def processorAnswer {α : Type} (decode : Json → Json.Decoded α) (j : Json) (name : String) :
    Reads (Except ProcessorError α) := do
  match given? j "error" with
  | some e => return .error (← processorError e)
  | none => return .ok (← want decode j name)

/-! ### Settings -/

/-- The time at which worlds begin unless another is given. -/
def usualNow : Time.Instant :=
  .ofSeconds (Time.Date.toDays ⟨2025, 1, 1⟩ * Time.secondsPerDay)

/-- The world that the settings describe, or why their receiver is refused. -/
def world (j : Json) : Reads (Except LaunchError World) := do
  let raw ← textOr j "receiver" "$tickets@tickets.example"
  let setup (receiver : Address) : Reads Setup := do
    return {
      baseUrl := ← textOr j "base_url" "https://tickets.example"
      receiver
      minSendableMsats := ← numberOr j "min_sendable_msats" 1000
      maxSendableMsats := ← numberOr j "max_sendable_msats" 10000000000
      versions := ← wantOr (Json.asList Json.asU32) j "versions" [1, 0]
      secret := Text.encodeUtf8 (← textOr j "secret" "integration-secret")
      invoiceExpirySecs := ← numberOr j "expiry_secs" 600
      sweepSecs := ← numberOr j "sweep_secs" 60 }
  let now ← wantOr Json.asInstant j "now" usualNow
  let wallet ← wallet ((given? j "wallet").getD .null)
  let provider ← provider ((given? j "uma").getD .null)
  let notifier := Notifier.fresh ((← textOr j "notifier" "ok") == "failing")
  match Address.parse raw with
  | .error e => return .error (.receiver raw e)
  | .ok receiver => return .ok (.fresh (← setup receiver) now wallet provider notifier)

/-! ### What is seen -/

/-- A request that left the box office. -/
def callJson : Request → Json
  | .createInvoice spec => .array [.string "create_invoice", .ofNat spec.amount.count.toNat,
      .string spec.description, .ofNat spec.expirySecs.toNat]
  | .fetchSettlement id => .array [.string "fetch_settlement", .string id]
  | .fetchInvoice id => .array [.string "fetch_invoice", .string id]
  | .payInvoice credential invoice =>
    .array [.string "wallet_pay", .string credential.connectionUri, .string invoice]
  | .discover domain => .array [.string "discover", .string domain]
  | .push endpoint request => .array [.string "push", .string endpoint, request.toJson]
  | .notify url notice => .array [.string "notice", .string url, notice.toJson]
  | _ => .null

/-- The counters, and their descriptions if these are asked for. -/
def metricsJson (w : World) (help : Bool) : Json :=
  let counters := w.counters.rows
  let families := (counters.map fun (c, _) => (c.family, c.help)).eraseDups
  .object <| (counters.map fun (c, n) => (c.name, .ofNat n)) ++
    if help then families.map fun (family, text) => ("help " ++ family, .string text) else []

/-- How often the stand-ins were asked. -/
def standInJson (w : World) : Json := .object [
  ("issued", .ofNat w.processor.issued),
  ("wallet_attempts", .ofNat w.wallet.attempts.length),
  ("discovered", .ofNat w.provider.discovered.length),
  ("pushed", .ofNat w.provider.pushed.length),
  ("notices", .ofNat w.notifier.notices.length)]

/-- The statuses of a ticket and its payment, as far as they exist. -/
def ticketLine (w : World) (ticket : String) : String :=
  let id : Option TicketId := (Uuid.ofString? ticket).map fun u => ⟨u⟩
  let ticketStatus := (id.bind w.store.tickets.find?).map (·.status.name)
  let paymentStatus := (id.bind w.store.paymentForTicket).map (·.status.name)
  ticket ++ " " ++ ticketStatus.getD "-" ++ " " ++ paymentStatus.getD "-"

end BoxOffice.Script
