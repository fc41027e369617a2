import BoxOffice.Json.Decode
import BoxOffice.Processor.Basic

/-! Written forms of what the processor sends and is sent. -/

namespace BoxOffice

open Json

/-- The body of a request for an invoice. -/
def InvoiceSpec.toJson (s : InvoiceSpec) : Json := .object [
  ("amount_msats", .ofNat s.amount.millisats.toNat),
  ("memo", .string s.description),
  ("expiry_secs", .ofNat s.expirySecs.toNat)]

namespace ProcessorInvoice

def toJson (i : ProcessorInvoice) : Json := .object [
  ("id", .string i.id),
  ("payment_hash", .string i.paymentHash),
  ("encoded_payment_request", .string i.encoded),
  ("amount_msats", .ofNat i.amountMsats.toNat),
  ("expires_at", .ofOption (.string ·.toString) i.expiresAt)]

def ofJson (j : Json) : Decoded ProcessorInvoice := do
  let r ← Record.ofJson
    ["id", "payment_hash", "encoded_payment_request", "amount_msats", "expires_at"] j
  return {
    id := ← r.required "id" asString
    paymentHash := ← r.defaulted "payment_hash" "" asString
    encoded := ← r.required "encoded_payment_request" asString
    amountMsats := ← r.defaulted "amount_msats" 0 asU64
    expiresAt := ← r.defaulted "expires_at" none (nullable asInstant) }

end ProcessorInvoice

namespace EmbeddedRequest

/-- The record around an encoded payment request. -/
def dataToJson (encoded : String) : Json := .object [("encoded_payment_request", .string encoded)]

def dataOfJson (j : Json) : Decoded String := do
  let r ← Record.ofJson ["encoded_payment_request"] j
  r.required "encoded_payment_request" asString

def toJson : EmbeddedRequest → Json
  | .value e => dataToJson e
  | .reference e => .object [("data", .ofOption dataToJson e)]
  | .encoded t => .string t

/-- The wrapper, which is always an object. -/
def referenceOfJson : Json → Decoded (Option String)
  | .object members => do
    let r ← Record.ofObject ["data"] members
    r.optional "data" dataOfJson
  | j => refuse j

/-- The first of the three forms that fits. -/
def ofKeptJson : Json → Decoded EmbeddedRequest :=
  firstOf [fun j => value <$> dataOfJson j, fun j => reference <$> referenceOfJson j,
    fun j => encoded <$> asString j]

def ofJson (j : Json) : Decoded EmbeddedRequest := kept j >>= ofKeptJson

end EmbeddedRequest

namespace SettlementEntity

def toJson : SettlementEntity → Json
  | .incoming id invoiceId => .object [
      ("type", .string "incoming_payment"),
      ("id", .string id),
      ("invoice_id", .string invoiceId)]
  | .outgoing id request => .object [
      ("type", .string "outgoing_payment"),
      ("id", .string id),
      ("payment_request_data", .ofOption EmbeddedRequest.toJson request)]

/-- Take off the tag, the member "type" or the first element. -/
def untag : Json → Decoded (String × Json)
  | .object members => do
    let r ← Record.ofObject ["type"] members
    let tag ← r.required "type" asString
    return (tag, .object (members.filter (·.1 != "type")))
  | .array (tag :: items) => return (← asString tag, .array items)
  | .array [] => .error .missing
  | j => refuse j

def incomingOfJson (j : Json) : Decoded SettlementEntity := do
  let r ← Record.ofJson ["id", "invoice_id"] j
  return .incoming (← r.required "id" asString) (← r.required "invoice_id" asString)

def outgoingOfJson (j : Json) : Decoded SettlementEntity := do
  let r ← Record.ofJson ["id", "payment_request_data"] j
  return .outgoing (← r.required "id" asString)
    (← r.defaulted "payment_request_data" none (nullable EmbeddedRequest.ofKeptJson))

def ofJson (j : Json) : Decoded SettlementEntity := do
  match ← untag (← kept j) with
  | ("incoming_payment", rest) => incomingOfJson rest
  | ("outgoing_payment", rest) => outgoingOfJson rest
  | _ => .error .mismatch

end SettlementEntity

end BoxOffice
