import BoxOffice.Json.Decode
import BoxOffice.Sats

/-! Invoices, each issued for exactly one ticket. -/

namespace BoxOffice

structure Invoice where
  /-- The processor's name for it. -/
  id : String
  ticketId : TicketId
  paymentHash : String
  /-- The encoded payment request. -/
  encoded : String
  amount : Sats
  expiresAt : Time.Instant
  /-- The receiving address that it was issued under. -/
  issuingAddress : String
  description : String
deriving DecidableEq

namespace Invoice

/-- Whether the invoice can no longer be paid. -/
def isExpired (i : Invoice) (now : Time.Instant) : Bool := i.expiresAt ≤ now

def toJson (i : Invoice) : Json := .object [
  ("id", .string i.id),
  ("ticket_id", .string i.ticketId.toString),
  ("payment_hash", .string i.paymentHash),
  ("encoded", .string i.encoded),
  ("amount", .ofNat i.amount.count.toNat),
  ("expires_at", .string i.expiresAt.toString),
  ("issuing_address", .string i.issuingAddress),
  ("description", .string i.description)]

def ofJson (j : Json) : Json.Decoded Invoice := do
  let r ← Json.Record.ofJson ["id", "ticket_id", "payment_hash", "encoded", "amount", "expires_at",
    "issuing_address", "description"] j
  return {
    id := ← r.required "id" Json.asString
    ticketId := ⟨← r.required "ticket_id" Json.asUuid⟩
    paymentHash := ← r.required "payment_hash" Json.asString
    encoded := ← r.required "encoded" Json.asString
    amount := ⟨← r.required "amount" Json.asU64⟩
    expiresAt := ← r.required "expires_at" Json.asInstant
    issuingAddress := ← r.required "issuing_address" Json.asString
    description := ← r.required "description" Json.asString }

end Invoice

end BoxOffice
