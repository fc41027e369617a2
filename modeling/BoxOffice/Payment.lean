import BoxOffice.Json.Decode
import BoxOffice.Sats
import BoxOffice.Status

/-! The payment of a priced ticket. Its encoded invoice is the key that a settlement is looked up
by; a retry replaces it. -/

namespace BoxOffice

structure Payment where
  id : PaymentId
  ticketId : TicketId
  /-- The encoded payment request. -/
  invoice : String
  amount : Sats
  status : PaymentStatus
  paidAt : Option Time.Instant
  /-- Where the payer's side asked to be told of the settlement. -/
  counterpartyCallback : Option String
  createdAt : Time.Instant
deriving DecidableEq

namespace Payment

def toJson (p : Payment) : Json := .object [
  ("id", .string p.id.toString),
  ("ticket_id", .string p.ticketId.toString),
  ("invoice", .string p.invoice),
  ("amount", .ofNat p.amount.count.toNat),
  ("status", .string p.status.name),
  ("paid_at", .ofOption (.string ·.toString) p.paidAt),
  ("counterparty_callback", .ofOption .string p.counterpartyCallback),
  ("created_at", .string p.createdAt.toString)]

def ofJson (j : Json) : Json.Decoded Payment := do
  let r ← Json.Record.ofJson ["id", "ticket_id", "invoice", "amount", "status", "paid_at",
    "counterparty_callback", "created_at"] j
  return {
    id := ⟨← r.required "id" Json.asUuid⟩
    ticketId := ⟨← r.required "ticket_id" Json.asUuid⟩
    invoice := ← r.required "invoice" Json.asString
    amount := ⟨← r.required "amount" Json.asU64⟩
    status := ← r.required "status" (Json.asName PaymentStatus.ofName?)
    paidAt := ← r.optional "paid_at" Json.asInstant
    counterpartyCallback := ← r.optional "counterparty_callback" Json.asString
    createdAt := ← r.required "created_at" Json.asInstant }

end Payment

end BoxOffice
