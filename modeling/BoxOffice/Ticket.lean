import BoxOffice.Json.Decode
import BoxOffice.Status

/-! Tickets, and the codes that their holders present. -/

namespace BoxOffice

/-- A code such as TKT-7QX4M2PA. -/
structure TicketCode where
  text : String
deriving DecidableEq, Inhabited

namespace TicketCode

/-- Letters and digits that are not mistaken for one another. -/
def alphabet : List Char := "ABCDEFGHJKLMNPQRSTUVWXYZ23456789".toList

/-- The code of eight letters of the alphabet, each given by its place in it. -/
def ofLetters (letters : List (Fin 32)) : TicketCode :=
  ⟨"TKT-" ++ String.ofList (letters.map fun i => alphabet.getD i.val 'A')⟩

/-- Whether a code has the shape of a generated one. -/
def isWellFormed (c : TicketCode) : Bool :=
  c.text.toList.take 4 == "TKT-".toList && (c.text.toList.drop 4).length == 8 &&
    (c.text.toList.drop 4).all alphabet.contains

end TicketCode

structure Ticket where
  id : TicketId
  eventId : EventId
  userId : UserId
  code : TicketCode
  status : TicketStatus
  /-- The processor's name for the invoice, of a ticket that is paid for. -/
  invoiceId : Option String
  /-- The buyer's address. -/
  buyerAddress : Option String
  paidAt : Option Time.Instant
  createdAt : Time.Instant
deriving DecidableEq

namespace Ticket

def toJson (t : Ticket) : Json := .object [
  ("id", .string t.id.toString),
  ("event_id", .string t.eventId.toString),
  ("user_id", .string t.userId.toString),
  ("code", .string t.code.text),
  ("status", .string t.status.name),
  ("invoice_id", .ofOption .string t.invoiceId),
  ("buyer_address", .ofOption .string t.buyerAddress),
  ("paid_at", .ofOption (.string ·.toString) t.paidAt),
  ("created_at", .string t.createdAt.toString)]

def ofJson (j : Json) : Json.Decoded Ticket := do
  let r ← Json.Record.ofJson ["id", "event_id", "user_id", "code", "status", "invoice_id",
    "buyer_address", "paid_at", "created_at"] j
  return {
    id := ⟨← r.required "id" Json.asUuid⟩
    eventId := ⟨← r.required "event_id" Json.asUuid⟩
    userId := ⟨← r.required "user_id" Json.asUuid⟩
    code := ⟨← r.required "code" Json.asString⟩
    status := ← r.required "status" (Json.asName TicketStatus.ofName?)
    invoiceId := ← r.optional "invoice_id" Json.asString
    buyerAddress := ← r.optional "buyer_address" Json.asString
    paidAt := ← r.optional "paid_at" Json.asInstant
    createdAt := ← r.required "created_at" Json.asInstant }

end Ticket

end BoxOffice
