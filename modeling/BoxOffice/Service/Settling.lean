import BoxOffice.Json.Reader
import BoxOffice.Service.Routing
import BoxOffice.Signature

/-! Settling payments: the processor sends a signed event when it believes that a payment
finished. The event is checked, the invoice it is about is found, and the payment issued for that
invoice is settled. Events come at least once, so all steps behind the check may be repeated. -/

namespace BoxOffice

/-- An event sent by the processor. -/
structure WebhookEvent where
  eventType : String
  /-- The entity that it is about. -/
  entityId : String
  eventId : Option String
deriving DecidableEq

namespace WebhookEvent

/-- The type of the events that settle payments. -/
def paymentFinished : String := "PAYMENT_FINISHED"

def ofJson (j : Json) : Json.Decoded WebhookEvent := do
  let r ← Json.Record.ofJson ["event_type", "entity_id", "event_id"] j
  return {
    eventType := ← r.required "event_type" Json.asString
    entityId := ← r.required "entity_id" Json.asString
    eventId := ← r.defaulted "event_id" none (Json.nullable Json.asString) }

def toJson (e : WebhookEvent) : Json := .object [
  ("event_type", .string e.eventType),
  ("entity_id", .string e.entityId),
  ("event_id", .ofOption .string e.eventId)]

/-- The event that a body holds, if it holds one. -/
def ofBody? (body : Bytes) : Option WebhookEvent :=
  (Json.parse body).bind fun j => (ofJson j).toOption

end WebhookEvent

inductive ReconcileError where
  | invalidSignature
  /-- The body is no event. -/
  | malformedPayload (detail : String)
  | processor (error : ProcessorError)
  /-- The entity carries no encoded payment request. -/
  | missingPaymentRequest (entity : String)
  | store (error : StoreError)
deriving DecidableEq

def ReconcileError.message : ReconcileError → String
  | .invalidSignature => "invalid webhook signature"
  | .malformedPayload detail => "malformed webhook payload: " ++ detail
  | .processor e => e.message
  | .missingPaymentRequest entity => "settlement entity " ++ entity ++ " has no payment request"
  | .store e => e.message

/-- What a notification did. -/
inductive ReconcileOutcome where
  | settled (ticket : TicketId)
  /-- It was settled before; nothing changed. -/
  | alreadySettled (ticket : TicketId)
  /-- The payment failed or expired and cannot be settled. -/
  | rejected (ticket : TicketId) (status : PaymentStatus)
  /-- No payment has this invoice. -/
  | unmatched (invoice : String)
  | ignored (eventType : String)
deriving DecidableEq

def ReconcileOutcome.result : ReconcileOutcome → WebhookResult
  | .settled _ => .settled
  | .alreadySettled _ => .duplicate
  | .rejected _ _ => .rejectedState
  | .unmatched _ => .unmatched
  | .ignored _ => .ignored

/-- How a notification is counted. -/
def WebhookResult.of : Except ReconcileError ReconcileOutcome → WebhookResult
  | .ok outcome => outcome.result
  | .error .invalidSignature => .rejected
  | .error _ => .error

namespace Service

/-- The encoded invoice that a finished payment is about. -/
def settledInvoice : SettlementEntity → ExceptT ReconcileError Program String
  | .incoming id invoiceId => do
    let invoice ← Program.within .processor (ExceptT.mk (Program.request (.fetchInvoice invoiceId)))
    if invoice.encoded.isEmpty then throw (.missingPaymentRequest id)
    return invoice.encoded
  | .outgoing id request =>
    Program.orThrow (.missingPaymentRequest id) (request.bind (·.encoded?))

/-- Tell the payer's side of a settlement, if it asked for that. A failure changes nothing. -/
def notifyCounterparty (setup : Setup) (payment : Payment) (paidAt : Option Time.Instant) :
    Program Unit :=
  match payment.counterpartyCallback with
  | none => .pure ()
  | some url => do
    let settledAt ← match paidAt with
      | some t => pure t
      | none => Program.now
    let _ ← Program.request (.notify url
      ⟨setup.receiver.domain, payment.invoice, payment.amount.millisats, settledAt⟩)

/-- Settle the payment that was found for an invoice. -/
def settle (setup : Setup) (payment : Payment) :
    ExceptT ReconcileError Program ReconcileOutcome := do
  let now ← Program.now
  let outcome ← Program.within .store (apply setup payment.ticketId (.settlementMatched now))
  if outcome.persisted then
    notifyCounterparty setup payment outcome.state.paidAt
    return .settled payment.ticketId
  match outcome.state.paymentStatus with
  | .paid => return .alreadySettled payment.ticketId
  | status => return .rejected payment.ticketId status

/-- Handle the event behind a good signature. -/
def reconcileEvent (setup : Setup) (event : WebhookEvent) :
    ExceptT ReconcileError Program ReconcileOutcome := do
  if event.eventType ≠ WebhookEvent.paymentFinished then return .ignored event.eventType
  let entity ← Program.within .processor
    (ExceptT.mk (Program.request (.fetchSettlement event.entityId)))
  let invoice ← settledInvoice entity
  match ← Program.within .store (Program.store (.paymentByInvoice invoice)) with
  | none => return .unmatched invoice
  | some payment => settle setup payment

/-- A notification, not yet counted. -/
def reconcile (setup : Setup) (body : Bytes) (signature : Option String) :
    ExceptT ReconcileError Program ReconcileOutcome := do
  let signature ← Program.orThrow .invalidSignature signature
  if !Signature.verify setup.secret body signature then throw .invalidSignature
  let event ← Program.orThrow (.malformedPayload "not an event") (WebhookEvent.ofBody? body)
  reconcileEvent setup event

/-- Handle one notification. -/
def onNotification (setup : Setup) (body : Bytes) (signature : Option String) :
    ExceptT ReconcileError Program ReconcileOutcome := ExceptT.mk <|
  (reconcile setup body signature).run.bind fun result =>
    (Program.count (.webhooks (.of result))).bind fun _ => .pure result

end Service

end BoxOffice
