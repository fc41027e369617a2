import BoxOffice.Lifecycle.Reduce
import BoxOffice.Service.Issuing

/-! Selling tickets: purchase, status and retry. A purchase or a retry only begins to route the
payment; it does not wait for the outcome. -/

namespace BoxOffice

inductive PurchaseError where
  | invalidAddress (error : AddressError)
  /-- A priced purchase needs an address to route the payment to. -/
  | missingAddress
  | eventNotFound (event : EventId)
  | eventInactive (event : EventId)
  | soldOut (event : EventId)
  | ticketNotFound (ticket : TicketId)
  | paymentNotFound (payment : PaymentId)
  /-- Only failed and expired payments are retried. -/
  | notRetryable (payment : PaymentId) (status : PaymentStatus)
  | issuer (error : IssueError)
  | store (error : StoreError)
deriving DecidableEq

namespace PurchaseError

def message : PurchaseError → String
  | .invalidAddress e => "invalid buyer address: " ++ e.message
  | .missingAddress => "a buyer address is required for priced events"
  | .eventNotFound id => "event not found: " ++ id.toString
  | .eventInactive id => "event " ++ id.toString ++ " is not on sale"
  | .soldOut id => "event " ++ id.toString ++ " is sold out"
  | .ticketNotFound id => "ticket not found: " ++ id.toString
  | .paymentNotFound id => "payment not found: " ++ id.toString
  | .notRetryable id status =>
    "payment " ++ id.toString ++ " is " ++ status.name ++ " and cannot be retried"
  | .issuer e => e.message
  | .store e => e.message

/-- What a failure of the store means to a buyer. -/
def ofStore : StoreError → PurchaseError
  | .soldOut id => .soldOut id
  | .eventInactive id => .eventInactive id
  | e => .store e

end PurchaseError

/-- What a buyer gets from a purchase or a retry. -/
structure Receipt where
  ticket : Ticket
  payment : Option Payment
  invoice : Option Invoice
  /-- Whether the buyer has yet to pay. -/
  paymentRequired : Bool
deriving DecidableEq

/-- A ticket and its payment as they are stored. -/
structure Snapshot where
  ticket : Ticket
  payment : Option Payment
deriving DecidableEq

def Receipt.toJson (r : Receipt) : Json := .object [
  ("ticket", r.ticket.toJson),
  ("payment", .ofOption Payment.toJson r.payment),
  ("invoice", .ofOption Invoice.toJson r.invoice),
  ("payment_required", .bool r.paymentRequired)]

def Snapshot.toJson (s : Snapshot) : Json := .object [
  ("ticket", s.ticket.toJson),
  ("payment", .ofOption Payment.toJson s.payment)]

namespace Service

/-- The places an event has left, as the store counts them. -/
def remainingPlaces (event : Event) : ExceptT StoreError Program UInt32 := do
  return event.remaining (← Program.store (.heldCount event.id))

/-- Fail early when an event is not on sale or has no place left. -/
def ensureAvailable (event : Event) : ExceptT StoreError Program UInt32 := do
  if !event.active then throw (.eventInactive event.id)
  let left ← remainingPlaces event
  if left = 0 then throw (.soldOut event.id)
  return left

/-- Where the invoice of a ticket is fetched. -/
def pullUrl (setup : Setup) (ticket : TicketId) : String :=
  setup.trimmedBaseUrl ++ "/api/uma/payreq/" ++ ticket.toString

/-- The store within a purchase. -/
def purchaseStore (call : Store.Call) : ExceptT PurchaseError Program call.Reply :=
  Program.within PurchaseError.ofStore (Program.store call)

/-- The event, if it is on sale and has a place left. -/
def availableEvent (id : EventId) : ExceptT PurchaseError Program Event := do
  let event ← Program.orThrow (.eventNotFound id) (← purchaseStore (.event id))
  let _ ← Program.within PurchaseError.ofStore (ensureAvailable event)
  return event

def dispatchContext (setup : Setup) (ticket : TicketId) (buyer : Address) (invoice : Invoice)
    (credential : Option WalletCredential) : DispatchContext where
  ticketId := ticket
  buyer
  invoice := invoice.encoded
  amount := invoice.amount
  expiresAt := invoice.expiresAt
  callbackUrl := pullUrl setup ticket
  description := invoice.description
  credential

def invoiceDescription (event : Event) : String := "Ticket: " ++ event.title

/-- Issue an invoice within a purchase. -/
def purchaseInvoice (setup : Setup) (ticket : TicketId) (buyer : Address) (amount : Sats)
    (event : Event) : ExceptT PurchaseError Program Invoice :=
  Program.within .issuer (issue setup ticket buyer.toString amount (invoiceDescription event))

def parseAddress (raw : String) : ExceptT PurchaseError Program Address :=
  match Address.parse raw with
  | .ok a => pure a
  | .error e => throw (.invalidAddress e)

/-- The address that a buyer gave, if any. -/
def givenAddress : Option String → ExceptT PurchaseError Program (Option Address)
  | some raw => do return some (← parseAddress raw)
  | none => pure none

/-- A purchase, not yet counted. -/
def tryPurchase (setup : Setup) (eventId : EventId) (user : UserId) (address : Option String) :
    ExceptT PurchaseError Program Receipt := do
  let buyer ← givenAddress address
  let event ← availableEvent eventId
  let ticketId ← Program.request .freshTicket
  let code ← Program.request .freshCode
  let createdAt ← Program.now
  let purchase (invoice : Option Invoice) : NewPurchase :=
    ⟨ticketId, eventId, user, code, buyer.map (·.toString), invoice, createdAt⟩
  if event.isFree then
    let id ← Program.request .freshPayment
    let (ticket, _) ← purchaseStore (.createPurchase (purchase none) id)
    return ⟨ticket, none, none, false⟩
  let buyer ← Program.orThrow .missingAddress buyer
  let invoice ← purchaseInvoice setup ticketId buyer event.price event
  let id ← Program.request .freshPayment
  let (ticket, payment) ← purchaseStore (.createPurchase (purchase (some invoice)) id)
  let credential ← Program.request (.store (.credential user))
  Program.request
    (.dispatch (dispatchContext setup ticketId buyer invoice (credential.toOption.getD none)))
  return ⟨ticket, payment, some invoice, true⟩

/-- Buy a ticket. A free one is complete at once; for a priced one an invoice is issued and its
payment begins to be routed. -/
def purchase (setup : Setup) (event : EventId) (user : UserId) (address : Option String) :
    ExceptT PurchaseError Program Receipt := ExceptT.mk <|
  (tryPurchase setup event user address).run.bind fun result =>
    let kind : PurchaseKind := match result with
      | .ok receipt => if receipt.paymentRequired then .priced else .free
      | .error _ => .rejected
    (Program.count (.purchases kind)).bind fun _ => .pure result

def ticketStatus (ticket : TicketId) : ExceptT PurchaseError Program Snapshot := do
  let t ← Program.orThrow (.ticketNotFound ticket) (← purchaseStore (.ticket ticket))
  let p ← purchaseStore (.paymentForTicket ticket)
  return ⟨t, p⟩

/-- Whether the lifecycle of the records takes a retry well. The decision does not look at the
clock, so none is asked. Nothing is stored of it. -/
def takesRetry (setup : Setup) (ticket : Ticket) (payment : Payment) : Bool :=
  let setting : Lifecycle.Setting := ⟨default, setup.receiver, setup.versions⟩
  (Lifecycle.reduce setting (.ofRecords ticket payment) .retryRequested).1.lastError.isNone

/-- Retry a payment that failed or expired: issue a fresh invoice, set payment and ticket back to
pending and push a new request. The buyer's wallet is not tried again. -/
def retry (setup : Setup) (paymentId : PaymentId) : ExceptT PurchaseError Program Receipt := do
  let payment ← Program.orThrow (.paymentNotFound paymentId)
    (← purchaseStore (.payment paymentId))
  let ticket ← Program.orThrow (.ticketNotFound payment.ticketId)
    (← purchaseStore (.ticket payment.ticketId))
  if !takesRetry setup ticket payment then throw (.notRetryable paymentId payment.status)
  let raw ← Program.orThrow .missingAddress ticket.buyerAddress
  let buyer ← parseAddress raw
  let event ← availableEvent ticket.eventId
  let invoice ← purchaseInvoice setup ticket.id buyer payment.amount event
  let payment ← purchaseStore (.reissue paymentId invoice)
  Program.count (.payments .pending)
  Program.request (.dispatch (dispatchContext setup ticket.id buyer invoice none))
  let ticket ← Program.orThrow (.ticketNotFound ticket.id) (← purchaseStore (.ticket ticket.id))
  return ⟨ticket, some payment, some invoice, true⟩

end Service

end BoxOffice
