import BoxOffice.Event
import BoxOffice.Invoice
import BoxOffice.Payment
import BoxOffice.Store.Table
import BoxOffice.Ticket
import BoxOffice.Wallet.Credential

/-! The records that the box office keeps, and the errors of keeping them. -/

namespace BoxOffice

inductive StoreError where
  /-- The record named does not exist. -/
  | notFound (what : String)
  | soldOut (event : EventId)
  | eventInactive (event : EventId)
  | conflict (detail : String)
  /-- The storage itself failed. -/
  | database (detail : String)
deriving DecidableEq

def StoreError.message : StoreError → String
  | .notFound what => what ++ " not found"
  | .soldOut event => "event " ++ event.toString ++ " is sold out"
  | .eventInactive event => "event " ++ event.toString ++ " is not active"
  | .conflict detail => "conflict: " ++ detail
  | .database detail => "storage error: " ++ detail

/-- A ticket to create, with its invoice when it is to be paid for. -/
structure NewPurchase where
  ticketId : TicketId
  eventId : EventId
  userId : UserId
  code : TicketCode
  buyerAddress : Option String
  invoice : Option Invoice
  createdAt : Time.Instant
deriving DecidableEq

namespace NewPurchase

def ticket (p : NewPurchase) : Ticket where
  id := p.ticketId
  eventId := p.eventId
  userId := p.userId
  code := p.code
  status := if p.invoice.isSome then .pending else .free
  invoiceId := p.invoice.map (·.id)
  buyerAddress := p.buyerAddress
  paidAt := none
  createdAt := p.createdAt

/-- The payment under the given name, if there is an invoice. -/
def payment (p : NewPurchase) (id : PaymentId) : Option Payment :=
  p.invoice.map fun invoice => {
    id
    ticketId := p.ticketId
    invoice := invoice.encoded
    amount := invoice.amount
    status := .pending
    paidAt := none
    counterpartyCallback := none
    createdAt := p.createdAt }

end NewPurchase

/-- A change of status of a payment and its ticket, made only from the status expected. -/
structure Transition where
  source : PaymentStatus
  target : PaymentStatus
  /-- When it happens; the time of settlement of a payment that becomes paid. -/
  time : Time.Instant
deriving DecidableEq

def Transition.paidAt (t : Transition) : Option Time.Instant :=
  if t.target = .paid then some t.time else none

structure Store where
  events : Table EventId Event
  tickets : Table TicketId Ticket
  payments : Table PaymentId Payment
  /-- The current invoice of each ticket. -/
  invoices : Table TicketId Invoice
  credentials : Table UserId WalletCredential
deriving Inhabited

namespace Store

def empty : Store := ⟨.empty, .empty, .empty, .empty, .empty⟩

/-- The number of the event's tickets that take up a place. -/
def heldPlaces (s : Store) (event : EventId) : Nat :=
  s.tickets.values.countP fun t => t.eventId = event && t.status.holdsPlace

/-- The number of places taken, as far as 32 bits can count. -/
def heldCount (s : Store) (event : EventId) : UInt32 :=
  UInt32.ofNat (min (s.heldPlaces event) (UInt32.size - 1))

def paymentForTicket (s : Store) (ticket : TicketId) : Option Payment :=
  s.payments.values.find? (·.ticketId = ticket)

def paymentByInvoice (s : Store) (encoded : String) : Option Payment :=
  s.payments.values.find? (·.invoice = encoded)

/-- Of payments, the one created first; of those created together, the one found first. -/
def oldest : List Payment → Option Payment
  | [] => none
  | p :: rest => match oldest rest with
    | some q => if q.createdAt < p.createdAt then some q else some p
    | none => some p

def oldestPending (s : Store) (amount : Sats) : Option Payment :=
  oldest (s.payments.values.filter fun p => p.status = .pending && p.amount = amount)

/-- Pending payments whose invoice can no longer be paid, oldest first. -/
def expiredPending (s : Store) (now : Time.Instant) : List Payment :=
  (s.payments.values.filter fun p =>
    p.status = .pending && (s.invoices.find? p.ticketId).any (·.isExpired now)).mergeSort
      fun p q => p.createdAt ≤ q.createdAt

end Store

end BoxOffice
