import BoxOffice.Store.Basic

/-! The operations that change records. Each happens as a whole: it gives an error and changes
nothing, or it makes all of its changes. -/

namespace BoxOffice.Store

/-- The event, if it is on sale and has a place left. -/
def openEvent (s : Store) (id : EventId) : Except StoreError Event :=
  match s.events.find? id with
  | none => .error (.notFound ("event " ++ id.toString))
  | some event =>
    if !event.active then .error (.eventInactive event.id)
    else if !event.hasRoom (s.heldCount event.id) then .error (.soldOut event.id)
    else .ok event

/-- Create a ticket, and its payment and invoice if it is to be paid for; `id` is the name of the
payment. -/
def createPurchase (s : Store) (p : NewPurchase) (id : PaymentId) :
    Except StoreError ((Ticket × Option Payment) × Store) := do
  let _ ← s.openEvent p.eventId
  if s.tickets.values.any (·.code = p.code) then
    throw (.conflict ("ticket code " ++ p.code.text ++ " in use"))
  if p.invoice.any fun i => s.payments.values.any (·.invoice = i.encoded) then
    throw (.conflict "invoice already attached")
  let payment := p.payment id
  return ((p.ticket, payment), { s with
    tickets := s.tickets.set p.ticketId p.ticket
    payments := match payment with
      | some q => s.payments.set q.id q
      | none => s.payments
    invoices := match p.invoice with
      | some i => s.invoices.set p.ticketId i
      | none => s.invoices })

/-- Make a change of status; false when the payment is not in the status expected. -/
def applyTransition (s : Store) (ticket : TicketId) (t : Transition) :
    Except StoreError (Bool × Store) :=
  match s.paymentForTicket ticket with
  | none => .error (.notFound ("payment for ticket " ++ ticket.toString))
  | some payment =>
    if payment.status ≠ t.source then .ok (false, s)
    else .ok (true, { s with
      payments := s.payments.modify payment.id fun p =>
        { p with status := t.target, paidAt := t.paidAt }
      tickets := s.tickets.modify ticket fun k =>
        { k with status := t.target.ticketStatus, paidAt := t.paidAt } })

/-- Put a fresh invoice into a payment that failed or expired, and set it back to pending. -/
def reissue (s : Store) (id : PaymentId) (invoice : Invoice) :
    Except StoreError (Payment × Store) := do
  let some current := s.payments.find? id
    | throw (.notFound ("payment " ++ id.toString))
  if !current.status.isRetryable then
    throw (.conflict ("payment " ++ id.toString ++ " is " ++ current.status.name ++
      " and cannot be retried"))
  let some ticket := s.tickets.find? current.ticketId
    | throw (.notFound ("ticket " ++ current.ticketId.toString))
  let some event := s.events.find? ticket.eventId
    | throw (.notFound ("event " ++ ticket.eventId.toString))
  if !event.active then throw (.eventInactive ticket.eventId)
  if !event.hasRoom (s.heldCount ticket.eventId) then throw (.soldOut ticket.eventId)
  let updated := { current with
    status := .pending
    invoice := invoice.encoded
    amount := invoice.amount
    paidAt := none
    counterpartyCallback := none }
  return (updated, { s with
    payments := s.payments.set id updated
    tickets := s.tickets.modify current.ticketId fun k =>
      { k with status := .pending, invoiceId := some invoice.id, paidAt := none }
    invoices := s.invoices.set current.ticketId invoice })

/-- Remember where the payer's side asks to be told of the settlement. -/
def recordCallback (s : Store) (id : PaymentId) (url : String) : Except StoreError Store :=
  match s.payments.find? id with
  | none => .error (.notFound ("payment " ++ id.toString))
  | some p =>
    .ok { s with payments := s.payments.set id { p with counterpartyCallback := some url } }

end BoxOffice.Store
