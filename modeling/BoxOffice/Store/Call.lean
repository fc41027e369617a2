import BoxOffice.Store.Operations

/-! Calls to the store, as the services make them, and their replies. -/

namespace BoxOffice.Store

inductive Call where
  | putEvent (event : Event)
  | event (id : EventId)
  | heldCount (event : EventId)
  | ticket (id : TicketId)
  | payment (id : PaymentId)
  | paymentForTicket (ticket : TicketId)
  | invoiceForTicket (ticket : TicketId)
  | paymentByInvoice (encoded : String)
  | oldestPending (amount : Sats)
  | expiredPending (now : Time.Instant)
  /-- `id` is the name of the payment, should there be one. -/
  | createPurchase (purchase : NewPurchase) (id : PaymentId)
  | applyTransition (ticket : TicketId) (transition : Transition)
  | reissue (payment : PaymentId) (invoice : Invoice)
  | recordCallback (payment : PaymentId) (url : String)
  | credential (user : UserId)
  | putCredential (credential : WalletCredential)
deriving DecidableEq

namespace Call

/-- What a call that succeeds gives. -/
def Reply : Call → Type
  | .putEvent _ => Unit
  | .event _ => Option Event
  | .heldCount _ => UInt32
  | .ticket _ => Option Ticket
  | .payment _ => Option Payment
  | .paymentForTicket _ => Option Payment
  | .invoiceForTicket _ => Option Invoice
  | .paymentByInvoice _ => Option Payment
  | .oldestPending _ => Option Payment
  | .expiredPending _ => List Payment
  | .createPurchase _ _ => Ticket × Option Payment
  | .applyTransition _ _ => Bool
  | .reissue _ _ => Payment
  | .recordCallback _ _ => Unit
  | .credential _ => Option WalletCredential
  | .putCredential _ => Unit

end Call

/-- A change that failed leaves the store as it was. -/
def changed {α : Type} (s : Store) :
    Except StoreError (α × Store) → Except StoreError α × Store
  | .ok (a, s') => (.ok a, s')
  | .error e => (.error e, s)

/-- Carry out a call. -/
def perform (s : Store) : (call : Call) → Except StoreError call.Reply × Store
  | .putEvent event => (.ok (), { s with events := s.events.set event.id event })
  | .event id => (.ok (s.events.find? id), s)
  | .heldCount event => (.ok (s.heldCount event), s)
  | .ticket id => (.ok (s.tickets.find? id), s)
  | .payment id => (.ok (s.payments.find? id), s)
  | .paymentForTicket ticket => (.ok (s.paymentForTicket ticket), s)
  | .invoiceForTicket ticket => (.ok (s.invoices.find? ticket), s)
  | .paymentByInvoice encoded => (.ok (s.paymentByInvoice encoded), s)
  | .oldestPending amount => (.ok (s.oldestPending amount), s)
  | .expiredPending now => (.ok (s.expiredPending now), s)
  | .createPurchase purchase id => changed s (s.createPurchase purchase id)
  | .applyTransition ticket transition => changed s (s.applyTransition ticket transition)
  | .reissue payment invoice => changed s (s.reissue payment invoice)
  | .recordCallback payment url => changed s ((s.recordCallback payment url).map ((), ·))
  | .credential user => (.ok (s.credentials.find? user), s)
  | .putCredential c => (.ok (), { s with credentials := s.credentials.set c.userId c })

end BoxOffice.Store
