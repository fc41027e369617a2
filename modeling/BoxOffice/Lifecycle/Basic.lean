import BoxOffice.Address
import BoxOffice.Payment
import BoxOffice.Ticket
import BoxOffice.Wallet.Credential

/-! The lifecycle of one payment: its status, and how far it has been routed to the buyer. -/

namespace BoxOffice

/-- How far a payment has been routed. -/
inductive Stage where
  | notStarted
  /-- The buyer's wallet was told to pay. -/
  | walletAttempted
  /-- A payment request was pushed to the buyer's provider. -/
  | requestPushed
  | settled
  /-- Closed without being paid. -/
  | failed
deriving DecidableEq, Inhabited

namespace Stage

def name : Stage → String
  | .notStarted => "NotStarted"
  | .walletAttempted => "WalletAttempted"
  | .requestPushed => "RequestPushed"
  | .settled => "Settled"
  | .failed => "Failed"

def ofName? (s : String) : Option Stage :=
  [notStarted, walletAttempted, requestPushed, settled, failed].find? (·.name == s)

/-- The stage of a payment that was loaded with the given status. -/
def ofStatus : PaymentStatus → Stage
  | .pending => .notStarted
  | .paid => .settled
  | .failed | .expired => .failed

end Stage

/-- What it takes to route a payment. -/
structure DispatchContext where
  ticketId : TicketId
  buyer : Address
  /-- The encoded invoice to pay. -/
  invoice : String
  amount : Sats
  expiresAt : Time.Instant
  /-- Where the invoice of this ticket is fetched. -/
  callbackUrl : String
  description : String
  credential : Option WalletCredential
deriving DecidableEq

structure Lifecycle where
  ticketId : TicketId
  ticketStatus : TicketStatus
  paymentStatus : PaymentStatus
  stage : Stage
  paidAt : Option Time.Instant
  /-- Why the payment failed or expired. -/
  failureReason : Option String
  /-- The action last refused, or the failure last recovered from. -/
  lastError : Option String
  /-- The dispatch under way. -/
  context : Option DispatchContext
deriving DecidableEq

namespace Lifecycle

/-- A purchase just made. -/
def pending (ticketId : TicketId) : Lifecycle :=
  ⟨ticketId, .pending, .pending, .notStarted, none, none, none, none⟩

/-- The lifecycle that stored records stand for. -/
def ofRecords (ticket : Ticket) (payment : Payment) : Lifecycle where
  ticketId := ticket.id
  ticketStatus := ticket.status
  paymentStatus := payment.status
  stage := .ofStatus payment.status
  paidAt := payment.paidAt
  failureReason := none
  lastError := none
  context := none

/-- Set the status of payment and ticket together. -/
def setStatus (s : Lifecycle) (status : PaymentStatus) : Lifecycle :=
  { s with paymentStatus := status, ticketStatus := status.ticketStatus }

/-- Refuse an action; nothing but the error changes. -/
def reject (s : Lifecycle) (error : String) : Lifecycle := { s with lastError := some error }

end Lifecycle

/-- Commands to a lifecycle, and what became of the work it asked for. -/
inductive LifecycleAction where
  | dispatch (context : DispatchContext)
  | walletPaid
  | walletFailed (reason : String)
  | pushDelivered
  | pushFailed (reason : String)
  | settlementMatched (paidAt : Time.Instant)
  | invoiceExpired (at_ : Time.Instant)
  | retryRequested
deriving DecidableEq

end BoxOffice
