/-! Statuses of tickets and payments. A ticket follows its payment; a ticket of a free event has
no payment and a status of its own. -/

namespace BoxOffice

inductive TicketStatus where
  | pending
  | paid
  /-- The payment request could not be delivered. -/
  | failed
  /-- The invoice expired before it was settled. -/
  | expired
  /-- A ticket of a free event; nothing is owed. -/
  | free
deriving DecidableEq, Inhabited

inductive PaymentStatus where
  | pending
  | paid
  | failed
  | expired
deriving DecidableEq, Inhabited

namespace TicketStatus

def all : List TicketStatus := [.pending, .paid, .failed, .expired, .free]

def name : TicketStatus → String
  | .pending => "pending"
  | .paid => "paid"
  | .failed => "failed"
  | .expired => "expired"
  | .free => "free"

def ofName? (s : String) : Option TicketStatus := all.find? (·.name == s)

/-- Whether a ticket in this status takes up one of its event's places. -/
def holdsPlace : TicketStatus → Bool
  | .pending | .paid | .free => true
  | .failed | .expired => false

end TicketStatus

namespace PaymentStatus

def all : List PaymentStatus := [.pending, .paid, .failed, .expired]

def name : PaymentStatus → String
  | .pending => "pending"
  | .paid => "paid"
  | .failed => "failed"
  | .expired => "expired"

def ofName? (s : String) : Option PaymentStatus := all.find? (·.name == s)

/-- Whether a new invoice may be issued for the payment. -/
def isRetryable : PaymentStatus → Bool
  | .failed | .expired => true
  | .pending | .paid => false

/-- The status of the ticket that the payment is for. -/
def ticketStatus : PaymentStatus → TicketStatus
  | .pending => .pending
  | .paid => .paid
  | .failed => .failed
  | .expired => .expired

end PaymentStatus

/-- The message for a status name that is not known. -/
def unknownStatusMessage (raw : String) : String := "unknown status: " ++ raw

end BoxOffice
