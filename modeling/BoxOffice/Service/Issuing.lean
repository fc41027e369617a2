import BoxOffice.Program
import BoxOffice.Setup

/-! Issuing an invoice for one ticket: the buyer's address and the amount are checked, then the
processor is asked. -/

namespace BoxOffice

inductive IssueError where
  | invalidAddress (error : AddressError)
  | zeroAmount
  | processor (error : ProcessorError)
deriving DecidableEq

def IssueError.message : IssueError → String
  | .invalidAddress e => "invalid buyer address: " ++ e.message
  | .zeroAmount => "invoice amount must be greater than zero"
  | .processor e => e.message

namespace Service

/-- The longest expiry, in seconds, that is taken as it is; a longer one counts as an hour. -/
def longestExpiry : Nat := 9223372036854775

/-- When an invoice issued now expires, unless that is past the end of the calendar. -/
def expiryAfter (now : Time.Instant) (secs : UInt64) : Option Time.Instant :=
  let t := now.addSeconds (if secs.toNat ≤ longestExpiry then secs.toNat else 3600)
  if t.onCalendar then some t else none

/-- The processor's word on the expiry counts before our own. -/
def invoiceExpiry (setup : Setup) (given : Option Time.Instant) : Program Time.Instant :=
  match given with
  | some t => .pure t
  | none => Program.now.bind fun now =>
    match expiryAfter now setup.invoiceExpirySecs with
    | some t => .pure t
    | none => .abort

def issue (setup : Setup) (ticket : TicketId) (buyerAddress : String) (amount : Sats)
    (description : String) : ExceptT IssueError Program Invoice := do
  match Address.parse buyerAddress with
  | .error e => throw (.invalidAddress e)
  | .ok _ => pure ()
  if amount.isZero then throw .zeroAmount
  let issued ← Program.within IssueError.processor <| ExceptT.mk <|
    Program.request (.createInvoice ⟨amount, description, setup.invoiceExpirySecs⟩)
  let expiresAt ← invoiceExpiry setup issued.expiresAt
  return {
    id := issued.id
    ticketId := ticket
    paymentHash := issued.paymentHash
    encoded := issued.encoded
    amount
    expiresAt
    issuingAddress := setup.receiver.toString
    description }

end Service

end BoxOffice
