import BoxOffice.Sats
import BoxOffice.Time.Instant

/-! The Lightning processor: it issues invoices, and is asked what a finished payment was for. -/

namespace BoxOffice

inductive ProcessorError where
  /-- It could not be reached, or failed on its side. -/
  | unavailable (detail : String)
  /-- It refused the request; the body is an excerpt. -/
  | rejected (status : Nat) (body : String)
  | notFound (entity : String)
  /-- Its answer did not have the expected shape. -/
  | invalidResponse (detail : String)
deriving DecidableEq

def ProcessorError.message : ProcessorError → String
  | .unavailable detail => "payment processor unavailable: " ++ detail
  | .rejected status body =>
    "payment processor rejected request (" ++ status.repr ++ "): " ++ body
  | .notFound entity => "processor entity " ++ entity ++ " not found"
  | .invalidResponse detail => "invalid processor response: " ++ detail

/-- What an invoice is asked for. -/
structure InvoiceSpec where
  amount : Sats
  description : String
  /-- How long it stays payable, in seconds. -/
  expirySecs : UInt64
deriving DecidableEq

/-- An invoice as the processor returns it. -/
structure ProcessorInvoice where
  id : String
  paymentHash : String
  encoded : String
  amountMsats : UInt64
  expiresAt : Option Time.Instant
deriving DecidableEq

/-- The payment request inside an outgoing payment: its data in place, behind a wrapper that may
be empty, or the encoded text alone. -/
inductive EmbeddedRequest where
  | value (encoded : String)
  | reference (encoded : Option String)
  | encoded (text : String)
deriving DecidableEq

/-- The encoded payment request, where there is one. -/
def EmbeddedRequest.encoded? (r : EmbeddedRequest) : Option String :=
  let text := match r with
    | .value e => some e
    | .reference e => e
    | .encoded t => some t
  text.filter (!·.isEmpty)

/-- A finished payment as the processor reports it. -/
inductive SettlementEntity where
  /-- Somebody paid one of our invoices. -/
  | incoming (id invoiceId : String)
  /-- We paid an invoice. -/
  | outgoing (id : String) (request : Option EmbeddedRequest)
deriving DecidableEq

end BoxOffice
