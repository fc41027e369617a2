import BoxOffice.Json.Printer
import BoxOffice.Program
import BoxOffice.Protocol.Discovery
import BoxOffice.Protocol.PayRequest
import BoxOffice.Protocol.PayResponse
import BoxOffice.Protocol.Version
import BoxOffice.Setup

/-! Answering counterparties: discovery documents, and the invoice of a ticket or of an amount.
No new invoice is issued here; what was issued before is handed out. -/

namespace BoxOffice

open Protocol

/-- Why a full answer is not given. -/
inductive EnvelopeError where
  | unsupportedCurrency (code : String)
  | unsupportedVersion (version : UInt32)
deriving DecidableEq

def EnvelopeError.message : EnvelopeError → String
  | .unsupportedCurrency code => "unsupported receiving currency " ++ code
  | .unsupportedVersion version => "unsupported protocol version " ++ version.toNat.repr

namespace Service

/-- Equal up to the case of ASCII letters. -/
def sameLetters (a b : String) : Bool :=
  Text.lowerAscii a.toList == Text.lowerAscii b.toList

def msatsPerSat : Number.Double := Number.Double.ofInt 1000

/-! ### Discovery -/

def satCurrency (setup : Setup) : Currency where
  code := "SAT"
  name := "Satoshis"
  symbol := "sat"
  multiplier := msatsPerSat
  decimals := 0
  minSendable := setup.minSendableMsats / 1000
  maxSendable := setup.maxSendableMsats / 1000

/-- What can be paid to a user name; only the receiver's own is known. -/
def payableParameters (setup : Setup) (username : String) : Option PayableParameters :=
  let receiver := setup.receiver
  if sameLetters username receiver.localPart then
    let metadata := Json.array [
      .array [.string "text/plain", .string ("Event tickets paid to " ++ receiver.toString)],
      .array [.string "text/identifier", .string (receiver.localPart ++ "@" ++ receiver.domain)]]
    some {
      tag := payRequestTag
      callback := setup.trimmedBaseUrl ++ "/api/uma/callback"
      minSendable := setup.minSendableMsats
      maxSendable := setup.maxSendableMsats
      metadata := metadata.compress
      currencies := [satCurrency setup]
      versions := String.intercalate "," (setup.versions.map fun v => v.toNat.repr ++ ".0") }
  else none

def ownConfiguration (setup : Setup) : ProviderConfiguration := ⟨setup.versions, none⟩

/-! ### Pay requests -/

/-- The store as a counterparty sees it: its failures are not told apart. -/
def responderStore (call : Store.Call) : ExceptT ErrorEnvelope Program call.Reply :=
  Program.within (fun _ => .ofReason "temporarily unavailable") (Program.store call)

/-- The encoded invoice of a payment, unless it has expired. -/
def currentInvoice (payment : Payment) : ExceptT ErrorEnvelope Program String := do
  match ← responderStore (.invoiceForTicket payment.ticketId) with
  | some invoice =>
    if invoice.isExpired (← Program.now) then throw (.ofReason "invoice expired")
    return invoice.encoded
  | none => return payment.invoice

/-- The quote that goes with an invoice, in satoshis only. -/
def envelope (setup : Setup) (request : FullRequest) (payment : Payment) :
    Except EnvelopeError Envelope :=
  if !sameLetters request.currencyCode "SAT" then
    .error (.unsupportedCurrency request.currencyCode)
  else
    let requested := request.version.getD (setup.versions.head?.getD 1)
    match negotiate setup.versions [requested] with
    | none => .error (.unsupportedVersion requested)
    | some version => .ok {
        converted := {
          amount := payment.amount.count
          currencyCode := "SAT"
          decimals := 0
          multiplier := msatsPerSat
          fee := 0 }
        payeeData := .object [("identifier", .string setup.receiver.toString)]
        version
        disposable := false }

/-- The answer to a full request; a quote that cannot be given is left out. -/
def quoted (setup : Setup) (request : FullRequest) (payment : Payment) (encoded : String) :
    PayResponse :=
  match envelope setup request payment with
  | .ok e => ⟨encoded, [], some e⟩
  | .error _ => .bare encoded

/-- Hand out the invoice of a ticket with a pending payment. A callback that comes with the
request is remembered. -/
def payRequest (setup : Setup) (ticket : TicketId) (body : PayRequest) :
    ExceptT ErrorEnvelope Program PayResponse := do
  let payment ← Program.orThrow (.ofReason ("no payment for ticket " ++ ticket.toString))
    (← responderStore (.paymentForTicket ticket))
  if payment.status ≠ .pending then
    throw (.ofReason ("payment for ticket " ++ ticket.toString ++ " is " ++ payment.status.name))
  let encoded ← currentInvoice payment
  match body with
  | .amount _ => return .bare encoded
  | .full request =>
    if let some url := request.callback? then
      let _ ← Program.request (.store (.recordCallback payment.id url))
    return quoted setup request payment encoded

/-- Hand out the invoice of the oldest pending payment of an amount. -/
def payByAmount (amountMsats : Option UInt64) : ExceptT ErrorEnvelope Program PayResponse := do
  let msats ← Program.orThrow (.ofReason "amount is required") amountMsats
  let amount ← Program.orThrow (.ofReason "amount must be whole satoshis")
    (Sats.ofMillisats? msats)
  let payment ← Program.orThrow (.ofReason ("no pending payment for " ++ amount.toString))
    (← responderStore (.oldestPending amount))
  return .bare (← currentInvoice payment)

end Service

end BoxOffice
