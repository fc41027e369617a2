import BoxOffice.Client.Exchange
import BoxOffice.Processor.Wire

/-! Talking to a Lightning processor: invoices are issued and looked up, and so are the payments
that notifications name. -/

namespace BoxOffice.Client.Processor

variable {α : Type}

/-- `base` is what stands behind the host in the configured address. -/
def address (base path : String) : String := trimSlashes base ++ path

def createInvoiceRequest (base token : String) (spec : InvoiceSpec) : Outgoing :=
  .post (address base "/v1/invoices") (some token) spec.toJson

def fetchSettlementRequest (base token id : String) : Outgoing :=
  .get (address base ("/v1/entities/" ++ id)) (some token)

def fetchInvoiceRequest (base token id : String) : Outgoing :=
  .get (address base ("/v1/invoices/" ++ id)) (some token)

/-- Read a reply that is about the entity. -/
def readReply (decode : Json → Json.Decoded α) (entity : String) (r : Reply) :
    Except ProcessorError α :=
  if r.status = 404 then .error (.notFound entity)
  else if r.isServerError then .error (.unavailable ("processor returned " ++ r.statusText))
  else if !r.isSuccess then .error (.rejected r.status r.excerpt)
  else match r.value? decode with
    | some a => .ok a
    | none => .error (.invalidResponse Reply.undecodable)

/-- An invoice that cannot be paid, since its request is empty, is no invoice. -/
def readCreated (r : Reply) : Except ProcessorError ProcessorInvoice := do
  let invoice ← readReply ProcessorInvoice.ofJson "invoice" r
  if invoice.encoded.isEmpty then throw (.invalidResponse "invoice without encoded payment request")
  return invoice

def readSettlement (id : String) (r : Reply) : Except ProcessorError SettlementEntity :=
  readReply SettlementEntity.ofJson id r

def readInvoice (id : String) (r : Reply) : Except ProcessorError ProcessorInvoice :=
  readReply ProcessorInvoice.ofJson id r

end BoxOffice.Client.Processor
