import BoxOffice.Script.Field
import BoxOffice.Service.Purchasing
import BoxOffice.Service.Responding
import BoxOffice.Service.Settling

/-! Errors in scripts. In an answer an error stands with its kind, the causes from the outermost on
with points between them, and its message; in a script it is described by its kind and what belongs
to it. -/

namespace BoxOffice

/-! ### Kinds -/

def AddressError.kind : AddressError → String
  | .missingDollar => "MissingDollar"
  | .badSeparator => "BadSeparator"
  | .emptyLocalPart => "EmptyLocalPart"
  | .emptyDomain => "EmptyDomain"
  | .invalidCharacter _ => "InvalidCharacter"

def StoreError.kind : StoreError → String
  | .notFound _ => "NotFound"
  | .soldOut _ => "SoldOut"
  | .eventInactive _ => "EventInactive"
  | .conflict _ => "Conflict"
  | .database _ => "Database"

def ProcessorError.kind : ProcessorError → String
  | .unavailable _ => "Unavailable"
  | .rejected _ _ => "Rejected"
  | .notFound _ => "NotFound"
  | .invalidResponse _ => "InvalidResponse"

def ProviderError.kind : ProviderError → String
  | .unreachable _ => "Unreachable"
  | .rejected _ _ => "Rejected"
  | .noRequestEndpoint _ => "NoRequestEndpoint"
  | .unsupportedVersion _ => "UnsupportedVersion"
  | .invalidResponse _ => "InvalidResponse"

def WalletError.kind : WalletError → String
  | .unreachable _ => "Unreachable"
  | .declined _ => "Declined"

def IssueError.kind : IssueError → String
  | .invalidAddress e => "InvalidAddress." ++ e.kind
  | .zeroAmount => "ZeroAmount"
  | .processor e => "Processor." ++ e.kind

def PurchaseError.kind : PurchaseError → String
  | .invalidAddress e => "InvalidAddress." ++ e.kind
  | .missingAddress => "MissingAddress"
  | .eventNotFound _ => "EventNotFound"
  | .eventInactive _ => "EventInactive"
  | .soldOut _ => "SoldOut"
  | .ticketNotFound _ => "TicketNotFound"
  | .paymentNotFound _ => "PaymentNotFound"
  | .notRetryable _ _ => "NotRetryable"
  | .issuer e => "Issuer." ++ e.kind
  | .store e => "Store." ++ e.kind

def ReconcileError.kind : ReconcileError → String
  | .invalidSignature => "InvalidSignature"
  | .malformedPayload _ => "MalformedPayload"
  | .processor e => "Processor." ++ e.kind
  | .missingPaymentRequest _ => "MissingPaymentRequest"
  | .store e => "Store." ++ e.kind

def EnvelopeError.kind : EnvelopeError → String
  | .unsupportedCurrency _ => "UnsupportedCurrency"
  | .unsupportedVersion _ => "UnsupportedVersion"

namespace Script

/-! ### Answers -/

def storeFailure (e : StoreError) : Json := failure e.kind e.message

def processorFailure (e : ProcessorError) : Json := failure e.kind e.message

def providerFailure (e : ProviderError) : Json := failure e.kind e.message

def walletFailure (e : WalletError) : Json := failure e.kind e.message

def issueFailure (e : IssueError) : Json := failure e.kind e.message

def purchaseFailure (e : PurchaseError) : Json := failure e.kind e.message

/-- Why a body is no event is not told. -/
def reconcileFailure (e : ReconcileError) : Json :=
  match e with
  | .malformedPayload _ => bareFailure e.kind
  | _ => failure e.kind e.message

/-! ### Descriptions -/

private def detail (j : Json) : Reads String := textOr j "detail" ""

private def status (j : Json) : Reads Nat := (numberOr j "status" 0).map (·.toNat)

def storeError (j : Json) : Reads StoreError := do
  match ← text j "kind" with
  | "NotFound" => return .notFound (← detail j)
  | "Conflict" => return .conflict (← detail j)
  | "Database" => return .database (← detail j)
  | "SoldOut" => return .soldOut ⟨← uuid j "id"⟩
  | "EventInactive" => return .eventInactive ⟨← uuid j "id"⟩
  | _ => throw "kind"

def processorError (j : Json) : Reads ProcessorError := do
  match ← text j "kind" with
  | "Unavailable" => return .unavailable (← detail j)
  | "NotFound" => return .notFound (← detail j)
  | "InvalidResponse" => return .invalidResponse (← detail j)
  | "Rejected" => return .rejected (← status j) (← detail j)
  | _ => throw "kind"

def providerError (j : Json) : Reads ProviderError := do
  match ← text j "kind" with
  | "Unreachable" => return .unreachable (← detail j)
  | "InvalidResponse" => return .invalidResponse (← detail j)
  | "NoRequestEndpoint" => return .noRequestEndpoint (← detail j)
  | "Rejected" => return .rejected (← status j) (← detail j)
  | "UnsupportedVersion" =>
    return .unsupportedVersion (← wantOr (Json.asList Json.asU32) j "versions" [])
  | _ => throw "kind"

def walletError (j : Json) : Reads WalletError := do
  match ← text j "kind" with
  | "Unreachable" => return .unreachable (← detail j)
  | "Declined" => return .declined (← detail j)
  | _ => throw "kind"

/-- The error of an address that does not parse. -/
def addressError (j : Json) : Reads AddressError := do
  match Address.parse (← text j "raw") with
  | .error e => return e
  | .ok _ => throw "raw"

def purchaseError (j : Json) : Reads PurchaseError := do
  match ← text j "kind" with
  | "InvalidAddress" => return .invalidAddress (← addressError j)
  | "MissingAddress" => return .missingAddress
  | "EventNotFound" => return .eventNotFound ⟨← uuid j "id"⟩
  | "EventInactive" => return .eventInactive ⟨← uuid j "id"⟩
  | "SoldOut" => return .soldOut ⟨← uuid j "id"⟩
  | "TicketNotFound" => return .ticketNotFound ⟨← uuid j "id"⟩
  | "PaymentNotFound" => return .paymentNotFound ⟨← uuid j "id"⟩
  | "NotRetryable" =>
    return .notRetryable ⟨← uuid j "id"⟩ (← want (Json.asParsed PaymentStatus.ofName?) j "status")
  | "IssuerInvalidAddress" => return .issuer (.invalidAddress (← addressError j))
  | "IssuerZeroAmount" => return .issuer .zeroAmount
  | "IssuerProcessor" => return .issuer (.processor (← processorError (← given j "inner")))
  | "Store" => return .store (← storeError (← given j "inner"))
  | _ => throw "kind"

def reconcileError (j : Json) : Reads ReconcileError := do
  match ← text j "kind" with
  | "InvalidSignature" => return .invalidSignature
  | "MalformedPayload" => return .malformedPayload (← detail j)
  | "MissingPaymentRequest" => return .missingPaymentRequest (← detail j)
  | "Processor" => return .processor (← processorError (← given j "inner"))
  | "Store" => return .store (← storeError (← given j "inner"))
  | _ => throw "kind"

def envelopeError (j : Json) : Reads EnvelopeError := do
  match ← text j "kind" with
  | "UnsupportedCurrency" => return .unsupportedCurrency (← detail j)
  | "UnsupportedVersion" => return .unsupportedVersion (← want Json.asU32 j "version")
  | _ => throw "kind"

end Script

end BoxOffice
