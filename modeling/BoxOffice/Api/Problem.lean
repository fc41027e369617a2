import BoxOffice.Service.Purchasing
import BoxOffice.Service.Settling

/-! Failures as HTTP clients are told of them: a status, a code for programs and a message for
people. The text of the cause is for the log and is never sent. -/

namespace BoxOffice

structure Problem where
  status : Nat
  code : String
  message : String
  cause : Option String
deriving DecidableEq

namespace Problem

def unauthorized (message : String) : Problem := ⟨401, "UNAUTHORIZED", message, none⟩

def missing (message : String) : Problem := ⟨404, "NOT_FOUND", message, none⟩

/-- A thing of some kind does not exist under a name. -/
def unknown (kind name : String) : Problem := missing (kind ++ " with id " ++ name ++ " not found")

def conflict (message : String) : Problem := ⟨409, "CONFLICT", message, none⟩

def soldOut (message : String) : Problem := ⟨409, "SOLD_OUT", message, none⟩

def invalid (message : String) : Problem := ⟨422, "VALIDATION_ERROR", message, none⟩

def internal (message : String) : Problem := ⟨500, "INTERNAL_SERVER_ERROR", message, none⟩

def badGateway (message : String) : Problem := ⟨502, "PROCESSOR_ERROR", message, none⟩

def unavailable (message : String) : Problem := ⟨503, "SERVICE_UNAVAILABLE", message, none⟩

def causedBy (p : Problem) (cause : String) : Problem := { p with cause := some cause }

def toString (p : Problem) : String := "[" ++ p.code ++ "] " ++ p.message

/-- The body that is sent. -/
def toJson (p : Problem) : Json := .object [
  ("code", .string p.code),
  ("message", .string p.message)]

/-! ### Failures of the services -/

/-- A failure that nothing is known of but its text. -/
def ofUnexpected (text : String) : Problem :=
  (internal "An internal error occurred").causedBy text

def ofStore : StoreError → Problem
  | .notFound what => missing (what ++ " not found")
  | .soldOut id => soldOut (StoreError.soldOut id).message
  | .eventInactive id => conflict (StoreError.eventInactive id).message
  | .conflict detail => conflict (StoreError.conflict detail).message
  | .database detail => (internal "Storage error").causedBy (StoreError.database detail).message

def ofIssue (e : IssueError) : Problem :=
  match e with
  | .invalidAddress _ | .zeroAmount => invalid e.message
  | .processor (.unavailable _) => (unavailable "Payment processor unavailable").causedBy e.message
  | .processor _ => (badGateway "Payment processor rejected the invoice").causedBy e.message

def ofPurchase (e : PurchaseError) : Problem :=
  match e with
  | .invalidAddress _ | .missingAddress => invalid e.message
  | .eventNotFound id => unknown "Event" id.toString
  | .ticketNotFound id => unknown "Ticket" id.toString
  | .paymentNotFound id => unknown "Payment" id.toString
  | .soldOut _ => soldOut e.message
  | .eventInactive _ | .notRetryable _ _ => conflict e.message
  | .issuer inner => ofIssue inner
  | .store inner => ofStore inner

def ofReconcile (e : ReconcileError) : Problem :=
  match e with
  | .invalidSignature => unauthorized e.message
  | _ => (internal "Settlement could not be reconciled").causedBy e.message

end Problem

end BoxOffice
