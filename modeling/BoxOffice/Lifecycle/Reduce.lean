import BoxOffice.Effect.Basic
import BoxOffice.Lifecycle.Basic
import BoxOffice.Provider.Basic

/-! Decisions on a lifecycle. An action changes the state and may ask for one errand: to have the
buyer's wallet pay, or to push a request to the buyer's provider. -/

namespace BoxOffice

/-- Work outside that a lifecycle asks for. -/
inductive Errand where
  | payInvoice (credential : WalletCredential) (invoice : String)
  /-- Discover the provider at the domain, agree on one of our versions and push the request. -/
  | pushRequest (domain : String) (request : PaymentRequest) (versions : List UInt32)
deriving DecidableEq

namespace Lifecycle

/-- What decisions depend on besides the state. -/
structure Setting where
  now : Time.Instant
  receiver : Address
  versions : List UInt32

abbrev Effects := List (Effect Errand LifecycleAction)

/-- The request to pay what a dispatch is for. -/
def paymentRequest (receiver : Address) (c : DispatchContext) : PaymentRequest where
  sender := c.buyer.toString
  receiver := receiver.toString
  amount := c.amount.count
  currency := "SAT"
  callback := c.callbackUrl
  expiresAt := c.expiresAt.second
  description := c.description

def pushErrand (env : Setting) (c : DispatchContext) : Errand :=
  .pushRequest c.buyer.domain (paymentRequest env.receiver c) env.versions

def reduce (env : Setting) (s : Lifecycle) : LifecycleAction → Lifecycle × Effects
  | .dispatch context =>
    if s.paymentStatus ≠ .pending ∨ s.stage ≠ .notStarted then
      (s.reject ("cannot dispatch payment in status " ++ s.paymentStatus.name ++ " at stage " ++
        s.stage.name), [])
    else match context.credential.filter (·.isUsable env.now) with
      | some credential =>
        ({ s with stage := .walletAttempted, context := some context },
          [.future (.payInvoice credential context.invoice)])
      | none =>
        ({ s with stage := .requestPushed, context := some context },
          [.future (pushErrand env context)])
  | .walletPaid => (s, [])
  | .walletFailed reason =>
    if s.stage ≠ .walletAttempted ∨ s.paymentStatus ≠ .pending then (s, [])
    else match s.context with
      | none => (s.reject "wallet failed without dispatch context", [])
      | some context =>
        ({ s with stage := .requestPushed, lastError := some reason },
          [.future (pushErrand env context)])
  | .pushDelivered => (s, [])
  | .pushFailed reason =>
    if s.paymentStatus ≠ .pending then
      (s.reject ("push failed after payment became " ++ s.paymentStatus.name), [])
    else
      ({ s.setStatus .failed with stage := .failed, failureReason := some reason }, [])
  | .settlementMatched paidAt =>
    match s.paymentStatus with
    | .pending => ({ s.setStatus .paid with stage := .settled, paidAt := some paidAt }, [])
    | .paid => (s, [])
    | .failed | .expired =>
      (s.reject ("settlement arrived for " ++ s.paymentStatus.name ++ " payment"), [])
  | .invoiceExpired t =>
    if s.paymentStatus ≠ .pending then (s, [])
    else
      ({ s.setStatus .expired with
          stage := .failed, failureReason := some ("invoice expired at " ++ t.inMessage) }, [])
  | .retryRequested =>
    if s.paymentStatus.isRetryable then
      ({ s.setStatus .pending with
          stage := .notStarted, failureReason := none, lastError := none, context := none }, [])
    else (s.reject ("cannot retry payment in status " ++ s.paymentStatus.name), [])

end Lifecycle

end BoxOffice
