import BoxOffice.Script.Field
import BoxOffice.Service.Routing

/-! Lifecycles, their actions and what routes them, as scripts write them. -/

namespace BoxOffice.Script

def dispatchContext (j : Json) : Reads DispatchContext := do
  return {
    ticketId := ⟨← uuid j "ticket_id"⟩
    buyer := ← address j "buyer"
    invoice := ← text j "invoice"
    amount := ⟨← number j "amount"⟩
    expiresAt := ← instant j "expires_at"
    callbackUrl := ← text j "callback_url"
    description := ← text j "description"
    credential := ← wantOption WalletCredential.ofJson j "credential" }

def lifecycleAction (j : Json) : Reads LifecycleAction := do
  match ← text j "type" with
  | "Dispatch" => return .dispatch (← dispatchContext (← given j "context"))
  | "WalletPaid" => return .walletPaid
  | "WalletFailed" => return .walletFailed (← text j "reason")
  | "PushDelivered" => return .pushDelivered
  | "PushFailed" => return .pushFailed (← text j "reason")
  | "SettlementMatched" => return .settlementMatched (← instant j "paid_at")
  | "InvoiceExpired" => return .invoiceExpired (← instant j "at")
  | "RetryRequested" => return .retryRequested
  | _ => throw "type"

/-- What a dispatch is for is not shown again. -/
def actionJson : LifecycleAction → Json
  | .dispatch _ => .object [("type", .string "Dispatch")]
  | .walletPaid => .object [("type", .string "WalletPaid")]
  | .walletFailed reason => .object [("type", .string "WalletFailed"), ("reason", .string reason)]
  | .pushDelivered => .object [("type", .string "PushDelivered")]
  | .pushFailed reason => .object [("type", .string "PushFailed"), ("reason", .string reason)]
  | .settlementMatched t =>
    .object [("type", .string "SettlementMatched"), ("paid_at", .string t.toString)]
  | .invoiceExpired t => .object [("type", .string "InvoiceExpired"), ("at", .string t.toString)]
  | .retryRequested => .object [("type", .string "RetryRequested")]

/-- The lifecycle of a purchase just made, or the one that statuses stand for once they are
stored. A stage that is given counts before the one that follows from them. -/
def lifecycle (j : Json) : Reads Lifecycle := do
  let id : TicketId := ⟨← uuid j "ticket_id"⟩
  let ticketStatus ← wantOption (Json.asParsed TicketStatus.ofName?) j "ticket_status"
  let paymentStatus ← wantOption (Json.asParsed PaymentStatus.ofName?) j "payment_status"
  let paidAt ← wantOption Json.asInstant j "paid_at"
  let stage ← wantOption (Json.asParsed Stage.ofName?) j "stage"
  let s : Lifecycle :=
    if ticketStatus.isNone ∧ paymentStatus.isNone then .pending id
    else
      let status := paymentStatus.getD .pending
      { Lifecycle.pending id with
        ticketStatus := ticketStatus.getD status.ticketStatus
        paymentStatus := status
        stage := .ofStatus status
        paidAt }
  return { s with stage := stage.getD s.stage }

def lifecycleJson (s : Lifecycle) : Json := .object [
  ("ticket_id", .string s.ticketId.toString),
  ("ticket_status", .string s.ticketStatus.name),
  ("payment_status", .string s.paymentStatus.name),
  ("stage", .string s.stage.name),
  ("paid_at", .ofOption (.string ·.toString) s.paidAt),
  ("failure_reason", .ofOption .string s.failureReason),
  ("last_error", .ofOption .string s.lastError),
  ("context_invoice", .ofOption (.string ·.invoice) s.context)]

def outcomeJson (o : Lifecycle.Outcome) : Json := .object [
  ("state", lifecycleJson o.state),
  ("persisted", .bool o.persisted)]

end BoxOffice.Script
