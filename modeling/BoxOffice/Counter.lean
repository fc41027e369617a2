import BoxOffice.Status

/-! The counters of the box office and their labels. -/

namespace BoxOffice

inductive PurchaseKind where
  | free
  | priced
  /-- Refused before anything was stored. -/
  | rejected
deriving DecidableEq

inductive DispatchPath where
  | wallet
  | push
deriving DecidableEq

/-- What became of a notification, as it is counted. -/
inductive WebhookResult where
  | settled
  | duplicate
  | rejectedState
  | unmatched
  | ignored
  /-- The signature is missing or wrong. -/
  | rejected
  | error
deriving DecidableEq

inductive Counter where
  | purchases (kind : PurchaseKind)
  /-- A change of status that was stored, by the status that results. -/
  | payments (status : PaymentStatus)
  | dispatches (path : DispatchPath) (succeeded : Bool)
  | webhooks (result : WebhookResult)
deriving DecidableEq

def PurchaseKind.label : PurchaseKind → String
  | .free => "free"
  | .priced => "priced"
  | .rejected => "rejected"

def DispatchPath.label : DispatchPath → String
  | .wallet => "wallet"
  | .push => "push"

def WebhookResult.label : WebhookResult → String
  | .settled => "settled"
  | .duplicate => "duplicate"
  | .rejectedState => "rejected_state"
  | .unmatched => "unmatched"
  | .ignored => "ignored"
  | .rejected => "rejected"
  | .error => "error"

namespace Counter

def family : Counter → String
  | .purchases _ => "uma_tickets_purchases_total"
  | .payments _ => "uma_tickets_payments_total"
  | .dispatches _ _ => "uma_tickets_dispatch_total"
  | .webhooks _ => "uma_tickets_webhooks_total"

def help : Counter → String
  | .purchases _ => "Total purchases by kind (free, priced, rejected)"
  | .payments _ => "Total payment status transitions by resulting status"
  | .dispatches _ _ => "Total payment dispatch attempts by path (wallet, push) and outcome"
  | .webhooks _ => "Total settlement notifications by outcome"

def labels : Counter → List (String × String)
  | .purchases kind => [("kind", kind.label)]
  | .payments status => [("status", if status = .pending then "retried" else status.name)]
  | .dispatches path succeeded =>
    [("path", path.label), ("outcome", if succeeded then "succeeded" else "failed")]
  | .webhooks result => [("outcome", result.label)]

/-- The family with the labels in braces. -/
def name (c : Counter) : String :=
  c.family ++ "\x7b" ++
    String.intercalate "," (c.labels.map fun (k, v) => k ++ "=\"" ++ v ++ "\"") ++ "\x7d"

end Counter

end BoxOffice
