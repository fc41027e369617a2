import BoxOffice.Store.Call

/-! The kinds of calls to the store. -/

namespace BoxOffice.Store

inductive Method where
  | putEvent
  | event
  | heldCount
  | ticket
  | payment
  | paymentForTicket
  | invoiceForTicket
  | paymentByInvoice
  | oldestPending
  | expiredPending
  | createPurchase
  | applyTransition
  | reissue
  | recordCallback
  | credential
  | putCredential
deriving DecidableEq

def Call.method : Call → Method
  | .putEvent _ => .putEvent
  | .event _ => .event
  | .heldCount _ => .heldCount
  | .ticket _ => .ticket
  | .payment _ => .payment
  | .paymentForTicket _ => .paymentForTicket
  | .invoiceForTicket _ => .invoiceForTicket
  | .paymentByInvoice _ => .paymentByInvoice
  | .oldestPending _ => .oldestPending
  | .expiredPending _ => .expiredPending
  | .createPurchase _ _ => .createPurchase
  | .applyTransition _ _ => .applyTransition
  | .reissue _ _ => .reissue
  | .recordCallback _ _ => .recordCallback
  | .credential _ => .credential
  | .putCredential _ => .putCredential

end BoxOffice.Store
