import BoxOffice.Service.Routing

/-! Sweeping: pending payments whose invoice has expired are closed. Nothing else closes them for
that reason. -/

namespace BoxOffice.Service

/-- Close the listed payments one by one; a failure with one does not stop the others. Gives the
number closed. -/
def expireAll (setup : Setup) (now : Time.Instant) : List Payment → Program Nat
  | [] => .pure 0
  | payment :: rest =>
    (apply setup payment.ticketId (.invoiceExpired now)).run.bind fun result =>
      let closed := match result with
        | .ok outcome => if outcome.persisted then 1 else 0
        | .error _ => 0
      (expireAll setup now rest).bind fun more => .pure (closed + more)

/-- Close every pending payment whose invoice has expired. -/
def sweep (setup : Setup) : ExceptT StoreError Program Nat := do
  let now ← Program.now
  let candidates ← Program.store (.expiredPending now)
  expireAll setup now candidates

end BoxOffice.Service
