import BoxOffice.Proofs.Store.Invoices

/-! A store by the calls that led to it. The invoice of a ticket is the one that was issued for it
last: with the ticket, or in place of one that came to nothing. -/

namespace BoxOffice.Store

/-- The store that calls lead to from the empty one, the latest call first. -/
def ofCalls : List Call → Store
  | [] => .empty
  | c :: earlier => ((ofCalls earlier).perform c).2

/-- The names that each call brings in were not in use before it. -/
def FreshCalls : List Call → Prop
  | [] => True
  | c :: earlier => c.Fresh (ofCalls earlier) ∧ FreshCalls earlier

theorem reachable_ofCalls {cs : List Call} (hcs : FreshCalls cs) : (ofCalls cs).Reachable := by
  induction cs with
  | nil => exact .empty
  | cons c earlier ih => exact (ih hcs.2).call c hcs.1

/-! ### Invoices -/

/-- The invoice that a call with this reply issued for a ticket. -/
def Call.issued? (k : TicketId) : (c : Call) → Except StoreError c.Reply → Option Invoice
  | .createPurchase n _, .ok _ => if n.ticketId = k then n.invoice else none
  | .reissue _ i, .ok (p : Payment) => if p.ticketId = k then some i else none
  | _, _ => none

/-- The invoice that calls issued last for a ticket, the latest call first. -/
def lastIssued (k : TicketId) : List Call → Option Invoice
  | [] => none
  | c :: earlier => (c.issued? k ((ofCalls earlier).perform c).1).or (lastIssued k earlier)

theorem Call.issued?_kept {k : TicketId} {c : Call} {x : Except StoreError c.Reply}
    (hx : c.writes x = false) : c.issued? k x = none := by
  cases c with
  | createPurchase n id => cases x <;> first | rfl | cases hx
  | reissue id i => cases x <;> first | rfl | cases hx
  | _ => rfl

/-- A ticket keeps its invoice unless one is issued for it. -/
theorem Outcome.find?_invoices {s s' : Store} {c : Call} {x : Except StoreError c.Reply}
    (h : Outcome s c x s') (k : TicketId) :
    s'.invoices.find? k = (c.issued? k x).or (s.invoices.find? k) := by
  cases h with
  | kept hx => rw [Call.issued?_kept hx, Option.none_or]
  | eventPut => rfl
  | credentialPut => rfl
  | @created n id =>
    cases hi : n.invoice with
    | none => simp [adding, Call.issued?, hi]
    | some i =>
      simp only [adding, Call.issued?, hi, Table.find?_set]
      split <;> rfl
  | applied _ hk _ hi =>
    subst hk
    exact congrArg (Table.find? · k) (Table.set_of_find hi)
  | @reissued p _ _ i =>
    simp only [update, renewed, Call.issued?, Table.find?_set]
    by_cases hk : p.ticketId = k <;>
      simp only [hk, if_true, if_false, Option.some_or, Option.none_or]
  | recorded _ _ hi => exact congrArg (Table.find? · k) (Table.set_of_find hi)

theorem find?_invoices_ofCalls {cs : List Call} (hcs : FreshCalls cs) (k : TicketId) :
    (ofCalls cs).invoices.find? k = lastIssued k cs := by
  induction cs with
  | nil => rfl
  | cons c earlier ih =>
    have hs := (reachable_ofCalls hcs.2).coherent
    rw [ofCalls, (perform_outcome hs c).find?_invoices, ih hcs.2, lastIssued]

/-! ### A history to look at -/

/-- The payment of the second of two sales fails, and gets a fresh invoice. -/
def soldAgain : List Call := [
  .reissue ⟨⟨3⟩⟩ (saleInvoice "c"),
  .applyTransition ⟨⟨3⟩⟩ ⟨.pending, .failed, default⟩,
  saleCall ⟨3⟩ "b",
  saleCall ⟨2⟩ "a",
  .putEvent saleEvent]

theorem soldAgain_fresh : FreshCalls soldAgain :=
  ⟨trivial, trivial, ⟨rfl, fun _ => rfl⟩, ⟨rfl, fun _ => rfl⟩, trivial, trivial⟩

example : lastIssued ⟨⟨3⟩⟩ soldAgain = some (saleInvoice "c") := by decide

end BoxOffice.Store
