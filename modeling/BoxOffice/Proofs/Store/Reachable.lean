import BoxOffice.Proofs.Store.Outcome
import BoxOffice.Proofs.Store.Rows

/-! The records of every store that calls lead to. -/

namespace BoxOffice.Store

/-- Stores that calls lead to from the empty one, whatever the replies, as long as new records get
names that are not in use. The rows may come in another order before each call. -/
inductive Reachable : Store → Prop
  | empty : Reachable .empty
  | call {s : Store} (h : Reachable s) (c : Call) (fresh : c.Fresh s) : Reachable (s.perform c).2
  | reordered {s s' : Store} (h : Reachable s) (same : s.SameRows s') : Reachable s'

theorem Reachable.coherent {s : Store} (h : Reachable s) : s.Coherent := by
  induction h with
  | empty => exact coherent_empty
  | call _ c fresh ih => exact (perform_outcome ih c).coherent ih fresh
  | reordered _ same ih => exact same.coherent ih

/-- What the tables say of one another, as a reader of the store relies on it. -/
structure Consistent (s : Store) : Prop where
  /-- A ticket has at most one payment. -/
  single {i j : PaymentId} {p q : Payment} : s.payments.find? i = some p →
    s.payments.find? j = some q → p.ticketId = q.ticketId → i = j
  follows {id : PaymentId} {p : Payment} : s.payments.find? id = some p →
    ∃ t, s.tickets.find? p.ticketId = some t ∧ t.status = p.status.ticketStatus ∧
      t.paidAt = p.paidAt
  paid {id : PaymentId} {p : Payment} : s.payments.find? id = some p →
    (p.paidAt.isSome ↔ p.status = .paid)
  /-- A ticket has a payment if it has an invoice, and only then. -/
  payment_iff {k : TicketId} {t : Ticket} : s.tickets.find? k = some t →
    ((s.paymentForTicket k).isSome ↔ (s.invoices.find? k).isSome)
  invoice_iff {k : TicketId} {t : Ticket} : s.tickets.find? k = some t →
    ((s.invoices.find? k).isSome ↔ t.status ≠ .free)
  invoice {id : PaymentId} {p : Payment} : s.payments.find? id = some p →
    ∃ t i, s.tickets.find? p.ticketId = some t ∧ s.invoices.find? p.ticketId = some i ∧
      i.encoded = p.invoice ∧ i.amount = p.amount ∧ t.invoiceId = some i.id

theorem Coherent.isSome_paymentForTicket {s : Store} (hs : s.Coherent) {k : TicketId} :
    (s.paymentForTicket k).isSome ↔ ∃ id p, s.payments.find? id = some p ∧ p.ticketId = k := by
  rw [Option.isSome_iff_exists]
  constructor
  · rintro ⟨p, hp⟩
    exact ⟨p.id, p, hs.paymentForTicket_iff.1 hp⟩
  · rintro ⟨id, p, hp, rfl⟩
    exact ⟨p, hs.paymentForTicket_eq hp⟩

theorem Coherent.invoice_of_payment {s : Store} (hs : s.Coherent) {id : PaymentId} {p : Payment}
    (hp : s.payments.find? id = some p) : (s.invoices.find? p.ticketId).isSome := by
  obtain ⟨_, i, _, hi, _⟩ := hs.records hp
  rw [hi, Option.isSome_some]

theorem Reachable.consistent {s : Store} (h : Reachable s) : s.Consistent := by
  have hs := h.coherent
  have hpay : ∀ {k}, (s.invoices.find? k).isSome →
      ∃ id p, s.payments.find? id = some p ∧ p.ticketId = k := by
    intro k hk
    obtain ⟨i, hi⟩ := Option.isSome_iff_exists.1 hk
    exact hs.payment_of_invoice hi
  constructor
  case single => exact hs.single
  case follows =>
    intro id p hp
    obtain ⟨t, _, ht, _, ha⟩ := hs.records hp
    exact ⟨t, ht, ha.status, ha.paidAt⟩
  case paid =>
    intro id p hp
    obtain ⟨_, _, _, _, ha⟩ := hs.records hp
    exact ha.paid
  case payment_iff =>
    intro k t _
    rw [hs.isSome_paymentForTicket]
    refine ⟨?_, hpay⟩
    rintro ⟨id, p, hp, rfl⟩
    exact hs.invoice_of_payment hp
  case invoice_iff =>
    intro k t ht
    constructor
    · intro hk
      obtain ⟨id, p, hp, rfl⟩ := hpay hk
      obtain ⟨t', _, ht', _, ha⟩ := hs.records hp
      cases ht.symm.trans ht'
      rw [ha.status]
      cases p.status <;> simp [PaymentStatus.ticketStatus]
    · intro hfree
      obtain ⟨id, p, hp, rfl⟩ := hs.payment_of_ticket ht hfree
      exact hs.invoice_of_payment hp
  case invoice =>
    intro id p hp
    obtain ⟨t, i, ht, hi, ha⟩ := hs.records hp
    exact ⟨t, i, ht, hi, ha.encoded, ha.amount, ha.name⟩

/-- A sale whose payment fails and gets a fresh invoice. -/
theorem consistent_soldAgain : ∃ s : Store,
    (s.payments.values.map fun p => (p.status, p.invoice)) = [(.pending, "b")] ∧ s.Consistent := by
  let invoice (encoded : String) : Invoice := ⟨"", ⟨⟨2⟩⟩, "", encoded, ⟨5⟩, default, "", ""⟩
  have put := Reachable.empty.call
    (.putEvent ⟨⟨⟨1⟩⟩, "", default, default, 1, ⟨5⟩, true⟩) trivial
  have sold := put.call (.createPurchase
    ⟨⟨⟨2⟩⟩, ⟨⟨1⟩⟩, default, ⟨"C"⟩, none, some (invoice "a"), default⟩ ⟨⟨3⟩⟩) ⟨rfl, fun _ => rfl⟩
  have failed := sold.call (.applyTransition ⟨⟨2⟩⟩ ⟨.pending, .failed, default⟩) trivial
  have again := failed.call (.reissue ⟨⟨3⟩⟩ (invoice "b")) trivial
  exact ⟨_, by decide +kernel, again.consistent⟩

end BoxOffice.Store
