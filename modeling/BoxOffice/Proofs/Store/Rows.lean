import BoxOffice.Proofs.Store.Coherence

/-! The order of rows. A row that is not looked up by its key is the first that fits, and which is
first may change from one look-up to the next. What agrees in one order agrees in any other. -/

namespace BoxOffice

namespace Table

variable {κ ν : Type} {t u : Table κ ν} {k : κ} {v : ν}

/-- The tables have the same rows, in any order. -/
abbrev SameRows (t u : Table κ ν) : Prop := t.rows.Perm u.rows

theorem SameRows.values (h : t.SameRows u) : t.values.Perm u.values := h.map _

variable [DecidableEq κ]

theorem find?_eq_some : t.find? k = some v ↔ (k, v) ∈ t.rows :=
  ⟨mem_of_lookupRow, lookupRow_of_mem t.nodup⟩

theorem SameRows.find? (h : t.SameRows u) (k : κ) : t.find? k = u.find? k := by
  ext v
  rw [find?_eq_some, find?_eq_some, h.mem_iff]

end Table

namespace Store

variable {s s' : Store}

/-- The stores have the same rows, each table in any order. -/
structure SameRows (s s' : Store) : Prop where
  events : s.events.SameRows s'.events
  tickets : s.tickets.SameRows s'.tickets
  payments : s.payments.SameRows s'.payments
  invoices : s.invoices.SameRows s'.invoices
  credentials : s.credentials.SameRows s'.credentials

instance (s s' : Store) : Decidable (s.SameRows s') :=
  decidable_of_iff (s.events.SameRows s'.events ∧ s.tickets.SameRows s'.tickets ∧
      s.payments.SameRows s'.payments ∧ s.invoices.SameRows s'.invoices ∧
      s.credentials.SameRows s'.credentials)
    ⟨fun ⟨he, ht, hp, hi, hc⟩ => ⟨he, ht, hp, hi, hc⟩, fun ⟨he, ht, hp, hi, hc⟩ =>
      ⟨he, ht, hp, hi, hc⟩⟩

namespace SameRows

theorem refl (s : Store) : s.SameRows s := ⟨.refl _, .refl _, .refl _, .refl _, .refl _⟩

theorem trans {s'' : Store} (h : s.SameRows s') (h' : s'.SameRows s'') : s.SameRows s'' :=
  ⟨h.events.trans h'.events, h.tickets.trans h'.tickets, h.payments.trans h'.payments,
    h.invoices.trans h'.invoices, h.credentials.trans h'.credentials⟩

theorem coherent (h : s.SameRows s') (hs : s.Coherent) : s'.Coherent := by
  obtain ⟨hevents, htickets, hpayments, hinvoices, -⟩ := h
  constructor
  case event_key => exact fun k v hv => hs.event_key ((hevents.find? k).trans hv)
  case ticket_key => exact fun k v hv => hs.ticket_key ((htickets.find? k).trans hv)
  case payment_key => exact fun k v hv => hs.payment_key ((hpayments.find? k).trans hv)
  all_goals simp only [← hevents.find?, ← htickets.find?, ← hpayments.find?, ← hinvoices.find?]
  case event_of_ticket => exact hs.event_of_ticket
  case records => exact hs.records
  case single => exact hs.single
  case payment_of_ticket => exact hs.payment_of_ticket
  case payment_of_invoice => exact hs.payment_of_invoice

theorem paymentForTicket (h : s.SameRows s') (hs : s.Coherent) (k : TicketId) :
    s.paymentForTicket k = s'.paymentForTicket k := by
  ext p
  rw [hs.paymentForTicket_iff, (h.coherent hs).paymentForTicket_iff, h.payments.find?]

end SameRows

/-- The rows as they stand in the other store, if it has the same. -/
def reordered (s order : Store) : Store := if s.SameRows order then order else s

theorem sameRows_reordered (s order : Store) : s.SameRows (s.reordered order) := by
  unfold reordered
  split
  · assumption
  · exact .refl s

end Store

end BoxOffice
