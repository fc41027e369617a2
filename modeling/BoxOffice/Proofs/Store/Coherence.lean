import BoxOffice.Store.Operations

/-! What the records of a store have to do with one another. The same facts about a payment stand
in three tables: the payment has a ticket and an invoice under that ticket, and status, time of
payment, amount and encoded invoice agree. A store changes by an update of the three records of one
payment together, or by the addition of a ticket that was not there; both keep this. -/

namespace BoxOffice

namespace Table

variable {κ ν : Type} [DecidableEq κ]

theorem modify_of_find {t : Table κ ν} {k : κ} {v : ν} (h : t.find? k = some v) (f : ν → ν) :
    t.modify k f = t.set k (f v) := by
  simp only [modify, h]

theorem set_of_find {t : Table κ ν} {k : κ} {v : ν} (h : t.find? k = some v) : t.set k v = t := by
  obtain ⟨rows, nodup⟩ := t
  simp only [find?] at h
  simp only [set, Table.mk.injEq]
  clear nodup
  induction rows with
  | nil => cases h
  | cons r rest ih =>
    obtain ⟨a, b⟩ := r
    by_cases hak : a = k
    · subst hak
      simp only [lookupRow, if_true, Option.some.injEq] at h
      simp [setRow, h]
    · simp only [lookupRow, hak, if_false] at h
      simp [setRow, hak, ih h]

theorem find?_set_self (t : Table κ ν) (k : κ) (v : ν) : (t.set k v).find? k = some v := by
  rw [find?_set, if_pos rfl]

theorem find?_set_ne (t : Table κ ν) {k k' : κ} (h : k ≠ k') (v : ν) :
    (t.set k v).find? k' = t.find? k' := by
  rw [find?_set, if_neg h]

/-- What is to hold of every row holds of the one that is set, and of the others as before. -/
@[elab_as_elim]
theorem forall_set {P : κ → ν → Prop} {t : Table κ ν} {k : κ} {v : ν} (hv : P k v)
    (h : ∀ {k' v'}, k ≠ k' → t.find? k' = some v' → P k' v') {k' : κ} {v' : ν}
    (hset : (t.set k v).find? k' = some v') : P k' v' := by
  rw [find?_set] at hset
  split at hset
  · next hk =>
    cases hset
    exact hk ▸ hv
  · next hk => exact h hk hset

/-- No two rows agree in a respect if none did before and no other agrees with the one that is
set. -/
theorem unique_set {α : Type} {f : ν → α} {t : Table κ ν} {k : κ} {v : ν}
    (hunique : ∀ {i j p q}, t.find? i = some p → t.find? j = some q → f p = f q → i = j)
    (hv : ∀ {i q}, k ≠ i → t.find? i = some q → f v ≠ f q) {i j : κ} {p q : ν}
    (hp : (t.set k v).find? i = some p) (hq : (t.set k v).find? j = some q) (hf : f p = f q) :
    i = j := by
  rw [find?_set] at hp hq
  split at hp <;> split at hq
  · next hi hj => exact hi.symm.trans hj
  · next hne =>
    cases hp
    exact absurd hf (hv hne hq)
  · next hne _ =>
    cases hq
    exact absurd hf.symm (hv hne hp)
  · exact hunique hp hq hf

/-- Every row stands under the key that it carries itself. -/
def Keyed (key : ν → κ) (t : Table κ ν) : Prop := ∀ ⦃k v⦄, t.find? k = some v → key v = k

theorem Keyed.set {key : ν → κ} {t : Table κ ν} (h : t.Keyed key) {k : κ} {v : ν}
    (hv : key v = k) : (t.set k v).Keyed key := by
  intro k' v' hrow
  exact forall_set hv (fun _ hrow => h hrow) hrow

end Table

namespace Store

/-- A payment, its ticket and the invoice under that ticket say the same. -/
structure Agree (p : Payment) (t : Ticket) (i : Invoice) : Prop where
  status : t.status = p.status.ticketStatus
  paidAt : t.paidAt = p.paidAt
  paid : p.paidAt.isSome ↔ p.status = .paid
  encoded : i.encoded = p.invoice
  amount : i.amount = p.amount
  name : t.invoiceId = some i.id

structure Coherent (s : Store) : Prop where
  event_key : s.events.Keyed Event.id
  ticket_key : s.tickets.Keyed Ticket.id
  payment_key : s.payments.Keyed Payment.id
  event_of_ticket {k : TicketId} {t : Ticket} :
    s.tickets.find? k = some t → ∃ e, s.events.find? t.eventId = some e
  records {id : PaymentId} {p : Payment} : s.payments.find? id = some p →
    ∃ t i, s.tickets.find? p.ticketId = some t ∧ s.invoices.find? p.ticketId = some i ∧ Agree p t i
  /-- A ticket has at most one payment. -/
  single {i j : PaymentId} {p q : Payment} : s.payments.find? i = some p →
    s.payments.find? j = some q → p.ticketId = q.ticketId → i = j
  payment_of_ticket {k : TicketId} {t : Ticket} : s.tickets.find? k = some t → t.status ≠ .free →
    ∃ id p, s.payments.find? id = some p ∧ p.ticketId = k
  payment_of_invoice {k : TicketId} {i : Invoice} : s.invoices.find? k = some i →
    ∃ id p, s.payments.find? id = some p ∧ p.ticketId = k

theorem coherent_empty : Coherent .empty := by
  constructor <;> simp [empty, Table.Keyed]

/-! ### Look-ups -/

namespace Coherent

variable {s : Store}

theorem paymentForTicket_iff (hs : s.Coherent) {k : TicketId} {p : Payment} :
    s.paymentForTicket k = some p ↔ s.payments.find? p.id = some p ∧ p.ticketId = k := by
  constructor
  · intro h
    obtain ⟨id, hp⟩ := Table.mem_values.1 (List.mem_of_find?_eq_some h)
    refine ⟨?_, by simpa using List.find?_some h⟩
    rwa [hs.payment_key hp]
  · rintro ⟨hp, rfl⟩
    have hsome : (s.paymentForTicket p.ticketId).isSome := by
      rw [paymentForTicket, List.find?_isSome]
      exact ⟨p, Table.mem_values.2 ⟨_, hp⟩, by simp⟩
    obtain ⟨q, hq⟩ := Option.isSome_iff_exists.1 hsome
    obtain ⟨id, hid⟩ := Table.mem_values.1 (List.mem_of_find?_eq_some hq)
    have hk : q.ticketId = p.ticketId := by simpa using List.find?_some hq
    have : id = p.id := hs.single hid hp hk
    rw [hq, ← hid, this, hp]

theorem paymentForTicket_eq (hs : s.Coherent) {id : PaymentId} {p : Payment}
    (h : s.payments.find? id = some p) : s.paymentForTicket p.ticketId = some p := by
  rw [hs.paymentForTicket_iff, hs.payment_key h]
  exact ⟨h, rfl⟩

end Coherent

theorem find?_of_paymentByInvoice {s : Store} {encoded : String} {p : Payment}
    (h : s.paymentByInvoice encoded = some p) :
    (∃ id, s.payments.find? id = some p) ∧ p.invoice = encoded :=
  ⟨Table.mem_values.1 (List.mem_of_find?_eq_some h), by simpa using List.find?_some h⟩

/-! ### Updates -/

/-- The store with the three records of one payment replaced. -/
def update (s : Store) (p : Payment) (t : Ticket) (i : Invoice) : Store :=
  { s with
    payments := s.payments.set p.id p
    tickets := s.tickets.set p.ticketId t
    invoices := s.invoices.set p.ticketId i }

/-- Three records that may replace those of a payment `p` with ticket `t`. -/
structure Replaces (p : Payment) (t : Ticket) (p' : Payment) (t' : Ticket) (i' : Invoice) :
    Prop where
  payment_id : p'.id = p.id
  ticketId : p'.ticketId = p.ticketId
  ticket_id : t'.id = t.id
  eventId : t'.eventId = t.eventId
  agree : Agree p' t' i'

/-- A payment that is set leaves each ticket its payment, if it stands where none was or where one
of its ticket was. -/
theorem payment_of_set {payments : Table PaymentId Payment} {id : PaymentId} {p : Payment}
    (hp : ∀ q, payments.find? id = some q → q.ticketId = p.ticketId) {k : TicketId}
    (h : ∃ id q, payments.find? id = some q ∧ q.ticketId = k) :
    ∃ id' q, (payments.set id p).find? id' = some q ∧ q.ticketId = k := by
  obtain ⟨id', q, hq, rfl⟩ := h
  by_cases hid : id = id'
  · subst hid
    exact ⟨id, p, Table.find?_set_self .., (hp q hq).symm⟩
  · exact ⟨id', q, (Table.find?_set_ne _ hid _).trans hq, rfl⟩

theorem Coherent.update {s : Store} (hs : s.Coherent) {p p' : Payment} {t t' : Ticket}
    {i' : Invoice} (hp : s.payments.find? p.id = some p) (ht : s.tickets.find? p.ticketId = some t)
    (h : Replaces p t p' t' i') : (s.update p' t' i').Coherent := by
  obtain ⟨hid, hk, htid, hev, ha⟩ := h
  -- a payment other than `p` has another ticket, so its three records stay
  have hother : ∀ {id q}, p.id ≠ id → s.payments.find? id = some q → p.ticketId ≠ q.ticketId :=
    fun hne hq he => hne (hs.single hp hq he)
  have hpays : ∀ {k}, (∃ id q, s.payments.find? id = some q ∧ q.ticketId = k) →
      ∃ id q, (s.payments.set p.id p').find? id = some q ∧ q.ticketId = k := by
    refine payment_of_set fun q hq => ?_
    cases hp.symm.trans hq
    exact hk.symm
  simp only [Store.update, hid, hk]
  constructor
  case event_key => exact hs.event_key
  case ticket_key => exact hs.ticket_key.set (htid.trans (hs.ticket_key ht))
  case payment_key => exact hs.payment_key.set hid
  case event_of_ticket =>
    exact Table.forall_set (hev ▸ hs.event_of_ticket ht) fun _ => hs.event_of_ticket
  case records =>
    intro id q hset
    refine Table.forall_set ?_ (fun {id q} hne hq => ?_) hset
    · exact ⟨t', i', hk ▸ Table.find?_set_self .., hk ▸ Table.find?_set_self .., ha⟩
    · obtain ⟨u, j, hu, hj, hag⟩ := hs.records hq
      have hne := hother hne hq
      exact ⟨u, j, (Table.find?_set_ne _ hne _).trans hu, (Table.find?_set_ne _ hne _).trans hj, hag⟩
  case single => exact Table.unique_set hs.single fun hne hq => hk ▸ hother hne hq
  case payment_of_ticket =>
    exact Table.forall_set (fun _ => hpays ⟨p.id, p, hp, rfl⟩)
      fun _ hu hfree => hpays (hs.payment_of_ticket hu hfree)
  case payment_of_invoice =>
    exact Table.forall_set (hpays ⟨p.id, p, hp, rfl⟩) fun _ hj => hpays (hs.payment_of_invoice hj)

/-! ### Additions -/

/-- The store with a ticket added, and a payment and an invoice if it has one. -/
def adding (s : Store) (n : NewPurchase) (id : PaymentId) : Store :=
  { s with
    tickets := s.tickets.set n.ticketId n.ticket
    payments := match n.payment id with
      | some p => s.payments.set p.id p
      | none => s.payments
    invoices := match n.invoice with
      | some i => s.invoices.set n.ticketId i
      | none => s.invoices }

/-- The names are not in use: that of the ticket, and that of the payment if there is one. -/
structure Unused (s : Store) (n : NewPurchase) (id : PaymentId) : Prop where
  ticket : s.tickets.find? n.ticketId = none
  payment : n.invoice.isSome → s.payments.find? id = none

theorem Coherent.ticketId_ne {s : Store} (hs : s.Coherent) {k : TicketId}
    (hk : s.tickets.find? k = none) {id : PaymentId} {p : Payment}
    (hp : s.payments.find? id = some p) : k ≠ p.ticketId := by
  rintro rfl
  obtain ⟨t, _, ht, _⟩ := hs.records hp
  cases hk.symm.trans ht

/-- A ticket that was not there leaves the records of the payments as they are. -/
theorem Coherent.records_setTicket {s : Store} (hs : s.Coherent) {k : TicketId} {t : Ticket}
    (hk : s.tickets.find? k = none) {id : PaymentId} {p : Payment}
    (hp : s.payments.find? id = some p) : ∃ u i, (s.tickets.set k t).find? p.ticketId = some u ∧
      s.invoices.find? p.ticketId = some i ∧ Agree p u i := by
  obtain ⟨u, i, hu, hi, ha⟩ := hs.records hp
  exact ⟨u, i, (Table.find?_set_ne _ (hs.ticketId_ne hk hp) _).trans hu, hi, ha⟩

theorem Coherent.adding_free {s : Store} (hs : s.Coherent) {n : NewPurchase} {id : PaymentId}
    {e : Event} (he : s.events.find? n.eventId = some e) (hn : s.Unused n id)
    (hfree : n.invoice = none) : (s.adding n id).Coherent := by
  simp only [Store.adding, NewPurchase.payment, hfree, Option.map_none]
  constructor
  case event_key => exact hs.event_key
  case ticket_key => exact hs.ticket_key.set rfl
  case payment_key => exact hs.payment_key
  case event_of_ticket =>
    exact Table.forall_set ⟨e, he⟩ fun _ => hs.event_of_ticket
  case records => exact hs.records_setTicket hn.ticket
  case single => exact hs.single
  case payment_of_ticket =>
    refine Table.forall_set (fun hne => absurd ?_ hne) fun _ => hs.payment_of_ticket
    simp only [NewPurchase.ticket, hfree, Option.isSome_none, Bool.false_eq_true, if_false]
  case payment_of_invoice => exact hs.payment_of_invoice

theorem Coherent.adding_priced {s : Store} (hs : s.Coherent) {n : NewPurchase} {id : PaymentId}
    {e : Event} (he : s.events.find? n.eventId = some e) (hn : s.Unused n id) {i : Invoice}
    (hpriced : n.invoice = some i) : (s.adding n id).Coherent := by
  have hnone : s.payments.find? id = none := hn.payment (by rw [hpriced]; rfl)
  have hold := fun {id q} (hq : s.payments.find? id = some q) => hs.ticketId_ne hn.ticket hq
  have hpays : ∀ {p k}, (∃ id q, s.payments.find? id = some q ∧ q.ticketId = k) →
      ∃ id' q, (s.payments.set id p).find? id' = some q ∧ q.ticketId = k :=
    payment_of_set fun q hq => nomatch hnone.symm.trans hq
  simp only [Store.adding, NewPurchase.payment, hpriced, Option.map_some]
  constructor
  case event_key => exact hs.event_key
  case ticket_key => exact hs.ticket_key.set rfl
  case payment_key => exact hs.payment_key.set rfl
  case event_of_ticket => exact Table.forall_set ⟨e, he⟩ fun _ => hs.event_of_ticket
  case records =>
    intro id' q hset
    refine Table.forall_set ?_ (fun _ hq => ?_) hset
    · refine ⟨n.ticket, i, Table.find?_set_self .., Table.find?_set_self .., ?_⟩
      constructor <;> simp [NewPurchase.ticket, hpriced, PaymentStatus.ticketStatus]
    · obtain ⟨u, j, hu, hj, ha⟩ := hs.records_setTicket hn.ticket hq
      exact ⟨u, j, hu, (Table.find?_set_ne _ (hold hq) _).trans hj, ha⟩
  case single => exact Table.unique_set hs.single fun _ hq => hold hq
  case payment_of_ticket =>
    exact Table.forall_set (fun _ => ⟨id, _, Table.find?_set_self .., rfl⟩)
      fun _ hu hfree => hpays (hs.payment_of_ticket hu hfree)
  case payment_of_invoice =>
    exact Table.forall_set ⟨id, _, Table.find?_set_self .., rfl⟩
      fun _ hj => hpays (hs.payment_of_invoice hj)

theorem Coherent.adding {s : Store} (hs : s.Coherent) {n : NewPurchase} {id : PaymentId}
    {e : Event} (he : s.events.find? n.eventId = some e) (hn : s.Unused n id) :
    (s.adding n id).Coherent := by
  cases hi : n.invoice with
  | none => exact hs.adding_free he hn hi
  | some i => exact hs.adding_priced he hn hi

end Store

end BoxOffice
