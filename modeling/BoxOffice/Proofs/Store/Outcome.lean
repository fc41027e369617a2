import BoxOffice.Proofs.Store.Coherence
import BoxOffice.Store.Call

/-! What a call can do to a store whose records agree, each kind of change once. All that is proved
of calls later on goes through `perform_outcome`. -/

namespace BoxOffice.Store

/-- Whether a call with this reply changed the store. -/
def Call.writes : (c : Call) → Except StoreError c.Reply → Bool
  | .putEvent _, .ok _ | .putCredential _, .ok _ | .createPurchase _ _, .ok _ => true
  | .applyTransition _ _, .ok stored => stored
  | .reissue _ _, .ok _ | .recordCallback _ _, .ok _ => true
  | _, _ => false

/-- A payment after a change of status. -/
def moved (p : Payment) (tr : Transition) : Payment :=
  { p with status := tr.target, paidAt := tr.paidAt }

/-- A payment with a fresh invoice. -/
def renewed (p : Payment) (i : Invoice) : Payment :=
  { p with
    status := .pending
    invoice := i.encoded
    amount := i.amount
    paidAt := none
    counterpartyCallback := none }

/-- From a store, a call with a reply leads to a store. -/
inductive Outcome (s : Store) : (c : Call) → Except StoreError c.Reply → Store → Prop
  /-- Nothing was written. -/
  | kept {c : Call} {x : Except StoreError c.Reply} (h : c.writes x = false) : Outcome s c x s
  | eventPut (e : Event) :
      Outcome s (.putEvent e) (.ok ()) { s with events := s.events.set e.id e }
  | credentialPut (c : WalletCredential) :
      Outcome s (.putCredential c) (.ok ()) { s with credentials := s.credentials.set c.userId c }
  | created {n : NewPurchase} {id : PaymentId} {e : Event}
      (event : s.events.find? n.eventId = some e) (active : e.active)
      (room : e.hasRoom (s.heldCount e.id))
      (fresh : ∀ i, n.invoice = some i → ∀ p ∈ s.payments.values, p.invoice ≠ i.encoded) :
      Outcome s (.createPurchase n id) (.ok (n.ticket, n.payment id)) (s.adding n id)
  | applied {k : TicketId} {tr : Transition} {p : Payment} {t : Ticket} {i : Invoice}
      (payment : s.payments.find? p.id = some p) (ticketId : p.ticketId = k)
      (ticket : s.tickets.find? k = some t) (invoice : s.invoices.find? k = some i)
      (agree : Agree p t i) (source : p.status = tr.source) :
      Outcome s (.applyTransition k tr) (.ok true)
        (s.update (moved p tr)
          { t with status := tr.target.ticketStatus, paidAt := tr.paidAt } i)
  | reissued {p : Payment} {t : Ticket} {e : Event} {i : Invoice}
      (payment : s.payments.find? p.id = some p) (retryable : p.status.isRetryable)
      (ticket : s.tickets.find? p.ticketId = some t) (event : s.events.find? t.eventId = some e)
      (active : e.active) (room : e.hasRoom (s.heldCount e.id)) :
      Outcome s (.reissue p.id i) (.ok (renewed p i))
        (s.update (renewed p i)
          { t with status := .pending, invoiceId := some i.id, paidAt := none } i)
  | recorded {p : Payment} {t : Ticket} {i : Invoice} {url : String}
      (payment : s.payments.find? p.id = some p) (ticket : s.tickets.find? p.ticketId = some t)
      (invoice : s.invoices.find? p.ticketId = some i) (agree : Agree p t i) :
      Outcome s (.recordCallback p.id url) (.ok ())
        (s.update { p with counterpartyCallback := some url } t i)

variable {s : Store}

theorem openEvent_eq_ok {id : EventId} {e : Event} (h : s.openEvent id = .ok e) :
    s.events.find? id = some e ∧ e.active ∧ e.hasRoom (s.heldCount e.id) := by
  unfold openEvent at h
  split at h
  · cases h
  · next e' he =>
    split at h
    · cases h
    · split at h
      · cases h
      · cases h; simp_all

theorem createPurchase_outcome (n : NewPurchase) (id : PaymentId) :
    Outcome s (.createPurchase n id) (s.perform (.createPurchase n id)).1
      (s.perform (.createPurchase n id)).2 := by
  simp only [perform]
  cases h : s.createPurchase n id with
  | error e => exact .kept rfl
  | ok r =>
    unfold createPurchase at h
    cases he : s.openEvent n.eventId with
    | error _ => simp [he, bind, Except.bind] at h
    | ok e =>
      simp only [he, bind, Except.bind] at h
      split at h
      · cases h
      · split at h
        · cases h
        · next hcode hinv =>
          obtain ⟨hevent, hactive, hroom⟩ := openEvent_eq_ok he
          cases h
          refine .created hevent hactive hroom fun i hi p hp heq => hinv ?_
          simp only [hi, Option.any_some, List.any_eq_true, decide_eq_true_eq]
          exact ⟨p, hp, heq⟩

theorem applyTransition_outcome (hs : s.Coherent) (k : TicketId) (tr : Transition) :
    Outcome s (.applyTransition k tr) (s.perform (.applyTransition k tr)).1
      (s.perform (.applyTransition k tr)).2 := by
  simp only [perform, applyTransition]
  cases h : s.paymentForTicket k with
  | none => exact .kept rfl
  | some p =>
    obtain ⟨hp, rfl⟩ := hs.paymentForTicket_iff.1 h
    obtain ⟨t, i, ht, hi, ha⟩ := hs.records hp
    by_cases hst : p.status = tr.source
    · simp only [hst, ne_eq, not_true, if_false, changed, Table.modify_of_find hp,
        Table.modify_of_find ht]
      have := Outcome.applied hp rfl ht hi ha hst
      simp only [update, moved, Table.set_of_find hi] at this
      exact this
    · simp only [hst, ne_eq, not_false_iff, if_true, changed]
      exact .kept rfl

theorem reissue_outcome (hs : s.Coherent) (id : PaymentId) (i : Invoice) :
    Outcome s (.reissue id i) (s.perform (.reissue id i)).1 (s.perform (.reissue id i)).2 := by
  simp only [perform]
  cases h : s.reissue id i with
  | error e => exact .kept rfl
  | ok r =>
    unfold reissue at h
    cases hp : s.payments.find? id with
    | none => simp [hp, throw, throwThe, MonadExceptOf.throw] at h
    | some p =>
      cases hs.payment_key hp
      obtain ⟨t, _, ht, _, _⟩ := hs.records hp
      obtain ⟨e, he⟩ := hs.event_of_ticket ht
      simp only [hp, ht, he, bind, Except.bind, pure, Except.pure, throw, throwThe,
        MonadExceptOf.throw] at h
      cases hr : p.status.isRetryable with
      | false => simp [hr] at h
      | true =>
        cases ha : e.active with
        | false => simp [hr, ha] at h
        | true =>
          cases hroom : e.hasRoom (s.heldCount t.eventId) with
          | false => simp [hr, ha, hroom] at h
          | true =>
            simp only [hr, ha, hroom, Table.modify_of_find ht, Bool.not_true, Bool.false_eq_true,
              if_false, Except.ok.injEq] at h
            cases h
            exact .reissued hp hr ht he ha (by rw [hs.event_key he]; exact hroom)

theorem recordCallback_outcome (hs : s.Coherent) (id : PaymentId) (url : String) :
    Outcome s (.recordCallback id url) (s.perform (.recordCallback id url)).1
      (s.perform (.recordCallback id url)).2 := by
  simp only [perform, recordCallback]
  cases hp : s.payments.find? id with
  | none => exact .kept rfl
  | some p =>
    cases hs.payment_key hp
    obtain ⟨t, i, ht, hi, ha⟩ := hs.records hp
    have : Outcome s (.recordCallback p.id url) _ _ := .recorded hp ht hi ha
    simp only [update, Table.set_of_find ht, Table.set_of_find hi] at this
    exact this

/-- A call on a store whose records agree has one of the listed outcomes. -/
theorem perform_outcome (hs : s.Coherent) (c : Call) :
    Outcome s c (s.perform c).1 (s.perform c).2 := by
  cases c with
  | putEvent e => exact .eventPut e
  | putCredential c => exact .credentialPut c
  | createPurchase n id => exact createPurchase_outcome n id
  | applyTransition k tr => exact applyTransition_outcome hs k tr
  | reissue id i => exact reissue_outcome hs id i
  | recordCallback id url => exact recordCallback_outcome hs id url
  | _ => exact .kept rfl

/-! ### Agreement is kept -/

/-- The names that a call brings in are not in use. -/
def Call.Fresh (s : Store) : Call → Prop
  | .createPurchase n id => s.Unused n id
  | _ => True

theorem Outcome.coherent {c : Call} {x : Except StoreError c.Reply} {s' : Store}
    (h : Outcome s c x s') (hs : s.Coherent) (hc : c.Fresh s) : s'.Coherent := by
  cases h with
  | kept => exact hs
  | eventPut e =>
    have hevents : ∀ {k t}, s.tickets.find? k = some t →
        ∃ e', (s.events.set e.id e).find? t.eventId = some e' := by
      intro k t ht
      obtain ⟨e', he'⟩ := hs.event_of_ticket ht
      by_cases hid : e.id = t.eventId
      · exact ⟨e, hid ▸ Table.find?_set_self ..⟩
      · exact ⟨e', (Table.find?_set_ne _ hid _).trans he'⟩
    exact ⟨hs.event_key.set rfl, hs.ticket_key, hs.payment_key, hevents, hs.records, hs.single,
      hs.payment_of_ticket, hs.payment_of_invoice⟩
  | credentialPut =>
    exact ⟨hs.event_key, hs.ticket_key, hs.payment_key, hs.event_of_ticket, hs.records, hs.single,
      hs.payment_of_ticket, hs.payment_of_invoice⟩
  | created he => exact hs.adding he hc
  | applied hp hk ht hi ha hst =>
    subst hk
    refine hs.update hp ht ⟨rfl, rfl, rfl, rfl, rfl, rfl, ?_, ha.encoded, ha.amount, ha.name⟩
    simp only [moved, Transition.paidAt]
    split <;> simp_all
  | reissued hp hr ht he =>
    exact hs.update hp ht ⟨rfl, rfl, rfl, rfl, rfl, rfl, by simp [renewed], rfl, rfl, rfl⟩
  | recorded hp ht hi ha =>
    exact hs.update hp ht ⟨rfl, rfl, rfl, rfl, ha.status, ha.paidAt, ha.paid, ha.encoded,
      ha.amount, ha.name⟩

end BoxOffice.Store
