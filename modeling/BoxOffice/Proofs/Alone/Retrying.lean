import BoxOffice.Proofs.Alone.Purchasing
import BoxOffice.Proofs.Lifecycle.Decisions
import BoxOffice.Proofs.Service.Sales

/-! Retries that run alone. What is looked at before the processor is asked is looked at again when
the payment is opened, and comes out the same. So a retry that passes these looks fails only if the
processor fails; a retry that does not pass them has not asked it. -/

namespace BoxOffice

open Program

/-- The payment with a fresh invoice, as if it were a new one. -/
def Payment.reopened (p : Payment) (encoded : String) : Payment :=
  { p with status := .pending, invoice := encoded, paidAt := none, counterpartyCallback := none }

/-- The ticket with a fresh invoice under the given name. -/
def Ticket.reopened (t : Ticket) (name : String) : Ticket :=
  { t with status := .pending, invoiceId := some name, paidAt := none }

theorem PaymentStatus.isRetryable_iff {status : PaymentStatus} :
    status.isRetryable ↔ status = .failed ∨ status = .expired := by
  cases status <;> decide

/-- The lifecycle of the records takes a retry well in the same cases. -/
theorem Lifecycle.lastError_retry (env : Setting) (t : Ticket) (p : Payment) :
    (reduce env (.ofRecords t p) .retryRequested).1.lastError = none ↔ p.status.isRetryable := by
  cases hclosed : p.status.isRetryable with
  | true => simp [reduce, ofRecords, hclosed]
  | false => simp [reduce, ofRecords, hclosed, reject]

theorem Service.takesRetry_eq (setup : Setup) (t : Ticket) (p : Payment) :
    takesRetry setup t p = p.status.isRetryable := by
  rw [Bool.eq_iff_iff, takesRetry, Option.isNone_iff_eq_none]
  exact Lifecycle.lastError_retry _ t p

namespace Program

variable {α : Type} {w : Surroundings} {s : Store} {h : List Turn}

theorem Comes.ends {done : α → Store → List Turn → Prop} {p : Program α}
    (hp : Comes w (fun x s' h' => ∃ a, x = some a ∧ done a s' h') p s h) : Ends w done p s h := by
  obtain ⟨a, ha, hdone⟩ := hp
  exact ⟨a, _, _, congrArg (fun x => Ran.mk x _ _) ha, hdone⟩

end Program

namespace Store

variable {s : Store} {p : Payment} {t : Ticket} {e : Event} {i : Invoice}

/-- A payment that failed or expired, with its ticket and the event of it. -/
structure Closed (s : Store) (id : PaymentId) (p : Payment) (t : Ticket) (e : Event) : Prop where
  payment : s.payments.find? id = some p
  closed : p.status = .failed ∨ p.status = .expired
  ticket : s.tickets.find? p.ticketId = some t
  event : s.events.find? t.eventId = some e

theorem Closed.unique {id : PaymentId} {p' : Payment} {t' : Ticket} {e' : Event}
    (h : s.Closed id p t e) (h' : s.Closed id p' t' e') : p = p' ∧ t = t' ∧ e = e' := by
  cases h.payment.symm.trans h'.payment
  cases h.ticket.symm.trans h'.ticket
  cases h.event.symm.trans h'.event
  exact ⟨rfl, rfl, rfl⟩

/-- The store with a payment opened again: its three records are replaced. -/
def reopening (s : Store) (p : Payment) (t : Ticket) (i : Invoice) : Store :=
  { s with
    payments := s.payments.set p.id (p.reopened i.encoded)
    tickets := s.tickets.set p.ticketId (t.reopened i.id)
    invoices := s.invoices.set p.ticketId i }

theorem perform_reissue (hs : s.Coherent) {id : PaymentId} (h : s.Closed id p t e)
    (hactive : e.active) (hroom : s.heldPlaces e.id < e.capacity.toNat)
    (hprice : i.amount = p.amount) :
    s.perform (.reissue id i) = (.ok (p.reopened i.encoded), s.reopening p t i) := by
  obtain ⟨hp, hclosed, ht, he⟩ := h
  cases hs.payment_key hp
  have hretryable := PaymentStatus.isRetryable_iff.2 hclosed
  have hplaces := hs.event_key he ▸ hasRoom_heldCount.2 hroom
  have hrenewed : renewed p i = p.reopened i.encoded :=
    congrArg (fun amount => { p.reopened i.encoded with amount }) hprice
  simp only [perform, reissue, hp, ht, he, hretryable, hactive, hplaces, Table.modify_of_find ht,
    Bool.not_true, Bool.false_eq_true, if_false]
  rw [reopening, ← hrenewed]
  rfl

/-- A place is taken again. -/
theorem heldPlaces_reopening (hs : s.Coherent) {id : PaymentId} (h : s.Closed id p t e)
    (i : Invoice) : (s.reopening p t i).heldPlaces e.id = s.heldPlaces e.id + 1 := by
  obtain ⟨t', _, ht', _, ha⟩ := hs.records h.payment
  cases h.ticket.symm.trans ht'
  have hevent : t.eventId = e.id := (hs.event_key h.event).symm
  have hbefore : t.holds e.id = false := by
    rw [Ticket.holds, ha.status]
    rcases h.closed with hstatus | hstatus <;>
      simp [hstatus, PaymentStatus.ticketStatus, TicketStatus.holdsPlace]
  have hafter : (t.reopened i.id).holds e.id = true := by
    simp [Ticket.holds, Ticket.reopened, hevent, TicketStatus.holdsPlace]
  have hcount := s.tickets.countP_set p.ticketId (t.reopened i.id) (Ticket.holds e.id)
  rwa [h.ticket, Option.any_some, hbefore, hafter] at hcount

theorem heldCount_reopening (hs : s.Coherent) {id : PaymentId} (h : s.Closed id p t e)
    (hroom : s.heldPlaces e.id < e.capacity.toNat) (i : Invoice) :
    ((s.reopening p t i).heldCount e.id).toNat = (s.heldCount e.id).toNat + 1 := by
  have hplaces := heldPlaces_reopening hs h i
  have := e.capacity.toNat_lt
  simp only [heldCount, hplaces, UInt32.toNat_ofNat', UInt32.size]
  omega

end Store

namespace Service

variable {setup : Setup} {w : Surroundings} {s s' : Store} {h turns : List Turn}
  {id : PaymentId} {p : Payment} {t : Ticket} {e : Event} {i : Invoice}

theorem parseAddress_alone {raw : String} {a : Address} (hraw : Address.parse raw = .ok a) :
    (parseAddress raw).run.alone w s h = ⟨some (.ok a), s, h⟩ := by
  simp only [parseAddress, hraw]
  rfl

/-- The event of a closed payment is there, so only its activity and its places are looked at. -/
theorem offer_of_closed (hs : s.Coherent) (hclosed : s.Closed id p t e) :
    offer s t.eventId = if !e.active then .error (.eventInactive e.id)
      else if e.capacity.toNat ≤ s.heldPlaces e.id then .error (.soldOut e.id) else .ok e := by
  rw [offer, hclosed.event, hs.event_key hclosed.event]

/-- The part of a retry that comes after the invoice is issued. -/
def reopen (setup : Setup) (id : PaymentId) (t : Ticket) (a : Address) (i : Invoice) :
    ExceptT PurchaseError Program Receipt := do
  let payment ← purchaseStore (.reissue id i)
  Program.count (.payments .pending)
  Program.request (.dispatch (dispatchContext setup t.id a i none))
  let ticket ← Program.orThrow (.ticketNotFound t.id) (← purchaseStore (.ticket t.id))
  return ⟨ticket, some payment, some i, true⟩

theorem reopen_comes (hs : s.Coherent) (hclosed : s.Closed id p t e) (hactive : e.active)
    (hroom : s.heldPlaces e.id < e.capacity.toNat) (hprice : i.amount = p.amount) (setup : Setup)
    (a : Address) (w : Surroundings) (h : List Turn) :
    Comes w (fun x s' h' => processed h' = processed h ∧ s' = s.reopening p t i ∧
        x = some (.ok ⟨t.reopened i.id, some (p.reopened i.encoded), some i, true⟩))
      (reopen setup id t a i).run s h := by
  have hk : t.id = p.ticketId := hs.ticket_key hclosed.ticket
  have hfound : (s.reopening p t i).perform (.ticket t.id) =
      (.ok (some (t.reopened i.id)), s.reopening p t i) := by
    rw [Store.perform, hk, Store.reopening, Table.find?_set_self]
  unfold reopen
  refine .ok (purchaseStore_alone (Store.perform_reissue hs hclosed hactive hroom hprice)) ?_
  refine .ask (r := .count (.payments .pending)) rfl rfl fun _ h₁ _ hprocessed₁ => ?_
  refine .ask rfl rfl fun _ h₂ _ hprocessed₂ => ?_
  refine .ok (purchaseStore_alone hfound) (.ok (a := t.reopened i.id) rfl ⟨?_, rfl, rfl⟩)
  exact (processed_cons rfl _).trans
    (hprocessed₂.trans (hprocessed₁.trans (processed_cons rfl h)))

/-- What a retry of a closed payment comes to, by what is looked at in turn. -/
inductive Trying (setup : Setup) (s : Store) (p : Payment) (t : Ticket) (e : Event) :
    Except PurchaseError Receipt → Store → List Turn → Prop
  | inactive {h : List Turn} (inactive : e.active = false) (unasked : processed h = []) :
      Trying setup s p t e (.error (.eventInactive e.id)) s h
  | full {h : List Turn} (active : e.active) (full : e.capacity.toNat ≤ s.heldPlaces e.id)
      (unasked : processed h = []) : Trying setup s p t e (.error (.soldOut e.id)) s h
  | refused {h : List Turn} {error : ProcessorError} (active : e.active)
      (room : s.heldPlaces e.id < e.capacity.toNat)
      (asked : processed h = [⟨.createInvoice
        ⟨p.amount, invoiceDescription e, setup.invoiceExpirySecs⟩, .error error⟩]) :
      Trying setup s p t e (.error (.issuer (.processor error))) s h
  | reopened {h : List Turn} {issued : ProcessorInvoice} {i : Invoice} (active : e.active)
      (room : s.heldPlaces e.id < e.capacity.toNat)
      (asked : processed h = [⟨.createInvoice
        ⟨p.amount, invoiceDescription e, setup.invoiceExpirySecs⟩, .ok issued⟩])
      (name : i.id = issued.id) (ticketId : i.ticketId = t.id)
      (encoded : i.encoded = issued.encoded) (price : i.amount = p.amount) :
      Trying setup s p t e
        (.ok ⟨t.reopened i.id, some (p.reopened i.encoded), some i, true⟩) (s.reopening p t i) h

/-- What a retry comes to. -/
inductive Retrying (setup : Setup) (s : Store) (id : PaymentId) :
    Except PurchaseError Receipt → Store → List Turn → Prop
  | unknown {h : List Turn} (none : s.payments.find? id = none) (unasked : processed h = []) :
      Retrying setup s id (.error (.paymentNotFound id)) s h
  | notRetryable {p : Payment} {h : List Turn} (payment : s.payments.find? id = some p)
      (opened : ¬ (p.status = .failed ∨ p.status = .expired)) (unasked : processed h = []) :
      Retrying setup s id (.error (.notRetryable id p.status)) s h
  | tried {p : Payment} {t : Ticket} {e : Event} {x : Except PurchaseError Receipt} {s' : Store}
      {h : List Turn} (closed : s.Closed id p t e) (trying : Trying setup s p t e x s' h) :
      Retrying setup s id x s' h

/-- From the look at the event on. -/
theorem closed_comes (hs : s.Coherent) (hclosed : s.Closed id p t e)
    (hamount : p.amount.isZero = false) {a : Address} (hbuyer : Address.parse a.toString = .ok a)
    (hcalendar : ∀ h, (expiryAfter (w h .now) setup.invoiceExpirySecs).isSome)
    (hprocessed : processed h = []) :
    Comes w (fun x s' h' => ∃ y, x = some y ∧ Trying setup s p t e y s' h')
      (availableEvent t.eventId >>= fun event =>
        purchaseInvoice setup t.id a p.amount event >>= reopen setup id t a).run s h := by
  obtain ⟨x, h₁, hrun, hprocessed₁, hx⟩ := availableEvent_alone hs t.eventId w h
  have hnone : processed h₁ = [] := hprocessed₁.trans hprocessed
  rw [offer_of_closed hs hclosed] at hx
  split at hx
  · next hinactive =>
    subst hx
    exact .error hrun ⟨_, rfl, .inactive (by simpa using hinactive) hnone⟩
  · next hactive =>
    have hactive : e.active := by simpa using hactive
    split at hx
    · next hfull =>
      subst hx
      exact .error hrun ⟨_, rfl, .full hactive hfull hnone⟩
    · next hroom =>
      subst hx
      have hroom : s.heldPlaces e.id < e.capacity.toNat := Nat.lt_of_not_le hroom
      refine .ok hrun (.within (issue_comes hbuyer hamount setup t.id w s h₁) ?_ ?_ ?_)
      · rintro i s' h₂ ⟨rfl, answer, hprocessed₂, hissues⟩
        cases hissues with
        | issued hname hticketId hencoded hprice =>
          refine (reopen_comes hs hclosed hactive hroom hprice setup a w h₂).mono ?_
          rintro x s'' h₃ ⟨hprocessed₃, rfl, rfl⟩
          rw [hprocessed₂, hnone] at hprocessed₃
          exact ⟨_, rfl, .reopened hactive hroom hprocessed₃ hname hticketId hencoded hprice⟩
      · rintro error s' h₂ ⟨rfl, answer, hprocessed₂, hissues⟩
        rw [hnone] at hprocessed₂
        cases hissues with
        | refused error => exact ⟨_, rfl, .refused hactive hroom hprocessed₂⟩
      · rintro s' h₂ ⟨rfl, answer, -, hissues⟩
        cases hissues with
        | brokenOff hendless => exact absurd (.inr hcalendar) hendless

theorem retry_retrying (hs : s.SoldReachable)
    (hcalendar : ∀ h, (expiryAfter (w h .now) setup.invoiceExpirySecs).isSome) (id : PaymentId) :
    Ends w (Retrying setup s id) (retry setup id).run s [] := by
  have hcoherent := hs.reachable.coherent
  have hread : s.perform (.payment id) = (.ok (s.payments.find? id), s) := rfl
  refine Comes.ends ?_
  unfold retry
  refine .ok (purchaseStore_alone hread) ?_
  cases hp : s.payments.find? id with
  | none => exact .error rfl ⟨_, rfl, .unknown hp rfl⟩
  | some p =>
    obtain ⟨t, _, ht, _, ha⟩ := hcoherent.records hp
    obtain ⟨e, he⟩ := hcoherent.event_of_ticket ht
    obtain ⟨a, hbuyer, hcanonical⟩ := hs.bought.buyer ht ha.ne_free
    have hfound : s.perform (.ticket p.ticketId) = (.ok (some t), s) := by
      rw [← ht]
      rfl
    refine .ok (a := p) rfl (.ok (purchaseStore_alone hfound) (.ok (a := t) rfl ?_))
    dsimp only
    rw [takesRetry_eq]
    split
    · next hopen =>
      have hopen : ¬ p.status.isRetryable := by simpa using hopen
      exact .error rfl ⟨_, rfl, .notRetryable hp (mt PaymentStatus.isRetryable_iff.2 hopen) rfl⟩
    · next hretryable =>
      have hclosed := PaymentStatus.isRetryable_iff.1 (by simpa using hretryable)
      refine .ok (a := a.toString) (by rw [hbuyer]; rfl) (.ok (parseAddress_alone hcanonical) ?_)
      have hclosed : s.Closed id p t e := ⟨hp, hclosed, ht, he⟩
      refine (closed_comes hcoherent hclosed (hs.bought.amount hp) hcanonical hcalendar rfl).mono ?_
      rintro _ s' h' ⟨y, rfl, htrying⟩
      exact ⟨y, rfl, .tried hclosed htrying⟩

/-! ### By what is in the store -/

theorem mem_processed {spec : InvoiceSpec} {answer : Except ProcessorError ProcessorInvoice} :
    ⟨.createInvoice spec, answer⟩ ∈ processed h ↔ ⟨.createInvoice spec, answer⟩ ∈ h := by
  simp [processed, Request.isProcessing]

namespace Retrying

variable {x : Except PurchaseError Receipt}

theorem trying (h : Retrying setup s id x s' turns) (hclosed : s.Closed id p t e) :
    Trying setup s p t e x s' turns := by
  cases h with
  | unknown hnone => cases hnone.symm.trans hclosed.payment
  | notRetryable hp hopen =>
    cases hp.symm.trans hclosed.payment
    exact absurd hclosed.closed hopen
  | tried hclosed' htrying =>
    obtain ⟨rfl, rfl, rfl⟩ := hclosed.unique hclosed'
    exact htrying

theorem of_open (h : Retrying setup s id x s' turns) (hp : s.payments.find? id = some p)
    (hopen : ¬ (p.status = .failed ∨ p.status = .expired)) :
    x = .error (.notRetryable id p.status) ∧ processed turns = [] := by
  cases h with
  | unknown hnone => cases hnone.symm.trans hp
  | notRetryable hq _ hunasked =>
    cases hq.symm.trans hp
    exact ⟨rfl, hunasked⟩
  | tried hclosed =>
    cases hclosed.payment.symm.trans hp
    exact absurd hclosed.closed hopen

theorem of_inactive (h : Retrying setup s id x s' turns) (hclosed : s.Closed id p t e)
    (hinactive : e.active = false) :
    x = .error (.eventInactive e.id) ∧ processed turns = [] := by
  cases h.trying hclosed with
  | inactive _ hunasked => exact ⟨rfl, hunasked⟩
  | full hactive => cases hactive.symm.trans hinactive
  | refused hactive => cases hactive.symm.trans hinactive
  | reopened hactive => cases hactive.symm.trans hinactive

theorem of_full (h : Retrying setup s id x s' turns) (hclosed : s.Closed id p t e)
    (hactive : e.active) (hfull : e.capacity.toNat ≤ s.heldPlaces e.id) :
    x = .error (.soldOut e.id) ∧ processed turns = [] := by
  cases h.trying hclosed with
  | inactive hinactive => cases hactive.symm.trans hinactive
  | full _ _ hunasked => exact ⟨rfl, hunasked⟩
  | refused _ hroom => exact absurd hroom (Nat.not_lt.2 hfull)
  | reopened _ hroom => exact absurd hroom (Nat.not_lt.2 hfull)

theorem of_room (h : Retrying setup s id x s' turns) (hclosed : s.Closed id p t e)
    (hactive : e.active) (hroom : s.heldPlaces e.id < e.capacity.toNat) :
    ∃ answer, processed turns = [⟨.createInvoice
        ⟨p.amount, invoiceDescription e, setup.invoiceExpirySecs⟩, answer⟩] ∧
      ∀ error, answer = .error error → x = .error (.issuer (.processor error)) := by
  cases h.trying hclosed with
  | inactive hinactive => cases hactive.symm.trans hinactive
  | full _ hfull => exact absurd hroom (Nat.not_lt.2 hfull)
  | refused _ _ hasked =>
    refine ⟨_, hasked, ?_⟩
    rintro _ ⟨⟩
    rfl
  | reopened _ _ hasked => exact ⟨_, hasked, nofun⟩

/-- An error leaves the store as it was, and comes without a fresh invoice. -/
theorem of_error {error : PurchaseError} (h : Retrying setup s id (.error error) s' turns) :
    s' = s ∧ ∀ spec issued, ⟨.createInvoice spec, .ok issued⟩ ∉ turns := by
  have hnone {spec issued} (hunasked : processed turns = []) :
      ⟨.createInvoice spec, .ok issued⟩ ∉ turns := by
    rw [← mem_processed, hunasked]
    exact List.not_mem_nil
  cases h with
  | unknown _ hunasked => exact ⟨rfl, fun _ _ => hnone hunasked⟩
  | notRetryable _ _ hunasked => exact ⟨rfl, fun _ _ => hnone hunasked⟩
  | tried _ htrying =>
    cases htrying with
    | inactive _ hunasked => exact ⟨rfl, fun _ _ => hnone hunasked⟩
    | full _ _ hunasked => exact ⟨rfl, fun _ _ => hnone hunasked⟩
    | refused _ _ hasked =>
      refine ⟨rfl, fun spec issued hmem => ?_⟩
      rw [← mem_processed, hasked] at hmem
      cases List.mem_singleton.1 hmem

end Retrying

/-- What a retry of a payment comes to from a store: the answer, the store after it, and the turns
that were taken. -/
structure Retries (setup : Setup) (s : Store) (id : PaymentId)
    (x : Except PurchaseError Receipt) (s' : Store) (h : List Turn) : Prop where
  /-- It succeeds if the payment failed or expired, its event is there, on sale, with a place left,
  and the processor issues an invoice, and only then. -/
  succeeds : (∃ receipt, x = .ok receipt) ↔ ∃ p t e issued, s.Closed id p t e ∧ e.active ∧
    s.heldPlaces e.id < e.capacity.toNat ∧ ⟨.createInvoice
      ⟨p.amount, invoiceDescription e, setup.invoiceExpirySecs⟩, .ok issued⟩ ∈ h
  /-- Then the processor was asked once. The records of the payment are replaced, no other is, and
  one place more is taken. -/
  reopens {receipt : Receipt} : x = .ok receipt → ∃ p t e issued i, s.Closed id p t e ∧
    processed h = [⟨.createInvoice
      ⟨p.amount, invoiceDescription e, setup.invoiceExpirySecs⟩, .ok issued⟩] ∧
    i.id = issued.id ∧ i.ticketId = t.id ∧ i.encoded = issued.encoded ∧ i.amount = p.amount ∧
    receipt = ⟨t.reopened i.id, some (p.reopened i.encoded), some i, true⟩ ∧
    s' = s.reopening p t i ∧ (s'.heldCount e.id).toNat = (s.heldCount e.id).toNat + 1
  /-- Where all but the processor allows it, the processor is asked, and its error is told. -/
  asked {p : Payment} {t : Ticket} {e : Event} : s.Closed id p t e → e.active →
    s.heldPlaces e.id < e.capacity.toNat → ∃ answer, processed h = [⟨.createInvoice
      ⟨p.amount, invoiceDescription e, setup.invoiceExpirySecs⟩, answer⟩] ∧
      ∀ error, answer = .error error → x = .error (.issuer (.processor error))
  kept {error : PurchaseError} : x = .error error → s' = s
  /-- The status counts first, whatever there is to say of the event. -/
  notRetryable {p : Payment} : s.payments.find? id = some p →
    ¬ (p.status = .failed ∨ p.status = .expired) →
    x = .error (.notRetryable id p.status) ∧ processed h = []
  inactive {p : Payment} {t : Ticket} {e : Event} : s.Closed id p t e → e.active = false →
    x = .error (.eventInactive e.id) ∧ processed h = []
  full {p : Payment} {t : Ticket} {e : Event} : s.Closed id p t e → e.active →
    e.capacity.toNat ≤ s.heldPlaces e.id → x = .error (.soldOut e.id) ∧ processed h = []
  /-- The lifecycle of the records decides on the status in the same way. -/
  decided {p : Payment} {t : Ticket} (env : Lifecycle.Setting) : s.payments.find? id = some p →
    s.tickets.find? p.ticketId = some t →
    ((Lifecycle.reduce env (.ofRecords t p) .retryRequested).1.lastError = none ↔
      p.status = .failed ∨ p.status = .expired)

theorem retry_retries (hs : s.SoldReachable)
    (hcalendar : ∀ h, (expiryAfter (w h .now) setup.invoiceExpirySecs).isSome) (id : PaymentId) :
    Ends w (Retries setup s id) (retry setup id).run s [] := by
  refine (retry_retrying hs hcalendar id).mono fun x s' h _ hretrying => ?_
  constructor
  case succeeds =>
    constructor
    · rintro ⟨receipt, rfl⟩
      cases hretrying with
      | tried hclosed htrying =>
        cases htrying with
        | @reopened _ issued _ hactive hroom hasked =>
          refine ⟨_, _, _, issued, hclosed, hactive, hroom, mem_processed.1 ?_⟩
          rw [hasked]
          exact List.mem_singleton_self _
    · rintro ⟨p, t, e, issued, -, -, -, hissued⟩
      cases x with
      | ok receipt => exact ⟨receipt, rfl⟩
      | error error => exact absurd hissued (hretrying.of_error.2 _ _)
  case reopens =>
    rintro receipt rfl
    cases hretrying with
    | tried hclosed htrying =>
      cases htrying with
      | reopened _ hroom hasked hname hticketId hencoded hprice =>
        exact ⟨_, _, _, _, _, hclosed, hasked, hname, hticketId, hencoded, hprice, rfl, rfl,
          Store.heldCount_reopening hs.reachable.coherent hclosed hroom _⟩
  case asked => exact hretrying.of_room
  case kept =>
    rintro error rfl
    exact hretrying.of_error.1
  case notRetryable => exact hretrying.of_open
  case inactive => exact hretrying.of_inactive
  case full => exact hretrying.of_full
  case decided =>
    intro p t env _ _
    exact (Lifecycle.lastError_retry env t p).trans PaymentStatus.isRetryable_iff

/-- The payment of a ticket failed, and its place was left. It is retried, and takes the place. -/
theorem retry_retries_failedSale :
    let w : Surroundings := fun _ => Office.Outside.answer { invoice := "y" }
    Store.failedSale.SoldReachable ∧
      (∀ h, (expiryAfter (w h .now) Office.sampleSetup.invoiceExpirySecs).isSome) ∧
      Ends w (fun x s' h => s'.payments.values.map (fun p => (p.status, p.invoice)) =
          [(.pending, "y")] ∧ Retries Office.sampleSetup Store.failedSale ⟨⟨3⟩⟩ x s' h)
        (retry Office.sampleSetup ⟨⟨3⟩⟩).run Store.failedSale [] := by
  intro w
  have hcalendar : ∀ h, (expiryAfter (w h .now) Office.sampleSetup.invoiceExpirySecs).isSome :=
    fun _ => by decide +kernel
  refine ⟨Store.failedSale_soldReachable, hcalendar, ?_⟩
  obtain ⟨x, s', h', hrun, hretries⟩ :=
    retry_retries Store.failedSale_soldReachable hcalendar ⟨⟨3⟩⟩
  refine ⟨x, s', h', hrun, ?_, hretries⟩
  have hstore : s' = ((retry Office.sampleSetup ⟨⟨3⟩⟩).run.alone w Store.failedSale []).store := by
    rw [hrun]
  rw [hstore]
  decide +kernel

end Service

end BoxOffice
