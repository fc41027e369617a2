import BoxOffice.Proofs.Address
import BoxOffice.Proofs.Office.Basic
import BoxOffice.Proofs.Program.Idle
import BoxOffice.Proofs.Store.Invoices
import BoxOffice.Proofs.Store.Places
import BoxOffice.Service.Purchasing

/-! Purchases that run alone. What is checked before the processor is asked is checked again when
the ticket is created, and comes out the same, so a purchase that is not refused at first can only
fail over its invoice. It adds the records of one ticket, or none. -/

namespace BoxOffice

open Program

/-- The processor is asked. -/
def Request.isProcessing : Request → Bool
  | .createInvoice _ | .fetchSettlement _ | .fetchInvoice _ => true
  | _ => false

/-- The turns of the processor, latest first. -/
def processed (h : List Turn) : List Turn := h.filter (·.request.isProcessing)

theorem processed_cons {t : Turn} (ht : t.request.isProcessing = false) (h : List Turn) :
    processed (t :: h) = processed h := by
  rw [processed, List.filter_cons_of_neg (by simpa using ht), processed]

/-- The names and the codes that are made up are those of no record. -/
structure Surroundings.MakesUp (w : Surroundings) (s : Store) : Prop where
  ticket (h : List Turn) : s.tickets.find? (w h .freshTicket) = none
  payment (h : List Turn) : s.payments.find? (w h .freshPayment) = none
  code (h : List Turn) : ∀ t ∈ s.tickets.values, t.code ≠ w h .freshCode

namespace Program

variable {α β ε : Type} {w : Surroundings} {s s' : Store} {h h' : List Turn}

/-- A request that neither asks the processor nor changes the store. -/
theorem Comes.ask {done : Option (Except ε β) → Store → List Turn → Prop} {r : Request}
    {f : r.Answer → ExceptT ε Program β} (hprocessing : r.isProcessing = false)
    (hafter : r.after s = s)
    (hf : ∀ x h', x = r.answer w s h → processed h' = processed h → Comes w done (f x).run s h') :
    Comes w done (liftM (request r) >>= f).run s h := by
  rw [run_lift_bind]
  have hrun : (request r).alone w s h = ⟨some (r.answer w s h), s, ⟨r, r.answer w s h⟩ :: h⟩ := by
    simp only [request, alone, hafter]
  exact .seq hrun (hf _ _ rfl (processed_cons hprocessing h))

end Program

namespace Service

variable {setup : Setup} {w : Surroundings} {s : Store} {h : List Turn} {k : TicketId}
  {event : EventId} {e : Event} {user : UserId} {address : Option String} {a : Address}

/-! ### Checks -/

/-- What is kept of the address that a buyer gave, if any: its canonical form. -/
inductive Written : Option String → Option Address → Prop
  | none : Written none none
  | some {raw : String} {a : Address} (reads : Address.parse raw = .ok a)
      (canonical : Address.parse a.toString = .ok a) : Written (some raw) (some a)

/-- The event, if there is one on sale with places left. -/
def offer (s : Store) (event : EventId) : Except PurchaseError Event :=
  match s.events.find? event with
  | none => .error (.eventNotFound event)
  | some e =>
    if !e.active then .error (.eventInactive event)
    else if e.capacity.toNat ≤ s.heldPlaces event then .error (.soldOut event)
    else .ok e

/-- The first check that a purchase does not pass, if there is one: of the address, of the event,
and of the price. -/
def refusal? (s : Store) (event : EventId) (address : Option String) : Option PurchaseError :=
  match address.map Address.parse with
  | some (.error error) => some (.invalidAddress error)
  | _ =>
    match offer s event with
    | .error error => some error
    | .ok e => if e.price.count ≠ 0 ∧ address = none then some .missingAddress else none

theorem refusal?_of_written {buyer : Option Address} (hbuyer : Written address buyer) (s : Store)
    (event : EventId) :
    refusal? s event address = match offer s event with
      | .error error => some error
      | .ok e => if e.price.count ≠ 0 ∧ buyer = none then some .missingAddress else none := by
  cases hbuyer with
  | none => simp [refusal?]
  | some hreads => simp [refusal?, hreads]

theorem givenAddress_alone (address : Option String) (w : Surroundings) (s : Store)
    (h : List Turn) :
    (∃ error, (∀ event, refusal? s event address = some (.invalidAddress error)) ∧
      (givenAddress address).run.alone w s h = ⟨some (.error (.invalidAddress error)), s, h⟩) ∨
    ∃ buyer, Written address buyer ∧
      (givenAddress address).run.alone w s h = ⟨some (.ok buyer), s, h⟩ := by
  cases address with
  | none => exact .inr ⟨none, .none, rfl⟩
  | some raw =>
    cases hraw : Address.parse raw with
    | error error =>
      refine .inl ⟨error, fun event => by simp [refusal?, hraw], ?_⟩
      simp only [givenAddress, parseAddress, hraw]
      rfl
    | ok a =>
      refine .inr ⟨some a, .some hraw (Address.parse_toString hraw), ?_⟩
      simp only [givenAddress, parseAddress, hraw]
      rfl

theorem ensureAvailable_alone (e : Event) (w : Surroundings) (s : Store) (h : List Turn) :
    Keeps w (fun x h' => processed h' = processed h ∧
        (x.mapError PurchaseError.ofStore).map (fun _ => e) =
          if !e.active then .error (.eventInactive e.id)
          else if e.capacity.toNat ≤ s.heldPlaces e.id then .error (.soldOut e.id) else .ok e)
      (ensureAvailable e).run s h := by
  have hheld : s.perform (.heldCount e.id) = (.ok (s.heldCount e.id), s) := rfl
  have hroom : e.remaining (s.heldCount e.id) = 0 ↔ e.capacity.toNat ≤ s.heldPlaces e.id := by
    have hplaces : e.hasRoom (s.heldCount e.id) ↔ s.heldPlaces e.id < e.capacity.toNat :=
      Store.hasRoom_heldCount
    rw [Event.hasRoom, decide_eq_true_eq] at hplaces
    rw [← UInt32.toNat_inj, UInt32.toNat_zero]
    omega
  unfold ensureAvailable
  cases hactive : e.active with
  | false => exact ⟨_, _, rfl, rfl, rfl⟩
  | true =>
    have hleft : (remainingPlaces e).run.alone w s h =
        ⟨some (.ok (e.remaining (s.heldCount e.id))), s,
          .call (.heldCount e.id) (.ok (s.heldCount e.id)) :: h⟩ := rfl
    refine Ends.keeps (.ok hleft ?_)
    by_cases hfull : e.capacity.toNat ≤ s.heldPlaces e.id
    · rw [if_pos (hroom.2 hfull)]
      exact ⟨_, _, _, rfl, rfl, processed_cons rfl h, (if_pos hfull).symm⟩
    · rw [if_neg (mt hroom.1 hfull)]
      exact ⟨_, _, _, rfl, rfl, processed_cons rfl h, (if_neg hfull).symm⟩

theorem availableEvent_alone (hs : s.Coherent) (event : EventId) (w : Surroundings)
    (h : List Turn) :
    Keeps w (fun x h' => processed h' = processed h ∧ x = offer s event)
      (availableEvent event).run s h := by
  have hread : s.perform (.event event) = (.ok (s.events.find? event), s) := rfl
  have hprocessed : ∀ found, processed (.call (.event event) (.ok found) :: h) = processed h :=
    fun _ => processed_cons rfl h
  unfold availableEvent offer
  refine Ends.keeps (.ok (alone_within (alone_store hread) _) ?_)
  cases hfound : s.events.find? event with
  | none => exact .error rfl ⟨rfl, hprocessed none, rfl⟩
  | some e =>
    cases hs.event_key hfound
    obtain ⟨x, h₁, hrun, hkept, hx⟩ := ensureAvailable_alone e w s
      (.call (.event e.id) (.ok (some e)) :: h)
    have hkept := hkept.trans (hprocessed (some e))
    refine .ok rfl ?_
    cases x with
    | error error => exact .error (alone_within hrun _) ⟨rfl, hkept, hx⟩
    | ok left => exact .ok (alone_within hrun _) ⟨_, _, _, rfl, rfl, hkept, hx⟩

/-! ### Invoices -/

/-- An invoice gets a time of expiry: the processor's own, or one that the calendar reaches to. -/
def Expires (setup : Setup) (w : Surroundings) (issued : ProcessorInvoice) : Prop :=
  issued.expiresAt.isSome ∨ ∀ h, (expiryAfter (w h .now) setup.invoiceExpirySecs).isSome

/-- What issuing an invoice comes to, by the answer of the processor. -/
inductive Issues (setup : Setup) (w : Surroundings) (k : TicketId) (amount : Sats) :
    Except ProcessorError ProcessorInvoice → Option (Except IssueError Invoice) → Prop
  | refused (error : ProcessorError) :
      Issues setup w k amount (.error error) (some (.error (.processor error)))
  | brokenOff {issued : ProcessorInvoice} (endless : ¬ Expires setup w issued) :
      Issues setup w k amount (.ok issued) none
  | issued {issued : ProcessorInvoice} {i : Invoice} (name : i.id = issued.id)
      (ticketId : i.ticketId = k) (encoded : i.encoded = issued.encoded)
      (price : i.amount = amount) : Issues setup w k amount (.ok issued) (some (.ok i))

theorem invoiceExpiry_comes (setup : Setup) (issued : ProcessorInvoice) (w : Surroundings)
    (s : Store) (h : List Turn) :
    Comes w (fun x s' h' => s' = s ∧ processed h' = processed h ∧
        (x = none → ¬ Expires setup w issued))
      (invoiceExpiry setup issued.expiresAt) s h := by
  unfold invoiceExpiry
  cases hgiven : issued.expiresAt with
  | some t => exact ⟨rfl, rfl, nofun⟩
  | none =>
    have hread : Program.now.alone w s h = ⟨some (w h .now), s, ⟨.now, w h .now⟩ :: h⟩ := rfl
    have hnow : processed (⟨.now, w h .now⟩ :: h) = processed h := processed_cons rfl h
    refine .seq hread ?_
    cases hown : expiryAfter (w h .now) setup.invoiceExpirySecs with
    | some t => exact ⟨rfl, hnow, nofun⟩
    | none =>
      refine ⟨rfl, hnow, fun _ hexpires => ?_⟩
      rcases hexpires with hexpires | hexpires
      · rw [hgiven] at hexpires
        cases hexpires
      · have hsome := hexpires h
        rw [hown] at hsome
        cases hsome

theorem issue_comes {buyer description : String} {amount : Sats}
    (hbuyer : Address.parse buyer = .ok a) (hamount : amount.isZero = false) (setup : Setup)
    (k : TicketId) (w : Surroundings) (s : Store) (h : List Turn) :
    Comes w (fun x s' h' => s' = s ∧ ∃ answer, processed h' =
        ⟨.createInvoice ⟨amount, description, setup.invoiceExpirySecs⟩, answer⟩ :: processed h ∧
        Issues setup w k amount answer x)
      (issue setup k buyer amount description).run s h := by
  obtain ⟨answer, hanswer⟩ : ∃ answer, answer =
    w h (.createInvoice ⟨amount, description, setup.invoiceExpirySecs⟩) := ⟨_, rfl⟩
  have hcreated : (within IssueError.processor (ExceptT.mk (request
      (.createInvoice ⟨amount, description, setup.invoiceExpirySecs⟩)))).run.alone w s h =
      ⟨some (answer.mapError .processor), s,
        ⟨.createInvoice ⟨amount, description, setup.invoiceExpirySecs⟩, answer⟩ :: h⟩ := by
    subst hanswer
    exact alone_within rfl _
  unfold issue
  simp only [hbuyer, hamount]
  cases answer with
  | error error => exact .error hcreated ⟨rfl, _, rfl, .refused error⟩
  | ok issued =>
    refine .ok hcreated ?_
    rw [run_lift_bind]
    refine Comes.bind (invoiceExpiry_comes setup issued w s _) ?_ ?_
    · rintro t s' h' ⟨rfl, hprocessed, -⟩
      exact ⟨rfl, _, hprocessed, .issued rfl rfl rfl rfl⟩
    · rintro s' h' ⟨rfl, hprocessed, hendless⟩
      exact ⟨rfl, _, hprocessed, .brokenOff (hendless rfl)⟩

/-! ### Records -/

/-- The ticket is a new one, sold to the user for the event. -/
structure Sold (s : Store) (event : EventId) (user : UserId) (address : Option String)
    (t : Ticket) : Prop where
  unused : s.tickets.find? t.id = none
  code : ∀ u ∈ s.tickets.values, u.code ≠ t.code
  eventId : t.eventId = event
  userId : t.userId = user
  unpaid : t.paidAt = none
  buyer : ∃ buyer, Written address buyer ∧ t.buyerAddress = buyer.map (·.toString)

/-- The three records of a ticket that is to be paid for by an invoice of the processor. -/
structure Reserved (s : Store) (e : Event) (user : UserId) (address : Option String)
    (issued : ProcessorInvoice) (t : Ticket) (p : Payment) (i : Invoice) : Prop where
  ticket : Sold s e.id user address t
  payment : s.payments.find? p.id = none
  invoice : s.invoices.find? t.id = none
  ticketPending : t.status = .pending
  paymentPending : p.status = .pending
  agree : Store.Agree p t i
  ticketId : p.ticketId = t.id ∧ i.ticketId = t.id
  price : p.amount = e.price
  encoded : p.invoice = issued.encoded
  name : i.id = issued.id
  unheld : ∀ q ∈ s.payments.values, q.invoice ≠ issued.encoded

/-- What a purchase for a price comes to, by the answer of the processor. -/
inductive Reserving (setup : Setup) (w : Surroundings) (s : Store) (e : Event) (user : UserId)
    (address : Option String) : Except ProcessorError ProcessorInvoice →
    Option (Except PurchaseError Receipt) → Store → Prop
  | refused (error : ProcessorError) : Reserving setup w s e user address (.error error)
      (some (.error (.issuer (.processor error)))) s
  | brokenOff {issued : ProcessorInvoice} (endless : ¬ Expires setup w issued) :
      Reserving setup w s e user address (.ok issued) none s
  | held {issued : ProcessorInvoice} {q : Payment} (stored : q ∈ s.payments.values)
      (held : q.invoice = issued.encoded) (detail : String) :
      Reserving setup w s e user address (.ok issued)
        (some (.error (.store (.conflict detail)))) s
  | reserved {issued : ProcessorInvoice} {t : Ticket} {p : Payment} {i : Invoice}
      (reserved : Reserved s e user address issued t p i) :
      Reserving setup w s e user address (.ok issued) (some (.ok ⟨t, some p, some i, true⟩))
        { s with
          tickets := s.tickets.set t.id t
          payments := s.payments.set p.id p
          invoices := s.invoices.set t.id i }

/-- What was found at the look is found again when the ticket is created. -/
theorem openEvent_of_offer (hs : s.Coherent) (hoffer : offer s event = .ok e) :
    s.openEvent event = .ok e := by
  unfold offer at hoffer
  unfold Store.openEvent
  cases hfound : s.events.find? event with
  | none =>
    rw [hfound] at hoffer
    cases hoffer
  | some e' =>
    cases hs.event_key hfound
    rw [hfound] at hoffer
    dsimp only at hoffer ⊢
    split at hoffer
    · cases hoffer
    · next hactive =>
      split at hoffer
      · cases hoffer
      · next hroom =>
        cases hoffer
        have hplaces := Store.hasRoom_heldCount.2 (Nat.lt_of_not_le hroom)
        rw [if_neg hactive, hplaces]
        rfl

theorem perform_createPurchase {n : NewPurchase} (hopen : s.openEvent n.eventId = .ok e)
    (hcode : ∀ t ∈ s.tickets.values, t.code ≠ n.code)
    (hinvoice : ∀ i, n.invoice = some i → ∀ p ∈ s.payments.values, p.invoice ≠ i.encoded)
    (id : PaymentId) :
    s.perform (.createPurchase n id) = (.ok (n.ticket, n.payment id), s.adding n id) := by
  have hcode' : ¬ s.tickets.values.any (·.code = n.code) := by
    simpa using hcode
  have hinvoice' : ¬ n.invoice.any fun i => s.payments.values.any (·.invoice = i.encoded) := by
    intro hany
    obtain ⟨i, hi, hheld⟩ := Option.any_eq_true .. |>.1 hany
    obtain ⟨p, hp, hsame⟩ := List.any_eq_true.1 hheld
    exact hinvoice i hi p hp (of_decide_eq_true hsame)
  simp only [Store.perform, Store.createPurchase, hopen, Bind.bind, Except.bind, if_neg hcode',
    if_neg hinvoice']
  rfl

theorem purchaseStore_alone {c : Store.Call} {x : Except StoreError c.Reply} {s' : Store}
    (hc : s.perform c = (x, s')) :
    (purchaseStore c).run.alone w s h = ⟨some (x.mapError .ofStore), s', .call c x :: h⟩ :=
  alone_within (alone_store hc) _

/-- The part of a purchase for a price that comes after the invoice is issued. -/
def enter (setup : Setup) (a : Address) (n : NewPurchase) (i : Invoice) :
    ExceptT PurchaseError Program Receipt := do
  let id ← Program.request .freshPayment
  let (ticket, payment) ← purchaseStore (.createPurchase n id)
  let credential ← Program.request (.store (.credential n.userId))
  Program.request
    (.dispatch (dispatchContext setup n.ticketId a i (credential.toOption.getD none)))
  return ⟨ticket, payment, some i, true⟩

/-- What entering the records of a sale comes to: they are added, or another payment has the
invoice. -/
inductive Entering (s : Store) (n : NewPurchase) (i : Invoice) :
    Option (Except PurchaseError Receipt) → Store → Prop
  | held {q : Payment} (stored : q ∈ s.payments.values) (held : q.invoice = i.encoded)
      (detail : String) : Entering s n i (some (.error (.store (.conflict detail)))) s
  | added {id : PaymentId} (unused : s.payments.find? id = none)
      (unheld : ∀ q ∈ s.payments.values, q.invoice ≠ i.encoded) :
      Entering s n i (some (.ok ⟨n.ticket, n.payment id, some i, true⟩)) (s.adding n id)

theorem enter_comes (hw : w.MakesUp s) {n : NewPurchase} {i : Invoice}
    (hopen : s.openEvent n.eventId = .ok e) (hinvoice : n.invoice = some i)
    (hnew : ∀ t ∈ s.tickets.values, t.code ≠ n.code) (setup : Setup) (a : Address)
    (h : List Turn) :
    Comes w (fun x s' h' => processed h' = processed h ∧ Entering s n i x s')
      (enter setup a n i).run s h := by
  unfold enter
  refine .ask rfl rfl fun id h₁ hid hprocessed => ?_
  have hunused : s.payments.find? id = none := hid ▸ hw.payment h
  by_cases hheld : ∃ q ∈ s.payments.values, q.invoice = i.encoded
  · obtain ⟨q, hq, hsame⟩ := hheld
    obtain ⟨j, hj⟩ := Table.mem_values.1 hq
    obtain ⟨error, hrefused, hconflict⟩ := Store.createPurchase_held hinvoice hj hsame id
    obtain ⟨detail, rfl⟩ := hconflict e hopen
    refine .error (purchaseStore_alone hrefused) ⟨?_, .held hq hsame detail⟩
    exact (processed_cons rfl _).trans hprocessed
  · have hunheld : ∀ q ∈ s.payments.values, q.invoice ≠ i.encoded :=
      fun q hq hsame => hheld ⟨q, hq, hsame⟩
    have hcreated : s.perform (.createPurchase n id) =
        (.ok (n.ticket, n.payment id), s.adding n id) := by
      refine perform_createPurchase hopen hnew (fun i' hi' => ?_) id
      cases hinvoice.symm.trans hi'
      exact hunheld
    refine .ok (purchaseStore_alone hcreated) ?_
    refine .ask rfl rfl fun credential h₂ _ hprocessed₂ => ?_
    refine .ask rfl rfl fun _ h₃ _ hprocessed₃ => ?_
    refine ⟨?_, .added hunused hunheld⟩
    exact hprocessed₃.trans (hprocessed₂.trans ((processed_cons rfl _).trans hprocessed))

theorem invoice_eq_none (hs : s.Coherent) (hunused : s.tickets.find? k = none) :
    s.invoices.find? k = none := by
  cases hi : s.invoices.find? k with
  | none => rfl
  | some i =>
    obtain ⟨id, p, hp, rfl⟩ := hs.payment_of_invoice hi
    exact absurd rfl (hs.ticketId_ne hunused hp)

theorem reserve_comes (hs : s.Coherent) (hw : w.MakesUp s) (hopen : s.openEvent e.id = .ok e)
    (hpriced : e.price.isZero = false) (hbuyer : Written address (some a))
    (hunused : s.tickets.find? k = none) {code : TicketCode}
    (hnew : ∀ t ∈ s.tickets.values, t.code ≠ code) (setup : Setup) (user : UserId)
    (createdAt : Time.Instant) (h : List Turn) :
    Comes w (fun x s' h' => ∃ answer, processed h' = ⟨.createInvoice
        ⟨e.price, invoiceDescription e, setup.invoiceExpirySecs⟩, answer⟩ :: processed h ∧
        Reserving setup w s e user address answer x s')
      (purchaseInvoice setup k a e.price e >>= fun i =>
        enter setup a ⟨k, e.id, user, code, some a.toString, some i, createdAt⟩ i).run s h := by
  have hcanonical : Address.parse a.toString = .ok a := by
    cases hbuyer
    assumption
  refine .within (issue_comes hcanonical hpriced setup k w s h) ?_ ?_ ?_
  · rintro i s' h₁ ⟨rfl, answer, hprocessed, hissues⟩
    cases hissues with
    | issued hname hticketId hencoded hprice =>
      refine (enter_comes hw hopen rfl hnew setup a h₁).mono ?_
      rintro x s'' h₂ ⟨hprocessed₂, henters⟩
      refine ⟨_, hprocessed₂.trans hprocessed, ?_⟩
      cases henters with
      | held hq hsame detail => exact .held hq (hsame.trans hencoded) detail
      | added hpayment hunheld =>
        exact .reserved {
          ticket := ⟨hunused, hnew, rfl, rfl, rfl, _, hbuyer, rfl⟩
          payment := hpayment
          invoice := invoice_eq_none hs hunused
          ticketPending := rfl
          paymentPending := rfl
          agree := ⟨rfl, rfl, by simp, rfl, rfl, rfl⟩
          ticketId := ⟨rfl, hticketId⟩
          price := hprice
          encoded := hencoded
          name := hname
          unheld := fun q hq => hencoded ▸ hunheld q hq }
  · rintro error s' h₁ ⟨rfl, answer, hprocessed, hissues⟩
    cases hissues with
    | refused error => exact ⟨_, hprocessed, .refused error⟩
  · rintro s' h₁ ⟨rfl, answer, hprocessed, hissues⟩
    cases hissues with
    | brokenOff hendless => exact ⟨_, hprocessed, .brokenOff hendless⟩

/-! ### Purchases -/

/-- What a purchase that ran alone from a store came to. -/
structure Purchases (setup : Setup) (w : Surroundings) (s : Store) (event : EventId)
    (user : UserId) (address : Option String) (x : Option (Except PurchaseError Receipt))
    (s' : Store) (h : List Turn) : Prop where
  refused {error : PurchaseError} : refusal? s event address = some error →
    x = some (.error error) ∧ s' = s ∧ processed h = []
  free {e : Event} : refusal? s event address = none → s.events.find? event = some e →
    e.price.count = 0 → processed h = [] ∧ ∃ t, Sold s event user address t ∧ t.status = .free ∧
      x = some (.ok ⟨t, none, none, false⟩) ∧ s' = { s with tickets := s.tickets.set t.id t }
  priced {e : Event} : refusal? s event address = none → s.events.find? event = some e →
    e.price.count ≠ 0 → ∃ answer, processed h = [⟨.createInvoice
      ⟨e.price, invoiceDescription e, setup.invoiceExpirySecs⟩, answer⟩] ∧
      Reserving setup w s e user address answer x s'

/-- Turns of others than the processor make no difference. -/
theorem Purchases.of_processed {x : Option (Except PurchaseError Receipt)} {s' : Store}
    {h' : List Turn} (hp : Purchases setup w s event user address x s' h)
    (hprocessed : processed h' = processed h) : Purchases setup w s event user address x s' h' := by
  constructor
  case refused => exact fun hrefusal => hprocessed ▸ hp.refused hrefusal
  case free => exact fun hpassed hfound hfree => hprocessed ▸ hp.free hpassed hfound hfree
  case priced => exact fun hpassed hfound hpriced => hprocessed ▸ hp.priced hpassed hfound hpriced

theorem Purchases.of_refusal {error : PurchaseError}
    (hrefusal : refusal? s event address = some error) (hprocessed : processed h = []) :
    Purchases setup w s event user address (some (.error error)) s h := by
  constructor
  case refused =>
    intro error' hrefusal'
    cases hrefusal.symm.trans hrefusal'
    exact ⟨rfl, rfl, hprocessed⟩
  case free =>
    intro e hnone
    cases hrefusal.symm.trans hnone
  case priced =>
    intro e hnone
    cases hrefusal.symm.trans hnone

theorem Purchases.of_free {t : Ticket} (hrefusal : refusal? s event address = none)
    (hfound : s.events.find? event = some e) (hfree : e.price.count = 0)
    (hprocessed : processed h = []) (hsold : Sold s event user address t) (ht : t.status = .free) :
    Purchases setup w s event user address (some (.ok ⟨t, none, none, false⟩))
      { s with tickets := s.tickets.set t.id t } h := by
  constructor
  case refused =>
    intro error herror
    cases hrefusal.symm.trans herror
  case free => exact fun _ _ _ => ⟨hprocessed, t, hsold, ht, rfl, rfl⟩
  case priced =>
    intro e' _ hfound' hpriced
    cases hfound.symm.trans hfound'
    exact absurd hfree hpriced

theorem Purchases.of_priced {answer : Except ProcessorError ProcessorInvoice}
    {x : Option (Except PurchaseError Receipt)} {s' : Store}
    (hrefusal : refusal? s event address = none) (hfound : s.events.find? event = some e)
    (hpriced : e.price.count ≠ 0) (hprocessed : processed h = [⟨.createInvoice
      ⟨e.price, invoiceDescription e, setup.invoiceExpirySecs⟩, answer⟩])
    (hreserving : Reserving setup w s e user address answer x s') :
    Purchases setup w s event user address x s' h := by
  constructor
  case refused =>
    intro error herror
    cases hrefusal.symm.trans herror
  case free =>
    intro e' _ hfound' hfree
    cases hfound.symm.trans hfound'
    exact absurd hfree hpriced
  case priced =>
    intro e' _ hfound' _
    cases hfound.symm.trans hfound'
    exact ⟨answer, hprocessed, hreserving⟩

theorem tryPurchase_purchases (hs : s.Coherent) (hw : w.MakesUp s) (setup : Setup)
    (event : EventId) (user : UserId) (address : Option String) :
    Comes w (Purchases setup w s event user address)
      (tryPurchase setup event user address).run s [] := by
  unfold tryPurchase
  rcases givenAddress_alone address w s [] with ⟨error, hrefusal, hgiven⟩ | ⟨buyer, hbuyer, hgiven⟩
  · exact .error hgiven (.of_refusal (hrefusal event) rfl)
  · refine .ok hgiven ?_
    obtain ⟨x, h₁, hrun, hprocessed, hx⟩ := availableEvent_alone hs event w []
    have hrefusal := refusal?_of_written hbuyer s event
    rw [← hx] at hrefusal
    cases x with
    | error error => exact .error hrun (.of_refusal hrefusal hprocessed)
    | ok e =>
      have hopen := openEvent_of_offer hs hx.symm
      have hfound := (Store.openEvent_eq_ok hopen).1
      cases hs.event_key hfound
      refine .ok hrun ?_
      refine .ask rfl rfl fun k h₂ hk hprocessed₂ => ?_
      refine .ask rfl rfl fun code h₃ hcode hprocessed₃ => ?_
      refine .ask (r := .now) rfl rfl fun createdAt h₄ _ hprocessed₄ => ?_
      have hunused : s.tickets.find? k = none := hk ▸ hw.ticket h₁
      have hnew : ∀ t ∈ s.tickets.values, t.code ≠ code := hcode ▸ hw.code h₂
      have hprocessed : processed h₄ = [] :=
        hprocessed₄.trans (hprocessed₃.trans (hprocessed₂.trans hprocessed))
      dsimp only at hrefusal ⊢
      split
      · next hfree =>
        have hfree : e.price.count = 0 := by simpa [Event.isFree, Sats.isZero] using hfree
        have hpassed : refusal? s e.id address = none :=
          hrefusal.trans (if_neg fun hpriced => hpriced.1 hfree)
        refine .ask rfl rfl fun id h₅ _ hprocessed₅ => ?_
        have hcreated := perform_createPurchase
          (n := ⟨k, e.id, user, code, buyer.map (·.toString), none, createdAt⟩) hopen hnew nofun id
        refine .ok (purchaseStore_alone hcreated) ?_
        refine .of_free hpassed hfound hfree ?_
          ⟨hunused, hnew, rfl, rfl, rfl, buyer, hbuyer, rfl⟩ rfl
        exact (processed_cons rfl _).trans (hprocessed₅.trans hprocessed)
      · next hpriced =>
        have hpriced : e.price.count ≠ 0 := by simpa [Event.isFree, Sats.isZero] using hpriced
        -- The processor is asked only from here on, when the last check is passed.
        cases hbuyer with
        | none => exact .of_refusal (hrefusal.trans (if_pos ⟨hpriced, rfl⟩)) hprocessed
        | @some raw a hreads hcanonical =>
          have hpassed : refusal? s e.id (some raw) = none :=
            hrefusal.trans (if_neg fun hmissing => nomatch hmissing.2)
          refine .ok (a := a) rfl ?_
          refine (reserve_comes hs hw hopen (by simpa [Sats.isZero] using hpriced)
            (.some hreads hcanonical) hunused hnew setup user createdAt h₄).mono ?_
          rintro x s' h₅ ⟨answer, hprocessed₅, hreserving⟩
          rw [hprocessed] at hprocessed₅
          exact .of_priced hpassed hfound hpriced hprocessed₅ hreserving

/-- What a purchase comes to is what it came to before it was counted. -/
theorem purchase_purchases (hs : s.Reachable) (hw : w.MakesUp s) (setup : Setup)
    (event : EventId) (user : UserId) (address : Option String) :
    Comes w (Purchases setup w s event user address)
      (purchase setup event user address).run s [] := by
  refine Comes.bind (tryPurchase_purchases hs.coherent hw setup event user address) ?_ ?_
  · intro x s' h' hpurchases
    exact hpurchases.of_processed (processed_cons rfl h')
  · exact fun s' h' hpurchases => hpurchases

/-- One place of an event is left and is sold for a price, to an address that is not given in its
canonical form. -/
theorem purchase_purchases_twoSales :
    let w : Surroundings :=
      fun _ => Office.Outside.answer { ticket := ⟨⟨4⟩⟩, payment := ⟨⟨4⟩⟩, invoice := "c" }
    let r := (purchase Office.sampleSetup Store.saleEvent.id default (some "$a@B")).run.alone w
      Store.twoSales []
    Store.twoSales.Reachable ∧ w.MakesUp Store.twoSales ∧
      r.store.tickets.values.map (fun t => (t.status, t.buyerAddress)) =
        [(.pending, none), (.failed, none), (.pending, some "$a@b")] ∧
      Purchases Office.sampleSetup w Store.twoSales Store.saleEvent.id default (some "$a@B")
        r.result r.store r.turns := by
  intro w r
  have hs := Store.twoSales_reachable.reachable
  have hcode : ∀ t ∈ Store.twoSales.tickets.values, t.code ≠ ⟨""⟩ := by decide +kernel
  have hw : w.MakesUp Store.twoSales := ⟨fun _ => rfl, fun _ => rfl, fun _ => hcode⟩
  exact ⟨hs, hw, by decide +kernel, purchase_purchases hs hw _ _ _ _⟩

end Service

end BoxOffice
