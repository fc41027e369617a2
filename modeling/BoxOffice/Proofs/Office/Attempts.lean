import BoxOffice.Proofs.Office.Changes

/-! The attempt that a change of status lands on. The store compares the status of the payment, not
its invoice, so a job that decided on one invoice may close the payment when a retry has given it
another one. -/

namespace BoxOffice

open Store

/-- The ticket and the change of status that was stored for it. -/
def Entry.applied? (e : Entry) : Option (TicketId × Transition) :=
  match e.turn with
  | ⟨.store (.applyTransition k tr), .ok true⟩ => some (k, tr)
  | _ => none

/-- The entry puts the invoice into the payment of the ticket. -/
inductive Entry.Puts (k : TicketId) (encoded : String) (e : Entry) : Prop
  | created {n : NewPurchase} {id : PaymentId} {x : Ticket × Option Payment} {i : Invoice}
      (turn : e.turn = .call (.createPurchase n id) (.ok x)) (invoice : n.invoice = some i)
      (encoded : i.encoded = encoded) (ticketId : n.ticketId = k)
  | reissued {id : PaymentId} {i : Invoice} {p : Payment}
      (turn : e.turn = .call (.reissue id i) (.ok p)) (encoded : i.encoded = encoded)
      (ticketId : p.ticketId = k)

/-- The job of `e` closes the payment of the ticket with the status on the ground of the invoice that
the payment has at `d`: the one it was begun to route, the one listed, or the one looked up. -/
inductive Decision (k : TicketId) (e d : Entry) : PaymentStatus → String → Prop
  | failed {c : DispatchContext} (job : e.job = .route c) (puts : d.Puts k c.invoice) :
      Decision k e d .failed c.invoice
  | expired {now : Time.Instant} {ps : List Payment} {p : Payment} (task : d.task = e.task)
      (turn : d.turn = .call (.expiredPending now) (.ok ps)) (mem : p ∈ ps)
      (ticketId : p.ticketId = k) : Decision k e d .expired p.invoice
  | paid {encoded : String} {p : Payment} (task : d.task = e.task)
      (turn : d.turn = .call (.paymentByInvoice encoded) (.ok (some p)))
      (ticketId : p.ticketId = k) : Decision k e d .paid encoded

def Change.invoice? : Change → Option Invoice
  | .closed _ => none
  | .reopened i => some i

/-- The invoice that the last reissue in the log put into the payment. -/
def reissued? (id : PaymentId) (log : List Entry) : Option Invoice :=
  log.findSome? fun e => (e.change? id).bind Change.invoice?

/-- What a change of status that was stored finds. -/
structure Entry.Lands (e : Entry) (earlier : List Entry) (k : TicketId) (tr : Transition) :
    Prop where
  pending : ∃ p, e.before.paymentForTicket k = some p ∧ p.status = .pending
  decided : ∃ mid d start encoded, earlier = mid ++ d :: start ∧ Decision k e d tr.target encoded
  /-- The payment has the invoice that was decided on, or that of the last reissue since. -/
  invoice {p : Payment} {mid start : List Entry} {d : Entry} {encoded : String} :
    e.before.paymentForTicket k = some p → earlier = mid ++ d :: start →
    Decision k e d tr.target encoded →
    p.invoice = (reissued? p.id mid).elim encoded Invoice.encoded

variable {e d : Entry} {log : List Entry} {k : TicketId} {id : PaymentId}

theorem Entry.turn_of_applied {tr : Transition} (h : e.applied? = some (k, tr)) :
    e.turn = .call (.applyTransition k tr) (.ok true) := by
  unfold applied? at h
  split at h
  · next ht =>
    cases h
    exact ht
  · cases h

/-! ### Invoices of a payment -/

theorem Store.Step.keeps {p p' : Payment} {change : Option Change} (h : Step p change p') :
    p'.ticketId = p.ticketId ∧
      p'.invoice = (change.bind Change.invoice?).elim p.invoice Invoice.encoded := by
  cases h <;> exact ⟨rfl, rfl⟩

namespace Lawful

/-- A payment stays with its ticket, and has the invoice that it got last. -/
theorem attempt {mid start : List Entry} (h : Lawful (mid ++ start)) {q : Payment}
    (hq : (storeAfter start).payments.find? id = some q) :
    ∃ p, (storeAfter (mid ++ start)).payments.find? id = some p ∧ p.ticketId = q.ticketId ∧
      p.invoice = (reissued? id mid).elim q.invoice Invoice.encoded := by
  induction mid with
  | nil => exact ⟨q, hq, rfl, rfl⟩
  | cons e mid ih =>
    cases h with
    | cons h he =>
      obtain ⟨p, hp, hk, hi⟩ := ih h
      obtain ⟨p', hp', hstep⟩ := h.step he hp
      obtain ⟨hk', hi'⟩ := hstep.keeps
      refine ⟨p', hp', hk'.trans hk, ?_⟩
      rw [hi', hi]
      simp only [reissued?, List.findSome?_cons]
      cases (e.change? id).bind Change.invoice? <;> rfl

/-- The payments under one name that two entries leave have one ticket. -/
theorem ticketId_unique (h : Lawful log) (hd : d ∈ log) (he : e ∈ log) {p q : Payment}
    (hp : d.after.payments.find? id = some p) (hq : e.after.payments.find? id = some q) :
    p.ticketId = q.ticketId := by
  have hlast : ∀ {e : Entry} {p : Payment}, e ∈ log → e.after.payments.find? id = some p →
      ∃ p', (storeAfter log).payments.find? id = some p' ∧ p'.ticketId = p.ticketId := by
    intro e p he hp
    obtain ⟨mid, start, rfl⟩ := List.append_of_mem he
    obtain ⟨p', hp', hk, -⟩ := h.attempt hp
    exact ⟨p', hp', hk⟩
  obtain ⟨p', hp', hpk⟩ := hlast hd hp
  obtain ⟨q', hq', hqk⟩ := hlast he hq
  cases hp'.symm.trans hq'
  exact hpk.symm.trans hqk

end Lawful

/-! ### Decisions -/

theorem Store.Outcome.created_payment {s s' : Store} {n : NewPurchase} {i : Invoice}
    {x : Ticket × Option Payment} (h : Outcome s (.createPurchase n id) (.ok x) s')
    (hi : n.invoice = some i) : ∃ p, s'.payments.find? id = some p ∧ p.ticketId = n.ticketId ∧
      p.invoice = i.encoded := by
  cases h with
  | kept hx => cases hx
  | created =>
    simp only [find?_payments_adding, hi, Option.isSome_some, and_true, if_true,
      NewPurchase.payment, Option.map_some, Option.some.injEq, exists_eq_left']

theorem Store.Outcome.reissued_payment {s s' : Store} {i : Invoice} {p : Payment}
    (h : Outcome s (.reissue id i) (.ok p) s') :
    s'.payments.find? id = some p ∧ p.invoice = i.encoded := by
  cases h with
  | kept hx => cases hx
  | reissued => exact ⟨by rw [find?_payments_update]; exact if_pos rfl, rfl⟩

theorem Store.find?_of_expiredPending {s : Store} {now : Time.Instant} {p : Payment}
    (h : p ∈ s.expiredPending now) : ∃ id, s.payments.find? id = some p := by
  have hm := (List.mergeSort_perm _ _).mem_iff.1 h
  exact Table.mem_values.1 (List.mem_filter.1 hm).1

/-- What a call that only reads replies is true of the store after it. -/
theorem Entry.Lawful.read (he : e.Lawful log) {c : Call} {y : c.Reply}
    (ht : e.turn = .call c (.ok y)) (hc : (e.before.perform c).2 = e.before) :
    (e.after.perform c).1 = .ok y := by
  have hreply := he.reply ht
  rw [hreply, Entry.after, ht]
  exact congrArg (fun s => (perform s c).1) hc

namespace Lawful

theorem puts_shows (h : Lawful log) (he : e.Lawful log) {encoded : String}
    (hputs : e.Puts k encoded) : ∃ id p, e.after.payments.find? id = some p ∧ p.ticketId = k ∧
      p.invoice = encoded := by
  cases hputs with
  | @created n id x i ht hi hencoded hk =>
    obtain ⟨p, hp, hpk, hinvoice⟩ := (h.outcome he ht).created_payment hi
    exact ⟨id, p, hp, hpk.trans hk, hinvoice.trans hencoded⟩
  | @reissued id i p ht hencoded hk =>
    obtain ⟨hp, hinvoice⟩ := (h.outcome he ht).reissued_payment
    exact ⟨id, p, hp, hk, hinvoice.trans hencoded⟩

theorem decision_shows (h : Lawful log) (hd : d.Lawful log) {status : PaymentStatus}
    {encoded : String} (hdecision : Decision k e d status encoded) :
    ∃ id p, d.after.payments.find? id = some p ∧ p.ticketId = k ∧ p.invoice = encoded := by
  cases hdecision with
  | failed _ hputs => exact h.puts_shows hd hputs
  | @expired now ps p _ ht hm hk =>
    have hlisted : d.after.expiredPending now = ps := Except.ok.inj (hd.read ht rfl)
    obtain ⟨id, hp⟩ := find?_of_expiredPending (hlisted ▸ hm)
    exact ⟨id, p, hp, hk, rfl⟩
  | @paid _ p _ ht hk =>
    obtain ⟨⟨id, hp⟩, hinvoice⟩ := find?_of_paymentByInvoice (Except.ok.inj (hd.read ht rfl))
    exact ⟨id, p, hp, hk, hinvoice⟩

/-- The payment was to be routed since its ticket was created, or since a retry. -/
theorem begun_puts (h : Lawful log) {i : Nat} {c : DispatchContext} (hbegun : Begun c (turnsOf i log)) :
    ∃ e ∈ log, e.Puts c.ticketId c.invoice := by
  rcases hbegun with ⟨n, id, x, i, hm, hi, hencoded, hk⟩ | ⟨id, p, i, q, hp, hq, hencoded, hk⟩
  · obtain ⟨e, he, -, ht⟩ := mem_turnsOf.1 hm
    exact ⟨e, he, .created ht hi hencoded hk⟩
  · obtain ⟨d, hd, -, hdt⟩ := mem_turnsOf.1 hp
    obtain ⟨e, he, -, het⟩ := mem_turnsOf.1 hq
    obtain ⟨_, _, -, -, hdl⟩ := h.of_mem hd
    obtain ⟨_, _, -, hearlier, hel⟩ := h.of_mem he
    have hp' := Except.ok.inj (hdl.read hdt rfl)
    have hq' := (hearlier.outcome hel het).reissued_payment.1
    exact ⟨e, he, .reissued het hencoded ((h.ticketId_unique he hd hq' hp').trans hk)⟩

theorem decided (h : Lawful log) (he : e.Lawful log) {tr : Transition}
    (ht : e.turn = .call (.applyTransition k tr) (.ok true)) :
    ∃ d ∈ log, ∃ encoded, Decision k e d tr.target encoded := by
  have hallowed := he.allowed
  rw [ht] at hallowed
  obtain ⟨-, hdecided⟩ := hallowed
  generalize tr.target = target at hdecided ⊢
  cases target with
  | pending => exact hdecided.elim
  | paid =>
    obtain ⟨encoded, p, hm, hk⟩ := hdecided
    obtain ⟨d, hd, htask, hturn⟩ := mem_turnsOf.1 hm
    exact ⟨d, hd, encoded, .paid htask hturn hk⟩
  | expired =>
    obtain ⟨now, ps, hm, p, hp, hk⟩ := hdecided
    obtain ⟨d, hd, htask, hturn⟩ := mem_turnsOf.1 hm
    exact ⟨d, hd, p.invoice, .expired htask hturn hp hk⟩
  | failed =>
    obtain ⟨c, hjob, rfl⟩ := hdecided
    obtain ⟨d, hd, hdispatch⟩ := he.dispatched hjob
    obtain ⟨later, earlier, rfl, hearlier, hdl⟩ := h.of_mem hd
    have hbegun := hdl.allowed
    rw [hdispatch] at hbegun
    obtain ⟨u, hu, hputs⟩ := hearlier.begun_puts hbegun
    exact ⟨u, List.mem_append_right _ (.tail _ hu), c.invoice, .failed hjob hputs⟩

theorem decision_invoice {mid start : List Entry} (h : Lawful (mid ++ d :: start))
    {status : PaymentStatus} {encoded : String} (hdecision : Decision k e d status encoded)
    {p : Payment} (hp : (storeAfter (mid ++ d :: start)).paymentForTicket k = some p) :
    p.invoice = (reissued? p.id mid).elim encoded Invoice.encoded := by
  obtain ⟨id, q, hq, rfl, rfl⟩ : ∃ id q, d.after.payments.find? id = some q ∧ q.ticketId = k ∧
      q.invoice = encoded := by
    cases h.suffix with
    | cons hstart hd => exact hstart.decision_shows hd hdecision
  obtain ⟨p', hp', hk, hinvoice⟩ := h.attempt hq
  obtain ⟨hfound, hpk⟩ := h.coherent.paymentForTicket_iff.1 hp
  have hid : id = p.id := h.coherent.single hp' hfound (hk.trans hpk.symm)
  subst hid
  cases hp'.symm.trans hfound
  exact hinvoice

end Lawful

/-- A payment is failed that has another invoice than the one routed, and that has not expired. -/
def Entry.overtaken (e : Entry) : Bool :=
  match e.job, e.applied? with
  | .route c, some (k, tr) => tr.target = .failed &&
    (e.before.paymentForTicket k).any (·.invoice ≠ c.invoice) &&
    (e.before.invoices.find? k).any fun i => !i.isExpired tr.time
  | _, _ => false

theorem Entry.exists_of_overtaken (h : e.overtaken) : ∃ c k tr p, e.job = .route c ∧
    e.applied? = some (k, tr) ∧ tr.target = .failed ∧ e.before.paymentForTicket k = some p ∧
    p.invoice ≠ c.invoice := by
  unfold overtaken at h
  split at h
  · next c k tr hjob happlied =>
    simp only [Bool.and_eq_true, decide_eq_true_eq, Option.any_eq_true] at h
    obtain ⟨⟨htarget, p, hp, hne⟩, -⟩ := h
    exact ⟨c, k, tr, p, hjob, happlied, htarget, hp, by simpa using hne⟩
  · cases h

namespace Office

/-- A sale that expires and is retried while its request is under way to the counterparty, which
then refuses it. -/
def sampleOvertaken : List Move :=
  sampleSale ++ Move.turns 4 2 {} ++
  .begin .sweep :: Move.turns 8 3 {} ++
  .begin (.retry ⟨⟨0⟩⟩) :: Move.turns 9 4 { invoice := "b", expiresAt := .ofSeconds 1 } ++
  Move.turns 6 2 { delivers := false }

theorem overtaken_sampleOvertaken :
    ∃ e ∈ (run sampleSetup sampleOvertaken).log, e.overtaken := by
  decide +kernel

theorem change_lands (setup : Setup) (moves : List Move) {later earlier : List Entry} {e : Entry}
    (hlog : (run setup moves).log = later ++ e :: earlier) {k : TicketId} {tr : Transition}
    (happlied : e.applied? = some (k, tr)) : e.Lands earlier k tr := by
  have h := (sound_run setup moves).lawful
  rw [hlog] at h
  have ht := Entry.turn_of_applied happlied
  cases h.suffix with
  | cons hearlier he =>
    constructor
    case pending =>
      obtain ⟨p, hp, hpending, -⟩ := hearlier.applied he ht
      exact ⟨p, hp, hpending⟩
    case decided =>
      obtain ⟨d, hd, encoded, hdecision⟩ := hearlier.decided he ht
      obtain ⟨mid, start, hsplit⟩ := List.append_of_mem hd
      exact ⟨mid, d, start, encoded, hsplit, hdecision⟩
    case invoice =>
      rintro p mid start d encoded hp rfl hdecision
      rw [← he.before.paymentForTicket hearlier.coherent] at hp
      exact hearlier.decision_invoice hdecision hp

/-- What was decided on is not always what is closed. -/
theorem lands_elsewhere :
    ¬ ∀ (setup : Setup) (moves : List Move) (later mid start : List Entry) (e d : Entry)
      (k : TicketId) (tr : Transition) (p : Payment) (encoded : String),
      (run setup moves).log = later ++ e :: (mid ++ d :: start) → e.applied? = some (k, tr) →
      Decision k e d tr.target encoded → e.before.paymentForTicket k = some p →
      p.invoice = encoded := by
  intro hclaim
  obtain ⟨e, he, hovertaken⟩ := overtaken_sampleOvertaken
  obtain ⟨c, k, tr, p, hjob, happlied, htarget, hp, hne⟩ := Entry.exists_of_overtaken hovertaken
  obtain ⟨later, earlier, hlog, hearlier, hel⟩ :=
    (sound_run sampleSetup sampleOvertaken).lawful.of_mem he
  obtain ⟨d, hd, encoded, hdecision⟩ := hearlier.decided hel (Entry.turn_of_applied happlied)
  obtain ⟨mid, start, rfl⟩ := List.append_of_mem hd
  have heq := hclaim _ _ later mid start e d k tr p encoded hlog happlied hdecision hp
  rw [htarget] at hdecision
  cases hdecision with
  | failed hjob' =>
    cases hjob.symm.trans hjob'
    exact hne heq

theorem change_lands_sampleOvertaken :
    ∃ later e earlier k tr, (run sampleSetup sampleOvertaken).log = later ++ e :: earlier ∧
      e.applied? = some (k, tr) ∧ e.overtaken ∧ e.Lands earlier k tr := by
  obtain ⟨e, he, hovertaken⟩ := overtaken_sampleOvertaken
  obtain ⟨_, k, tr, _, -, happlied, -⟩ := Entry.exists_of_overtaken hovertaken
  obtain ⟨later, earlier, hlog⟩ := List.append_of_mem he
  exact ⟨later, e, earlier, k, tr, hlog, happlied, hovertaken, change_lands _ _ hlog happlied⟩

end Office

end BoxOffice
