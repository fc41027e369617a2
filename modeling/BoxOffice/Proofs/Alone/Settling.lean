import BoxOffice.Proofs.Alone.Running
import BoxOffice.Proofs.Office.Basic
import BoxOffice.Proofs.Store.Invoices

/-! One notification that is handled alone. What it comes to depends on its signature, on the
invoice that the processor's answers lead to, and on the payment that has this invoice. The store
is changed only when that payment is pending. -/

namespace BoxOffice

open Program

/-- The notification has a signature, and it is good. -/
def isGenuine (setup : Setup) (body : Bytes) (signature : Option String) : Bool :=
  signature.any (Signature.verify setup.secret body)

/-- The notification tells that the payment of an entity has finished. -/
structure Announces (setup : Setup) (body : Bytes) (signature : Option String) (entity : String) :
    Prop where
  genuine : isGenuine setup body signature
  event : ∃ event, WebhookEvent.ofBody? body = some event ∧
    event.eventType = WebhookEvent.paymentFinished ∧ event.entityId = entity

namespace Surroundings

/-- The encoded invoice of an entity, after some turns. -/
def invoiceOf (w : Surroundings) (h : List Turn) : SettlementEntity → Except ReconcileError String
  | .incoming id invoiceId =>
    match w h (.fetchInvoice invoiceId) with
    | .error e => .error (.processor e)
    | .ok invoice =>
      if invoice.encoded.isEmpty then .error (.missingPaymentRequest id) else .ok invoice.encoded
  | .outgoing id request =>
    match request.bind (·.encoded?) with
    | none => .error (.missingPaymentRequest id)
    | some encoded => .ok encoded

/-- The encoded invoice that the processor's answers lead to, or what comes in the way. -/
def resolve (w : Surroundings) (entity : String) : Except ReconcileError String :=
  match w [] (.fetchSettlement entity) with
  | .error e => .error (.processor e)
  | .ok settlement => w.invoiceOf [⟨.fetchSettlement entity, .ok settlement⟩] settlement

/-- The clock showed the time in one of the turns. -/
def Showed (w : Surroundings) (now : Time.Instant) (h : List Turn) : Prop :=
  (∃ earlier, w earlier .now = now) ∧ ⟨.now, now⟩ ∈ h

end Surroundings

/-- The invoice of an entity was found in the turns. -/
def SettlementEntity.Shows (encoded : String) (h : List Turn) : SettlementEntity → Prop
  | .incoming _ invoiceId => ∃ x : ProcessorInvoice,
    ⟨.fetchInvoice invoiceId, .ok x⟩ ∈ h ∧ x.encoded = encoded ∧ ¬ x.encoded.isEmpty
  | .outgoing _ request => request.bind (·.encoded?) = some encoded

/-- The entity was found in the turns, and so was its invoice. -/
def Resolved (entity encoded : String) (h : List Turn) : Prop :=
  ∃ settlement, ⟨.fetchSettlement entity, .ok settlement⟩ ∈ h ∧ settlement.Shows encoded h

theorem Resolved.mono {entity encoded : String} {h h' : List Turn} (hr : Resolved entity encoded h)
    (hh : ∀ t ∈ h, t ∈ h') : Resolved entity encoded h' := by
  obtain ⟨settlement, hm, hshows⟩ := hr
  refine ⟨settlement, hh _ hm, ?_⟩
  cases settlement with
  | incoming id invoiceId =>
    obtain ⟨x, hx, hencoded⟩ := hshows
    exact ⟨x, hh _ hx, hencoded⟩
  | outgoing id request => exact hshows

/-- What a notification of the payment comes to. -/
def Payment.verdict (p : Payment) : ReconcileOutcome :=
  match p.status with
  | .pending => .settled p.ticketId
  | .paid => .alreadySettled p.ticketId
  | status => .rejected p.ticketId status

theorem Payment.verdict_ne {p : Payment} (hclosed : p.status ≠ .pending) (k : TicketId) :
    p.verdict ≠ .settled k := by
  unfold Payment.verdict
  cases hstatus : p.status with
  | pending => exact absurd hstatus hclosed
  | _ => exact nofun

/-- What a notification of the invoice comes to. -/
def Store.verdict (s : Store) (encoded : String) : ReconcileOutcome :=
  match s.paymentByInvoice encoded with
  | none => .unmatched encoded
  | some p => p.verdict

/-- What a notification comes to. -/
def answerTo (setup : Setup) (w : Surroundings) (s : Store) (body : Bytes)
    (signature : Option String) : Except ReconcileError ReconcileOutcome :=
  if isGenuine setup body signature then
    match WebhookEvent.ofBody? body with
    | none => .error (.malformedPayload "not an event")
    | some event =>
      if event.eventType = WebhookEvent.paymentFinished then
        (w.resolve event.entityId).map s.verdict
      else .ok (.ignored event.eventType)
  else .error .invalidSignature

/-! ### Answers -/

theorem Surroundings.resolve_ne {w : Surroundings} {entity : String} :
    w.resolve entity ≠ .error .invalidSignature := by
  unfold resolve invoiceOf
  repeat' split
  all_goals exact nofun

section Answer

variable {setup : Setup} {w : Surroundings} {s : Store} {body : Bytes} {signature : Option String}
  {entity : String} {event : WebhookEvent} {k : TicketId}

theorem Announces.eq (h : Announces setup body signature entity)
    (hbody : WebhookEvent.ofBody? body = some event) :
    event.eventType = WebhookEvent.paymentFinished ∧ event.entityId = entity := by
  obtain ⟨event', hevent, htype⟩ := h.event
  cases hbody.symm.trans hevent
  exact htype

theorem answerTo_forged (h : ¬ isGenuine setup body signature) :
    answerTo setup w s body signature = .error .invalidSignature := by
  rw [answerTo, if_neg h]

theorem answerTo_malformed (hgenuine : isGenuine setup body signature)
    (hbody : WebhookEvent.ofBody? body = none) :
    answerTo setup w s body signature = .error (.malformedPayload "not an event") := by
  simp only [answerTo, hgenuine, if_true, hbody]

theorem answerTo_ignored (hgenuine : isGenuine setup body signature)
    (hbody : WebhookEvent.ofBody? body = some event)
    (htype : event.eventType ≠ WebhookEvent.paymentFinished) :
    answerTo setup w s body signature = .ok (.ignored event.eventType) := by
  simp only [answerTo, hgenuine, if_true, hbody, htype, if_false]

theorem answerTo_announced (h : Announces setup body signature entity) :
    answerTo setup w s body signature = (w.resolve entity).map s.verdict := by
  obtain ⟨hgenuine, event, hevent, htype, rfl⟩ := h
  simp only [answerTo, hgenuine, if_true, hevent, htype]

/-- A good notification that announces no payment is malformed or ignored. -/
theorem answerTo_other (hgenuine : isGenuine setup body signature)
    (h : ∀ entity, ¬ Announces setup body signature entity) :
    (∃ detail, answerTo setup w s body signature = .error (.malformedPayload detail)) ∨
      ∃ type, answerTo setup w s body signature = .ok (.ignored type) := by
  cases hbody : WebhookEvent.ofBody? body with
  | none => exact .inl ⟨_, answerTo_malformed hgenuine hbody⟩
  | some event =>
    have htype : event.eventType ≠ WebhookEvent.paymentFinished :=
      fun htype => h event.entityId ⟨hgenuine, event, hbody, htype, rfl⟩
    exact .inr ⟨_, answerTo_ignored hgenuine hbody htype⟩

theorem answerTo_unsigned : answerTo setup w s body signature = .error .invalidSignature ↔
    ¬ isGenuine setup body signature := by
  constructor
  · intro hanswer hgenuine
    by_cases h : ∃ entity, Announces setup body signature entity
    · obtain ⟨entity, hannounced⟩ := h
      rw [answerTo_announced hannounced] at hanswer
      cases hresolve : w.resolve entity with
      | ok encoded =>
        rw [hresolve] at hanswer
        cases hanswer
      | error e =>
        rw [hresolve] at hanswer
        cases hanswer
        exact Surroundings.resolve_ne hresolve
    · rcases answerTo_other hgenuine (not_exists.1 h) with ⟨_, h⟩ | ⟨_, h⟩ <;>
        cases hanswer.symm.trans h
  · exact answerTo_forged

theorem Store.verdict_settled {encoded : String} (h : s.verdict encoded = .settled k) :
    ∃ p, s.paymentByInvoice encoded = some p ∧ p.status = .pending ∧ p.ticketId = k := by
  unfold Store.verdict at h
  cases hfound : s.paymentByInvoice encoded with
  | none =>
    rw [hfound] at h
    cases h
  | some p =>
    rw [hfound] at h
    by_cases hpending : p.status = .pending
    · simp only [Payment.verdict, hpending, ReconcileOutcome.settled.injEq] at h
      exact ⟨p, rfl, hpending, h⟩
    · exact absurd h (Payment.verdict_ne hpending k)

/-- What is settled is the pending payment that has the invoice of an announced entity. -/
theorem answerTo_settled (hanswer : answerTo setup w s body signature = .ok (.settled k)) :
    ∃ entity p, Announces setup body signature entity ∧ w.resolve entity = .ok p.invoice ∧
      s.paymentByInvoice p.invoice = some p ∧ p.status = .pending ∧ p.ticketId = k := by
  have hgenuine : isGenuine setup body signature := Decidable.not_not.1 fun h =>
    nomatch hanswer.symm.trans (answerTo_unsigned.2 h)
  by_cases h : ∃ entity, Announces setup body signature entity
  · obtain ⟨entity, hannounced⟩ := h
    rw [answerTo_announced hannounced] at hanswer
    cases hresolve : w.resolve entity with
    | error e =>
      rw [hresolve] at hanswer
      cases hanswer
    | ok encoded =>
      rw [hresolve] at hanswer
      obtain ⟨p, hp, hpending, hk⟩ := Store.verdict_settled (Except.ok.inj hanswer)
      obtain ⟨-, rfl⟩ := Store.find?_of_paymentByInvoice hp
      exact ⟨entity, p, hannounced, hresolve, hp, hpending, hk⟩
  · rcases answerTo_other hgenuine (not_exists.1 h) with ⟨_, h⟩ | ⟨_, h⟩ <;>
      cases hanswer.symm.trans h

end Answer

/-- Nobody is told of a settlement between the two histories. -/
abbrev Silent (h h' : List Turn) : Prop := Since (fun r => ∀ url n, r ≠ .notify url n) h h'

theorem Untold.of_silent {h : List Turn} (hs : Silent [] h) : Untold h := by
  intro url n t ht
  rcases hs.of_mem ht with ht | ht
  · cases ht
  · exact ht url n

/-! ### Notices -/

/-- The notice that a counterparty is sent, and where. -/
def Request.notice? : Request → Option (String × SettlementNotice)
  | .notify url notice => some (url, notice)
  | _ => none

/-- The notices that were sent, latest first. -/
def told (h : List Turn) : List (String × SettlementNotice) :=
  (h.map (·.request)).filterMap (·.notice?)

theorem told_append (h h' : List Turn) : told (h ++ h') = told h ++ told h' := by
  rw [told, List.map_append, List.filterMap_append]
  rfl

theorem Since.told_eq {h h' : List Turn} (hs : Silent h h') : told h' = told h := by
  obtain ⟨new, rfl, hnew⟩ := hs
  have hnone : told new = [] := by
    rw [told, List.filterMap_map, List.filterMap_eq_nil_iff]
    intro t ht
    have ht := hnew t ht
    rw [Function.comp_apply]
    cases hr : t.request with
    | notify url notice => exact absurd hr (ht url notice)
    | _ => rfl
  rw [told_append, hnone, List.nil_append]

theorem Untold.told_eq {h : List Turn} (hu : Untold h) : told h = [] := by
  have hsilent : Silent [] h := ⟨h, (List.append_nil h).symm, fun t ht url n => hu url n t ht⟩
  exact hsilent.told_eq

/-- The notice that is to be sent when the payment is settled, if anybody asked for it. -/
def Payment.notices (setup : Setup) (p : Payment) (time : Time.Instant) :
    List (String × SettlementNotice) :=
  p.counterpartyCallback.toList.map fun url =>
    (url, ⟨setup.receiver.domain, p.invoice, p.amount.millisats, time⟩)

/-! ### What is fetched -/

namespace Service

open Lifecycle

variable {setup : Setup} {w : Surroundings} {s : Store} {h : List Turn} {body : Bytes}
  {signature : Option String}

theorem Inner.silent {h h' : List Turn} (hi : Inner h h') : Silent h h' := by
  refine hi.mono ?_
  rintro r hr url n rfl
  cases hr

theorem settledInvoice_alone (w : Surroundings) (s : Store) (h : List Turn)
    (entity : SettlementEntity) :
    Keeps w (fun x h' => x = w.invoiceOf h entity ∧ Silent h h' ∧
      ∀ encoded, x = .ok encoded → entity.Shows encoded h') (settledInvoice entity).run s h := by
  cases entity with
  | incoming id invoiceId =>
    have hfetch : (within ReconcileError.processor
        (ExceptT.mk (request (.fetchInvoice invoiceId)))).run.alone w s h =
        ⟨some ((w h (.fetchInvoice invoiceId)).mapError .processor), s,
          ⟨.fetchInvoice invoiceId, w h (.fetchInvoice invoiceId)⟩ :: h⟩ := rfl
    have hsilent : Silent h (⟨.fetchInvoice invoiceId, w h (.fetchInvoice invoiceId)⟩ :: h) :=
      (Since.refl h).cons nofun
    refine Ends.keeps ?_
    unfold settledInvoice Surroundings.invoiceOf
    dsimp only
    generalize w h (.fetchInvoice invoiceId) = x at hfetch hsilent ⊢
    cases x with
    | error e => exact .error hfetch ⟨rfl, rfl, hsilent, nofun⟩
    | ok invoice =>
      refine .ok hfetch ?_
      dsimp only
      split
      · exact ⟨_, _, _, rfl, rfl, rfl, hsilent, nofun⟩
      · next hnonempty =>
        refine ⟨_, _, _, rfl, rfl, rfl, hsilent, ?_⟩
        rintro _ ⟨⟩
        exact ⟨invoice, List.mem_cons_self, rfl, hnonempty⟩
  | outgoing id request =>
    unfold settledInvoice Surroundings.invoiceOf
    dsimp only
    cases hencoded : request.bind (·.encoded?) with
    | none => exact ⟨_, _, rfl, rfl, .refl h, nofun⟩
    | some encoded =>
      refine ⟨_, _, rfl, rfl, .refl h, ?_⟩
      rintro _ ⟨⟩
      exact hencoded

/-- The fetches come first; they lead to an invoice or to an error. -/
theorem Ends.of_resolve {entity : String}
    {f : String → ExceptT ReconcileError Program ReconcileOutcome}
    {done : Except ReconcileError ReconcileOutcome → Store → List Turn → Prop}
    (herror : ∀ e h', w.resolve entity = .error e → Silent [] h' → done (.error e) s h')
    (hok : ∀ encoded h', w.resolve entity = .ok encoded → Silent [] h' →
      Resolved entity encoded h' → Ends w done (f encoded).run s h') :
    Ends w done
      (within ReconcileError.processor (ExceptT.mk (request (.fetchSettlement entity))) >>=
        fun settlement => settledInvoice settlement >>= f).run s [] := by
  have hfetch : (within ReconcileError.processor
      (ExceptT.mk (request (.fetchSettlement entity)))).run.alone w s [] =
      ⟨some ((w [] (.fetchSettlement entity)).mapError .processor), s,
        [⟨.fetchSettlement entity, w [] (.fetchSettlement entity)⟩]⟩ := rfl
  have hsilent : Silent [] [⟨.fetchSettlement entity, w [] (.fetchSettlement entity)⟩] :=
    (Since.refl []).cons nofun
  unfold Surroundings.resolve at herror hok
  generalize w [] (.fetchSettlement entity) = x at hfetch hsilent herror hok
  cases x with
  | error e => exact .error hfetch (herror _ _ rfl hsilent)
  | ok settlement =>
    obtain ⟨y, h', hinvoice, hy, hsilent', hshows⟩ := settledInvoice_alone w s
      [⟨.fetchSettlement entity, .ok settlement⟩] settlement
    refine .ok hfetch ?_
    cases y with
    | error e => exact .error hinvoice (herror _ _ hy.symm (hsilent.trans hsilent'))
    | ok encoded =>
      have hfound := mem_of_alone hinvoice List.mem_cons_self
      exact .ok hinvoice
        (hok _ _ hy.symm (hsilent.trans hsilent') ⟨settlement, hfound, hshows _ rfl⟩)

theorem notifyCounterparty_alone (setup : Setup) (w : Surroundings) (s : Store) (h : List Turn)
    (p : Payment) (time : Time.Instant) :
    Keeps w (fun _ h' => told h' = p.notices setup time ++ told h)
      (notifyCounterparty setup p (some time)) s h := by
  unfold notifyCounterparty Payment.notices
  cases p.counterpartyCallback with
  | none => exact ⟨_, _, rfl, rfl⟩
  | some url => exact ⟨_, _, rfl, rfl⟩

/-! ### Settling the payment found -/

section Settle

variable (hs : s.Coherent) {p : Payment} {t : Ticket} (hp : s.payments.find? p.id = some p)
  (ht : s.tickets.find? p.ticketId = some t)

include hs hp ht

theorem settle_pending (hpending : p.status = .pending) (setup : Setup) (w : Surroundings)
    (h : List Turn) :
    Ends w (fun x s' h' => x = .ok (.settled p.ticketId) ∧
        ∃ now, w.Showed now h' ∧ s' = s.moving p t ⟨.pending, .paid, now⟩ ∧
          told h' = p.notices setup now ++ told h)
      (settle setup p).run s h := by
  have hreduce : ∀ env, reduce env (.ofRecords t p) (.settlementMatched (w h .now)) =
      ({ (ofRecords t p).setStatus .paid with
          stage := .settled, paidAt := some (w h .now) }, []) := by
    intro env
    simp only [reduce, ofRecords, hpending]
  have hchange : PaymentStatus.paid ≠ p.status := by
    rw [hpending]
    decide
  obtain ⟨_, _, h₁, hrun, rfl, hinner, time, rfl, htime⟩ := apply_changes hs
    (hs.paymentForTicket_eq hp) ht hreduce hchange setup w (⟨.now, w h .now⟩ :: h)
  cases htime _ rfl
  obtain ⟨_, h₂, hnotify, htold⟩ := notifyCounterparty_alone setup w
    (s.moving p t ⟨p.status, .paid, w h .now⟩) h₁ p (w h .now)
  have hnow := mem_of_alone hnotify (mem_of_alone hrun List.mem_cons_self)
  have huntold : told h₁ = told h := hinner.silent.told_eq
  rw [huntold] at htold
  unfold settle
  refine .ok (alone_lift rfl) (.ok (alone_within hrun _) ?_)
  refine .ok (alone_lift hnotify) ?_
  exact ⟨_, _, _, rfl, rfl, _, ⟨⟨h, rfl⟩, hnow⟩, rfl, htold⟩

theorem settle_closed (hclosed : p.status ≠ .pending) (setup : Setup) (w : Surroundings)
    (h : List Turn) :
    Keeps w (fun x h' => x = .ok p.verdict ∧ Silent h h') (settle setup p).run s h := by
  have hreduce : ∀ env, ∃ error, reduce env (.ofRecords t p) (.settlementMatched (w h .now)) =
      ({ ofRecords t p with lastError := error }, []) := by
    intro env
    cases hstatus : p.status with
    | pending => exact absurd hstatus hclosed
    | paid => exact ⟨none, by simp only [reduce, ofRecords, hstatus]⟩
    | _ => exact ⟨_, by simp only [reduce, ofRecords, hstatus]; rfl⟩
  obtain ⟨_, h₁, hrun, rfl, hinner⟩ := apply_kept (hs.paymentForTicket_eq hp) ht hreduce setup w
    (⟨.now, w h .now⟩ :: h)
  have hsilent : Silent h h₁ := Inner.silent (((.refl h : Inner h h).cons rfl).trans hinner)
  refine Ends.keeps ?_
  unfold settle
  refine .ok (alone_lift rfl) (.ok (alone_within hrun _) ?_)
  dsimp only [ofRecords]
  cases hstatus : p.status with
  | pending => exact absurd hstatus hclosed
  | _ => exact ⟨_, _, _, rfl, rfl, by simp only [Payment.verdict, hstatus], hsilent⟩

end Settle

/-! ### Whole notifications -/

/-- What the store and the turns show when a notification has been answered. -/
structure Handling (w : Surroundings) (s : Store) (x : Except ReconcileError ReconcileOutcome)
    (s' : Store) (h : List Turn) : Prop where
  settled {k : TicketId} : x = .ok (.settled k) → ∃ p t now, s.payments.find? p.id = some p ∧
    p.ticketId = k ∧ p.status = .pending ∧ s.tickets.find? k = some t ∧ w.Showed now h ∧
    s' = s.moving p t ⟨.pending, .paid, now⟩
  kept : (∀ k, x ≠ .ok (.settled k)) → s' = s ∧ Untold h

/-- As `Handling`, where the answer is that to a notification and the turns show what it is about. -/
structure Answering (setup : Setup) (w : Surroundings) (s : Store) (body : Bytes)
    (signature : Option String) (x : Except ReconcileError ReconcileOutcome) (s' : Store)
    (h : List Turn) : Prop where
  answer : x = answerTo setup w s body signature
  handling : Handling w s x s' h
  resolved {entity encoded : String} : Announces setup body signature entity →
    w.resolve entity = .ok encoded → Resolved entity encoded h

theorem Handling.of_kept {x : Except ReconcileError ReconcileOutcome}
    (hx : ∀ k, x ≠ .ok (.settled k)) (hsilent : Silent [] h) : Handling w s x s h :=
  ⟨fun he => absurd he (hx _), fun _ => ⟨rfl, .of_silent hsilent⟩⟩

/-- A notification that announces no payment leaves all as it is. -/
theorem Answering.of_other {x : Except ReconcileError ReconcileOutcome}
    (hx : x = answerTo setup w s body signature) (hne : ∀ k, x ≠ .ok (.settled k))
    (hother : ∀ entity, ¬ Announces setup body signature entity) :
    Answering setup w s body signature x s [] :=
  ⟨hx, .of_kept hne (.refl []), fun ha _ => absurd ha (hother _)⟩

theorem Handling.count {x : Except ReconcileError ReconcileOutcome} {s' : Store}
    (hx : Handling w s x s' h) (c : Counter) : Handling w s x s' (⟨.count c, ()⟩ :: h) := by
  constructor
  case settled =>
    intro k hk
    obtain ⟨p, t, now, hp, hpk, hpending, ht, hnow, hs'⟩ := hx.settled hk
    exact ⟨p, t, now, hp, hpk, hpending, ht, ⟨hnow.1, .tail _ hnow.2⟩, hs'⟩
  case kept =>
    intro hne
    obtain ⟨hs', huntold⟩ := hx.kept hne
    refine ⟨hs', fun url n => ?_⟩
    rintro t (_ | ⟨_, ht⟩)
    · exact nofun
    · exact huntold url n t ht

theorem settle_alone (hs : s.Coherent) {p : Payment} (hp : s.payments.find? p.id = some p)
    (setup : Setup) (w : Surroundings) (hsilent : Silent [] h) :
    Ends w (fun x s' h' => x = .ok p.verdict ∧ Handling w s x s' h') (settle setup p).run s h := by
  obtain ⟨t, _, ht, -⟩ := hs.records hp
  by_cases hpending : p.status = .pending
  · obtain ⟨_, s', h', hrun, rfl, now, hnow, hs', -⟩ := settle_pending hs hp ht hpending setup w h
    have hverdict : p.verdict = .settled p.ticketId := by simp only [Payment.verdict, hpending]
    refine ⟨_, s', h', hrun, by rw [hverdict], ⟨?_, fun hne => absurd rfl (hne p.ticketId)⟩⟩
    rintro k ⟨⟩
    exact ⟨p, t, now, hp, rfl, hpending, ht, hnow, hs'⟩
  · obtain ⟨_, h', hrun, rfl, hsilent'⟩ := settle_closed hs hp ht hpending setup w h
    have hne : ∀ k, (.ok p.verdict : Except ReconcileError ReconcileOutcome) ≠ .ok (.settled k) :=
      fun k he => Payment.verdict_ne hpending k (Except.ok.inj he)
    exact ⟨_, s, h', hrun, rfl, .of_kept hne (hsilent.trans hsilent')⟩

/-- The payment that has the invoice is settled, if there is one. -/
theorem lookup_alone (hs : s.Coherent) {encoded : String}
    {f : Option Payment → ExceptT ReconcileError Program ReconcileOutcome}
    (hnone : f none = Pure.pure (ReconcileOutcome.unmatched encoded))
    (hsome : ∀ p, f (some p) = settle setup p) (hsilent : Silent [] h) :
    Ends w (fun x s' h' => x = .ok (s.verdict encoded) ∧ Handling w s x s' h')
      (within ReconcileError.store (Program.store (.paymentByInvoice encoded)) >>= f).run s h := by
  have hlookup : s.perform (.paymentByInvoice encoded) =
      (.ok (s.paymentByInvoice encoded), s) := rfl
  have hsilent' : Silent [] (.call (.paymentByInvoice encoded)
      (.ok (s.paymentByInvoice encoded)) :: h) := hsilent.cons nofun
  refine .ok (alone_within (alone_store hlookup) _) ?_
  dsimp only [Store.verdict]
  generalize hfound : s.paymentByInvoice encoded = found at hsilent' ⊢
  cases found with
  | none =>
    rw [hnone]
    exact ⟨_, _, _, rfl, rfl, .of_kept nofun hsilent'⟩
  | some p =>
    obtain ⟨⟨id, hp⟩, -⟩ := Store.find?_of_paymentByInvoice hfound
    rw [hsome]
    exact settle_alone hs (hs.payment_key hp ▸ hp) setup w hsilent'

theorem reconcileEvent_alone (hs : s.Coherent) (setup : Setup) (w : Surroundings)
    {event : WebhookEvent} (hfinished : event.eventType = WebhookEvent.paymentFinished) :
    Ends w (fun x s' h' => x = (w.resolve event.entityId).map s.verdict ∧ Handling w s x s' h' ∧
        ∀ encoded, w.resolve event.entityId = .ok encoded → Resolved event.entityId encoded h')
      (reconcileEvent setup event).run s [] := by
  unfold reconcileEvent
  rw [if_neg (not_not_intro hfinished)]
  refine Ends.of_resolve (fun e h' he hsilent => ?_) fun encoded h' he hsilent hresolved => ?_
  · rw [he]
    exact ⟨rfl, .of_kept nofun hsilent, nofun⟩
  · rw [he]
    refine (lookup_alone hs rfl (fun _ => rfl) hsilent).mono fun x s' h'' hh hx => ?_
    refine ⟨hx.1, hx.2, ?_⟩
    rintro _ ⟨⟩
    exact hresolved.mono hh

theorem reconcile_alone (hs : s.Coherent) (setup : Setup) (w : Surroundings) (body : Bytes)
    (signature : Option String) :
    Ends w (Answering setup w s body signature) (reconcile setup body signature).run s [] := by
  have hforged : ¬ isGenuine setup body signature →
      Answering setup w s body signature (.error .invalidSignature) s [] := fun h =>
    .of_other (answerTo_forged h).symm nofun fun _ ha => h ha.genuine
  unfold reconcile
  cases signature with
  | none => exact .error rfl (hforged Bool.false_ne_true)
  | some text =>
    refine .ok rfl ?_
    cases hverified : Signature.verify setup.secret body text with
    | false => exact .error rfl (hforged (ne_true_of_eq_false hverified))
    | true =>
      have hgenuine : isGenuine setup body (some text) := hverified
      cases hbody : WebhookEvent.ofBody? body with
      | none =>
        refine .error rfl (.of_other (answerTo_malformed hgenuine hbody).symm nofun ?_)
        intro _ ha
        obtain ⟨event, hevent, -⟩ := ha.event
        cases hbody.symm.trans hevent
      | some event =>
        refine .ok rfl ?_
        by_cases hfinished : event.eventType = WebhookEvent.paymentFinished
        · have hannounced : Announces setup body (some text) event.entityId :=
            ⟨hgenuine, event, hbody, hfinished, rfl⟩
          refine (reconcileEvent_alone hs setup w hfinished).mono fun x s' h' _ hx => ?_
          refine ⟨hx.1.trans (answerTo_announced hannounced).symm, hx.2.1, fun ha he => ?_⟩
          obtain ⟨-, rfl⟩ := ha.eq hbody
          exact hx.2.2 _ he
        · unfold reconcileEvent
          rw [if_pos hfinished]
          refine ⟨_, _, _, rfl, .of_other (answerTo_ignored hgenuine hbody hfinished).symm nofun ?_⟩
          exact fun _ ha => hfinished (ha.eq hbody).1

theorem onNotification_alone (hs : s.Coherent) (setup : Setup) (w : Surroundings) (body : Bytes)
    (signature : Option String) :
    Ends w (Answering setup w s body signature) (onNotification setup body signature).run s [] := by
  obtain ⟨x, s', h', hrun, hx⟩ := reconcile_alone hs setup w body signature
  refine .seq hrun ⟨x, s', _, rfl, hx.answer, hx.handling.count _, fun ha he => ?_⟩
  exact (hx.resolved ha he).mono fun _ => .tail _

end Service

/-- The payment that is settled is the one that has the invoice of the announced entity. -/
theorem Service.Answering.settled {setup : Setup} {w : Surroundings} {s s' : Store} {body : Bytes}
    {signature : Option String} {k : TicketId} {h : List Turn} (hs : s.Coherent)
    (hx : Answering setup w s body signature (.ok (.settled k)) s' h) :
    ∃ entity p t now, Announces setup body signature entity ∧ w.resolve entity = .ok p.invoice ∧
      Resolved entity p.invoice h ∧ s.payments.find? p.id = some p ∧ p.ticketId = k ∧
      p.status = .pending ∧ s.tickets.find? k = some t ∧ w.Showed now h ∧
      s' = s.moving p t ⟨.pending, .paid, now⟩ := by
  obtain ⟨p, t, now, hp, rfl, hpending, ht, hnow, hs'⟩ := hx.handling.settled rfl
  obtain ⟨entity, q, hannounced, hresolve, hfound, -, hqk⟩ := answerTo_settled hx.answer.symm
  obtain ⟨⟨id, hq⟩, -⟩ := Store.find?_of_paymentByInvoice hfound
  cases hs.single hq hp hqk
  cases hq.symm.trans hp
  exact ⟨entity, p, t, now, hannounced, hresolve, hx.resolved hannounced hresolve, hp, rfl,
    hpending, ht, hnow, hs'⟩

/-- What is to be told of a notification that was handled alone from a store. -/
structure Handled (setup : Setup) (w : Surroundings) (s : Store) (body : Bytes)
    (signature : Option String) (r : Ran (Except ReconcileError ReconcileOutcome)) : Prop where
  unsigned : r.result = some (.error .invalidSignature) ↔ ¬ isGenuine setup body signature
  malformed : isGenuine setup body signature → WebhookEvent.ofBody? body = none →
    ∃ detail, r.result = some (.error (.malformedPayload detail))
  ignored {event : WebhookEvent} : isGenuine setup body signature →
    WebhookEvent.ofBody? body = some event → event.eventType ≠ WebhookEvent.paymentFinished →
    r.result = some (.ok (.ignored event.eventType))
  unresolved {entity : String} {e : ReconcileError} : Announces setup body signature entity →
    w.resolve entity = .error e → r.result = some (.error e)
  unmatched {entity encoded : String} : Announces setup body signature entity →
    w.resolve entity = .ok encoded →
    (∀ id p, s.payments.find? id = some p → p.invoice ≠ encoded) →
    r.result = some (.ok (.unmatched encoded))
  matched {entity : String} {id : PaymentId} {p : Payment} :
    Announces setup body signature entity → w.resolve entity = .ok p.invoice →
    s.payments.find? id = some p → r.result = some (.ok p.verdict)
  /-- The payment that is settled becomes paid with its ticket, and nothing else changes. -/
  settled {k : TicketId} : r.result = some (.ok (.settled k)) → ∃ entity id p t now,
    Announces setup body signature entity ∧ w.resolve entity = .ok p.invoice ∧
    s.payments.find? id = some p ∧ p.ticketId = k ∧ p.status = .pending ∧
    s.tickets.find? k = some t ∧ w.Showed now r.turns ∧
    r.store = { s with
      payments := s.payments.set id { p with status := .paid, paidAt := some now }
      tickets := s.tickets.set k { t with status := .paid, paidAt := some now } }
  kept : (∀ k, r.result ≠ some (.ok (.settled k))) → r.store = s

theorem Store.Reachable.notification_handled {s : Store} (hs : s.Reachable)
    (hunique : s.InvoiceUnique) (setup : Setup) (w : Surroundings) (body : Bytes)
    (signature : Option String) :
    Handled setup w s body signature
      ((Service.onNotification setup body signature).run.alone w s []) := by
  obtain ⟨x, s', h', hrun, hx⟩ :=
    Service.onNotification_alone hs.coherent setup w body signature
  obtain rfl := hx.answer
  rw [hrun]
  constructor
  case unsigned => exact Option.some_inj.trans answerTo_unsigned
  case malformed =>
    intro hgenuine hbody
    exact ⟨_, congrArg some (answerTo_malformed hgenuine hbody)⟩
  case ignored =>
    intro event hgenuine hbody htype
    exact congrArg some (answerTo_ignored hgenuine hbody htype)
  case unresolved =>
    intro entity e hannounced hresolve
    simp only [answerTo_announced hannounced, hresolve, Except.map]
  case unmatched =>
    intro entity encoded hannounced hresolve hnone
    simp only [answerTo_announced hannounced, hresolve, Except.map, verdict,
      paymentByInvoice_eq_none hnone]
  case matched =>
    intro entity id p hannounced hresolve hp
    simp only [answerTo_announced hannounced, hresolve, Except.map, verdict,
      hunique.paymentByInvoice_eq hp]
  case settled =>
    intro k hk
    rw [Option.some.inj hk] at hx
    obtain ⟨entity, p, t, now, hannounced, hresolve, -, hp, rfl, hpending, ht, hnow, rfl⟩ :=
      hx.settled hs.coherent
    exact ⟨entity, p.id, p, t, now, hannounced, hresolve, hp, rfl, hpending, ht, hnow, rfl⟩
  case kept =>
    intro hne
    exact (hx.handling.kept fun k hk => hne k (congrArg some hk)).1

/-- Of two sales, the one that is pending is settled. -/
theorem notification_handled_twoSales :
    let body := Text.encodeUtf8 "[\"PAYMENT_FINISHED\",\"e\"]"
    let w : Surroundings := fun _ => Office.Outside.answer { invoice := "a", now := .ofSeconds 7 }
    let signature := some (Signature.sign [] body)
    let r :=
      (Service.onNotification Office.sampleSetup body signature).run.alone w Store.twoSales []
    Store.twoSales.Reachable ∧ Store.twoSales.InvoiceUnique ∧
      (r.store.payments.values.map fun p => (p.status, p.paidAt)) =
        [(.paid, some (.ofSeconds 7)), (.failed, none)] ∧
      Handled Office.sampleSetup w Store.twoSales body signature r :=
  ⟨Store.twoSales_reachable.reachable, Store.twoSales_reachable.unique, by decide +kernel,
    Store.twoSales_reachable.reachable.notification_handled Store.twoSales_reachable.unique _ _ _ _⟩

end BoxOffice
