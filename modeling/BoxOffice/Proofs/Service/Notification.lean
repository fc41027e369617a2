import BoxOffice.Proofs.Alone.Delivery
import BoxOffice.Proofs.Service.Conduct

/-! One notification, whatever it is answered. It always has a result. By its end it has stored and
told nothing, or one settlement, of the payment that it looked up, and the notice of that. The notice
is made of the payment as it was looked up, and says the time that was stored. -/

namespace BoxOffice

open Program

/-! ### What it comes to -/

namespace Service

/-- The program has a result, and does not complain of a signature, whatever it is answered. -/
abbrev Trusts {α : Type} (p : ExceptT ReconcileError Program α) : Prop :=
  FailsWith (· ≠ .invalidSignature) p

/-- A failure of the processor is not one of the signature. -/
theorem trusts_processor {α : Type} {p : ExceptT ProcessorError Program α}
    (hp : FailsWith (fun _ => True) p) : Trusts (within .processor p) :=
  hp.within fun _ _ => nofun

/-- Neither is one of the store. -/
theorem trusts_store {α : Type} {p : ExceptT StoreError Program α}
    (hp : FailsWith (fun _ => True) p) : Trusts (within .store p) :=
  hp.within fun _ _ => nofun

theorem settle_trusts (setup : Setup) (p : Payment) : Trusts (settle setup p) := by
  unfold settle
  apply now_gives.failsWith.bind
  intro now
  apply (trusts_store (apply_inner setup p.ticketId (.settlementMatched now) nofun).fails).bind
  intro o
  split
  · apply (notifyCounterparty_heedless setup p o.state.paidAt).gives.failsWith.bind
    exact fun _ => failsWith_pure _
  · split <;> exact failsWith_pure _

theorem settleInvoice_trusts (setup : Setup) (encoded : String) :
    Trusts (settleInvoice setup encoded) := by
  unfold settleInvoice
  apply (trusts_store (store_heedless (.paymentByInvoice encoded)).gives.fails).bind
  intro found
  cases found with
  | none => exact failsWith_pure _
  | some p => exact settle_trusts setup p

theorem settledInvoice_trusts (entity : SettlementEntity) : Trusts (settledInvoice entity) := by
  cases entity with
  | incoming id invoiceId =>
    have hfetch : FailsWith (fun _ => True) (ExceptT.mk (request (.fetchInvoice invoiceId))) :=
      ⟨trivial, fun _ _ _ => trivial⟩
    unfold settledInvoice
    apply (trusts_processor hfetch).bind
    intro invoice
    dsimp only
    split
    · exact failsWith_throw_bind nofun
    · exact failsWith_pure _
  | outgoing id request => exact failsWith_orThrow nofun _

theorem reconcileEvent_trusts (setup : Setup) (event : WebhookEvent) :
    Trusts (reconcileEvent setup event) := by
  have hfetch : FailsWith (fun _ => True)
      (ExceptT.mk (request (.fetchSettlement event.entityId))) :=
    ⟨trivial, fun _ _ _ => trivial⟩
  unfold reconcileEvent
  split
  · exact failsWith_pure _
  · apply (trusts_processor hfetch).bind
    intro entity
    exact (settledInvoice_trusts entity).bind (settleInvoice_trusts setup)

/-- A notification has a result, which complains of the signature only if that is no good. -/
theorem onNotification_gives (setup : Setup) (body : Bytes) (signature : Option String) :
    (onNotification setup body signature).run.Gives (fun _ => True) fun x =>
      isGenuine setup body signature → x ≠ .error .invalidSignature := by
  have hreconcile : (reconcile setup body signature).run.Gives (fun _ => True) fun x =>
      isGenuine setup body signature → x ≠ .error .invalidSignature := by
    by_cases hgenuine : isGenuine setup body signature
    · have htrusts : Trusts (reconcile setup body signature) := by
        rw [reconcile_genuine hgenuine]
        exact (failsWith_orThrow nofun _).bind (reconcileEvent_trusts setup)
      exact htrusts.mono (fun _ => id) fun x hx _ he => hx _ he rfl
    · rw [reconcile_forged hgenuine]
      exact fun h => absurd h hgenuine
  exact Gives.bind hreconcile fun x hx => ⟨trivial, fun _ => hx⟩

end Service

/-! ### What it has stored and told -/

/-- The change from pending to paid that was stored in a turn: the ticket, and the time of payment. -/
def Turn.settlement? : Turn → Option (TicketId × Time.Instant)
  | ⟨.store (.applyTransition k ⟨.pending, .paid, time⟩), .ok true⟩ => some (k, time)
  | _ => none

/-- The settlements that were stored, latest first. -/
def settlements (h : List Turn) : List (TicketId × Time.Instant) := h.filterMap (·.settlement?)

/-- Nothing was settled and nobody was told between the two histories. -/
structure Uneventful (h h' : List Turn) : Prop where
  settlements : settlements h' = settlements h
  told : told h' = told h

theorem Uneventful.trans {h h' h'' : List Turn} (hu : Uneventful h h') (hu' : Uneventful h' h'') :
    Uneventful h h'' :=
  ⟨hu'.settlements.trans hu.settlements, hu'.told.trans hu.told⟩

theorem Turn.settlement?_of_isPlain {t : Turn} (ht : t.request.isPlain) : t.settlement? = none := by
  obtain ⟨r, x⟩ := t
  cases r with
  | store c => cases c <;> first | rfl | cases ht
  | _ => rfl

theorem Since.silent {h h' : List Turn} (hq : Quiet h h') : Silent h h' := by
  refine hq.mono fun r hr url n he => ?_
  rw [he] at hr
  cases hr

theorem Since.uneventful {h h' : List Turn} (hq : Quiet h h') : Uneventful h h' := by
  refine ⟨?_, hq.silent.told_eq⟩
  obtain ⟨new, rfl, hnew⟩ := hq
  have hnone : settlements new = [] :=
    List.filterMap_eq_nil_iff.2 fun t ht => Turn.settlement?_of_isPlain (hnew t ht)
  rw [settlements, List.filterMap_append]
  exact congrArg (· ++ settlements h) hnone

namespace Service

open Lifecycle

variable {setup : Setup} {k : TicketId} {now : Time.Instant} {h : List Turn} {st : Lifecycle}

/-! ### Storing the settlement -/

/-- What the settling of a ticket's payment has stored: nothing, or that it was paid. -/
inductive Stores (k : TicketId) (now : Time.Instant) (h h' : List Turn) :
    Except StoreError Lifecycle.Outcome → Prop
  | kept {x : Except StoreError Lifecycle.Outcome} (unstored : ∀ o, x = .ok o → o.persisted = false)
      (uneventful : Uneventful h h') : Stores k now h h' x
  | stored {o : Lifecycle.Outcome} (persisted : o.persisted) (paidAt : o.state.paidAt = some now)
      (settlements : settlements h' = (k, now) :: settlements h) (told : told h' = told h) :
      Stores k now h h' (.ok o)

theorem Stores.error (e : StoreError) {h' : List Turn} (hu : Uneventful h h') :
    Stores k now h h' (.error e) :=
  .kept (fun _ he => nomatch he) hu

theorem Stores.unstored (st : Lifecycle) {h' : List Turn} (hu : Uneventful h h') :
    Stores k now h h' (.ok ⟨st, false⟩) := by
  refine .kept ?_ hu
  rintro _ ⟨⟩
  rfl

theorem Stores.after {h₁ h' : List Turn} {x : Except StoreError Lifecycle.Outcome}
    (hx : Stores k now h₁ h' x) (hu : Uneventful h h₁) : Stores k now h h' x := by
  cases hx with
  | kept hunstored hu' => exact .kept hunstored (hu.trans hu')
  | stored hpersisted hpaidAt hsettlements htold =>
    exact .stored hpersisted hpaidAt (hsettlements.trans (by rw [hu.settlements]))
      (htold.trans hu.told)

/-- That an error is forgotten makes no difference. -/
theorem Stores.forget {h' : List Turn} {o : Lifecycle.Outcome} (hx : Stores k now h h' (.ok o)) :
    Stores k now h h' (.ok ⟨{ o.state with lastError := none }, o.persisted⟩) := by
  cases hx with
  | kept hunstored hu =>
    rw [hunstored o rfl]
    exact Stores.unstored _ hu
  | stored hpersisted hpaidAt hsettlements htold =>
    exact .stored hpersisted hpaidAt hsettlements htold

theorem persist_stores (st : Lifecycle) (hstatus : st.paymentStatus = .paid)
    (hpaid : st.paidAt = some now) (h : List Turn) : Conforms (fun _ _ => True) (Stores st.ticketId now h)
      (persist st .pending).run h := by
  have htime : changeTime st = .pure now := by rw [changeTime, hpaid]
  unfold persist
  rw [htime, hstatus]
  refine ⟨trivial, fun x _ => ?_⟩
  cases x with
  | error e => exact Stores.error e ⟨rfl, rfl⟩
  | ok stored =>
    cases stored with
    | true => exact ⟨trivial, fun _ _ => Stores.stored rfl hpaid rfl rfl⟩
    | false =>
      refine ⟨trivial, fun x _ => ?_⟩
      cases x with
      | error e => exact Stores.error e ⟨rfl, rfl⟩
      | ok found => cases found <;> exact Stores.unstored _ ⟨rfl, rfl⟩

/-- A settlement asks for no errand: it is decided on, and the decision is stored. -/
theorem run_settlement {decided : Lifecycle}
    (hreduce : ∀ env, reduce env st (.settlementMatched now) = (decided, [])) :
    run setup st (.settlementMatched now) = (do
      let _ ← (liftM Program.now : ExceptT StoreError Program Time.Instant)
      let stored ← storeDecision decided st.paymentStatus
      pure ⟨{ stored.state with lastError := none }, stored.persisted⟩) := by
  have hdrain : run setup st (.settlementMatched now) =
      drain setup 1 ⟨st, false⟩ [.settlementMatched now] := rfl
  rw [hdrain]
  unfold drain
  simp only [hreduce, Bool.false_or]
  rfl

theorem run_stores (setup : Setup) (st : Lifecycle) (now : Time.Instant) (h : List Turn) :
    Conforms (fun _ _ => True) (Stores st.ticketId now h)
      (run setup st (.settlementMatched now)).run h := by
  by_cases hpending : st.paymentStatus = .pending
  · have hreduce : ∀ env, reduce env st (.settlementMatched now) =
        ({ st.setStatus .paid with stage := .settled, paidAt := some now }, []) := by
      intro env
      simp only [reduce, hpending]
    rw [run_settlement hreduce, hpending]
    refine ⟨trivial, fun clock _ => ?_⟩
    have hpersist := persist_stores { st.setStatus .paid with stage := .settled, paidAt := some now }
      rfl rfl (⟨.now, clock⟩ :: h)
    refine Conforms.andThen hpersist (fun h' o hx => ?_) fun h' e hx => ?_
    · exact hx.forget.after ⟨rfl, rfl⟩
    · exact hx.after ⟨rfl, rfl⟩
  · have hreduce : ∃ decided, (∀ env, reduce env st (.settlementMatched now) = (decided, [])) ∧
        decided.paymentStatus = st.paymentStatus := by
      let refused := st.reject ("settlement arrived for " ++ st.paymentStatus.name ++ " payment")
      cases hstatus : st.paymentStatus with
      | pending => exact absurd hstatus hpending
      | paid => exact ⟨st, fun env => by simp only [reduce, hstatus], hstatus⟩
      | _ => exact ⟨refused, fun env => by simp only [reduce, hstatus, refused], hstatus⟩
    obtain ⟨decided, hreduce, hsame⟩ := hreduce
    have hkept : storeDecision decided st.paymentStatus = Pure.pure ⟨decided, false⟩ :=
      if_neg (not_not_intro hsame)
    rw [run_settlement hreduce, hkept]
    exact ⟨trivial, fun clock _ => Stores.unstored _ ⟨rfl, rfl⟩⟩

/-- The records of a ticket are loaded, and the settling of its payment is stored or not. -/
theorem apply_stores (setup : Setup) (k : TicketId) (now : Time.Instant) (h : List Turn) :
    Conforms (fun _ _ => True) (Stores k now h) (apply setup k (.settlementMatched now)).run h := by
  unfold apply
  refine ⟨trivial, fun x hx => ?_⟩
  cases x with
  | error e => exact Stores.error e ⟨rfl, rfl⟩
  | ok found =>
    cases found with
    | none => exact Stores.error _ ⟨rfl, rfl⟩
    | some t =>
      obtain rfl := hx.ticket_id
      refine ⟨trivial, fun x _ => ?_⟩
      cases x with
      | error e => exact Stores.error e ⟨rfl, rfl⟩
      | ok found =>
        cases found with
        | none => exact Stores.error _ ⟨rfl, rfl⟩
        | some p =>
          have hrun := run_stores setup (.ofRecords t p) now
            (.call (.paymentForTicket t.id) (.ok (some p)) ::
              .call (.ticket t.id) (.ok (some t)) :: h)
          exact hrun.mono (fun _ _ => id) fun h' x hx => hx.after ⟨rfl, rfl⟩

/-! ### Telling of it -/

/-- What a notification has stored and told: nothing, or the settlement of the payment that it
looked up, and the notice of that. -/
inductive Tells (setup : Setup) (h : List Turn) : Except ReconcileError ReconcileOutcome → Prop
  | nothing {x : Except ReconcileError ReconcileOutcome} (unsettled : ∀ k, x ≠ .ok (.settled k))
      (settlements : settlements h = []) (untold : told h = []) : Tells setup h x
  | settled {encoded : String} {p : Payment} {time : Time.Instant}
      (found : Turn.call (.paymentByInvoice encoded) (.ok (some p)) ∈ h)
      (settlements : settlements h = [(p.ticketId, time)])
      (told : told h = p.notices setup time) : Tells setup h (.ok (.settled p.ticketId))

theorem notifyCounterparty_tells {encoded : String} {p : Payment}
    (hfound : Turn.call (.paymentByInvoice encoded) (.ok (some p)) ∈ h)
    (hsettlements : settlements h = [(p.ticketId, now)]) (huntold : told h = []) :
    Conforms (fun _ _ => True) (fun h' _ => Tells setup h' (.ok (.settled p.ticketId)))
      (notifyCounterparty setup p (some now)) h := by
  unfold notifyCounterparty
  cases hcallback : p.counterpartyCallback with
  | none =>
    refine Tells.settled hfound hsettlements ?_
    rw [huntold, Payment.notices, hcallback]
    rfl
  | some url =>
    refine ⟨trivial, fun x _ => Tells.settled (.tail _ hfound) hsettlements ?_⟩
    rw [Payment.notices, hcallback]
    exact congrArg (_ :: ·) huntold

theorem settle_tells {encoded : String} {p : Payment}
    (hfound : Turn.call (.paymentByInvoice encoded) (.ok (some p)) ∈ h)
    (hunsettled : settlements h = []) (huntold : told h = []) :
    Conforms (fun _ _ => True) (Tells setup) (settle setup p).run h := by
  unfold settle
  refine ⟨trivial, fun now _ => ?_⟩
  have happly := (apply_stores setup p.ticketId now (⟨.now, now⟩ :: h)).extends.within
    ReconcileError.store
  refine happly.andThen (fun h' o hx => ?_) fun h' e hx => ?_
  · obtain ⟨y, hy, hturns, hstores⟩ := hx
    cases y with
    | error e => cases hy
    | ok o' =>
      cases hy
      have hfound' := hturns _ (.tail _ hfound)
      cases hstores with
      | kept hunstored hu =>
        rw [hunstored o rfl, if_neg Bool.false_ne_true]
        split <;> exact .nothing nofun (hu.settlements.trans hunsettled) (hu.told.trans huntold)
      | stored hpersisted hpaidAt hsettlements htold =>
        have hone : settlements h' = [(p.ticketId, now)] :=
          hsettlements.trans (congrArg (_ :: ·) hunsettled)
        rw [hpersisted, if_pos rfl, hpaidAt]
        exact Conforms.lift (notifyCounterparty_tells hfound' hone (htold.trans huntold))
          fun _ _ hx => hx
  · obtain ⟨y, hy, -, hstores⟩ := hx
    cases hstores with
    | kept _ hu => exact .nothing nofun (hu.settlements.trans hunsettled) (hu.told.trans huntold)
    | stored => cases hy

theorem settleInvoice_tells (setup : Setup) (encoded : String) (hq : Quiet [] h) :
    Conforms (fun _ _ => True) (Tells setup) (settleInvoice setup encoded).run h := by
  have hu := hq.uneventful
  unfold settleInvoice
  refine ⟨trivial, fun x _ => ?_⟩
  cases x with
  | error e => exact Tells.nothing nofun hu.settlements hu.told
  | ok found =>
    cases found with
    | none => exact Tells.nothing nofun hu.settlements hu.told
    | some p => exact settle_tells List.mem_cons_self hu.settlements hu.told

theorem reconcileEvent_tells (setup : Setup) (event : WebhookEvent) :
    Conforms (fun _ _ => True) (Tells setup) (reconcileEvent setup event).run [] := by
  unfold reconcileEvent
  split
  · exact Tells.nothing nofun rfl rfl
  · refine ⟨trivial, fun x _ => ?_⟩
    cases x with
    | error e => exact Tells.nothing nofun rfl rfl
    | ok entity =>
      have hq : Quiet [] [⟨.fetchSettlement event.entityId, .ok entity⟩] :=
        (Since.refl []).cons rfl
      have hinvoice : Conforms (fun _ _ => True) (fun h' _ => Quiet _ h' ∧ True)
          (settledInvoice entity).run [⟨.fetchSettlement event.entityId, .ok entity⟩] :=
        ((settledInvoice_light entity).plain _).of_plain fun _ _ _ => trivial
      refine hinvoice.andThen (fun h' encoded hx => ?_) fun h' e hx => ?_
      · exact settleInvoice_tells setup encoded (hq.trans hx.1)
      · have hu := (hq.trans hx.1).uneventful
        exact .nothing nofun hu.settlements hu.told

theorem Tells.since {h' : List Turn} {x : Except ReconcileError ReconcileOutcome}
    (hx : Tells setup h x) (hq : Quiet h h') : Tells setup h' x := by
  have hu := hq.uneventful
  cases hx with
  | nothing hne hsettlements huntold =>
    exact .nothing hne (hu.settlements.trans hsettlements) (hu.told.trans huntold)
  | settled hfound hsettlements htold =>
    exact .settled (hq.mem hfound) (hu.settlements.trans hsettlements) (hu.told.trans htold)

theorem onNotification_tells (setup : Setup) (body : Bytes) (signature : Option String) :
    Conforms (fun _ _ => True) (Tells setup) (onNotification setup body signature).run [] := by
  have hreconcile : Conforms (fun _ _ => True) (Tells setup)
      (reconcile setup body signature).run [] := by
    by_cases hgenuine : isGenuine setup body signature
    · rw [reconcile_genuine hgenuine]
      cases WebhookEvent.ofBody? body with
      | none => exact Tells.nothing nofun rfl rfl
      | some event => exact reconcileEvent_tells setup event
    · rw [reconcile_forged hgenuine]
      exact Tells.nothing nofun rfl rfl
  exact Conforms.bind hreconcile fun h' x hx =>
    ⟨trivial, fun _ _ => hx.since ((Since.refl h').cons rfl)⟩

end Service

end BoxOffice
