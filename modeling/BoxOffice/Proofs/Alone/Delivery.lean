import BoxOffice.Proofs.Alone.Settling
import BoxOffice.Proofs.Processor.Documents
import BoxOffice.Proofs.Program.Heeding
import BoxOffice.Proofs.Signature

/-! Announcements of finished payments. The processor's documents may carry the encoded invoice in
several forms, fetched in one step or in two; once it is found, the form makes no difference. -/

namespace BoxOffice

open Program

/-! ### Documents of an entity -/

/-- A success that brings the document. -/
structure Client.Reply.Brings (r : Client.Reply) (members : List (String × Json)) : Prop where
  success : r.isSuccess
  body : Json.parse r.content = some (.object members)

theorem Client.Processor.readReply_eq {α : Type} {decode : Json → Json.Decoded α} {a : α}
    {r : Client.Reply} {members : List (String × Json)} (h : r.Brings members)
    (hdecode : decode (.object members) = .ok a) (entity : String) :
    readReply decode entity r = .ok a := by
  have hstatus : 200 ≤ r.status ∧ r.status < 300 := by
    simpa [Client.Reply.isSuccess] using h.success
  have hfound : r.status ≠ 404 := by omega
  have hserver : r.isServerError = false := by
    simp only [Client.Reply.isServerError, Bool.and_eq_false_iff, decide_eq_false_iff_not]
    omega
  have hvalue : r.value? decode = some a := by
    rw [Client.Reply.value?, h.body, Option.bind_some, hdecode]
    rfl
  simp [readReply, hfound, hserver, h.success, hvalue]

namespace Surroundings

/-- The documents that the processor returns on an entity carry an encoded invoice, or none. The
entity says its own name in them. -/
inductive Carries (w : Surroundings) (entity : String) : String → Option String → Prop
  | incoming {reply reply' : Client.Reply} {members members' : List (String × Json)}
      {id invoiceId text : String} {invoice : ProcessorInvoice}
      (fetched : w [] (.fetchSettlement entity) = Client.Processor.readSettlement entity reply)
      (brings : reply.Brings members) (document : SettlementEntity.IsIncoming id invoiceId members)
      (fetched' : ∀ h,
        w h (.fetchInvoice invoiceId) = Client.Processor.readInvoice invoiceId reply')
      (brings' : reply'.Brings members')
      (read : ProcessorInvoice.ofJson (.object members') = .ok invoice)
      (encoded : Json.MemberIs members' "encoded_payment_request" (some (.string text))) :
      Carries w entity id (some text)
  | outgoing {reply : Client.Reply} {members : List (String × Json)} {id : String}
      {text? : Option String}
      (fetched : w [] (.fetchSettlement entity) = Client.Processor.readSettlement entity reply)
      (brings : reply.Brings members)
      (document : SettlementEntity.IsOutgoing id text? members) : Carries w entity id text?

variable {w : Surroundings} {entity id : String} {text? : Option String}

theorem Carries.resolve (h : w.Carries entity id text?) : w.resolve entity =
    (text?.filter (!·.isEmpty)).elim (.error (.missingPaymentRequest id)) .ok := by
  cases h with
  | @incoming reply reply' members members' _ invoiceId text invoice hfetched hbrings hdocument
      hfetched' hbrings' hread hencoded =>
    have hentity : w [] (.fetchSettlement entity) = .ok (.incoming id invoiceId) :=
      hfetched.trans (Client.Processor.readReply_eq hbrings hdocument.read entity)
    have hinvoice : ∀ h, w h (.fetchInvoice invoiceId) = .ok invoice := fun h =>
      (hfetched' h).trans (Client.Processor.readReply_eq hbrings' hread invoiceId)
    obtain rfl := ProcessorInvoice.encoded_eq hencoded hread
    simp only [Surroundings.resolve, hentity, invoiceOf, hinvoice]
    cases hempty : invoice.encoded.isEmpty <;> simp [Option.filter, hempty]
  | @outgoing reply members _ _ hfetched hbrings hdocument =>
    obtain ⟨request, hread, hencoded⟩ := hdocument.read
    have hentity : w [] (.fetchSettlement entity) = .ok (.outgoing id request) :=
      hfetched.trans (Client.Processor.readReply_eq hbrings hread entity)
    simp only [Surroundings.resolve, hentity, invoiceOf, hencoded]
    cases text?.filter (!·.isEmpty) <;> rfl

end Surroundings

/-! ### Settling -/

namespace Service

open Lifecycle

variable {setup : Setup} {target : PaymentStatus} {action : LifecycleAction}

theorem changeTime_inner (st : Lifecycle) :
    (changeTime st).Gives (fun r => r.isInner) fun _ => True := by
  unfold changeTime
  split
  · trivial
  · exact ⟨rfl, fun _ => trivial⟩

theorem countErrand_inner (action : LifecycleAction) :
    (countErrand action).Gives (fun r => r.isInner) fun _ => True := by
  unfold countErrand
  split
  · exact ⟨rfl, fun _ => trivial⟩
  · trivial

theorem storeDecision_inner (st : Lifecycle) (before : PaymentStatus) :
    (storeDecision st before).run.Gives (fun r => r.isInner) fun _ => True := by
  unfold storeDecision
  split
  · unfold persist
    apply (changeTime_inner st).lift
    intro time _
    refine ⟨rfl, fun x => ?_⟩
    rcases x with _ | _ | _
    · trivial
    · refine ⟨rfl, fun x => ?_⟩
      rcases x with _ | _ | p <;> trivial
    · exact ⟨rfl, fun _ => trivial⟩
  · trivial

/-- Errands come of other actions only. -/
theorem drain_inner (htarget : target ≠ .failed) {fuel : Nat} {o : Lifecycle.Outcome}
    {actions : List LifecycleAction} (ha : ∀ a ∈ actions, a.target = target) :
    (drain setup fuel o actions).run.Gives (fun r => r.isInner) fun _ => True := by
  induction fuel generalizing o actions with
  | zero => trivial
  | succ fuel ih =>
    cases actions with
    | nil => trivial
    | cons action rest =>
      obtain ⟨rfl, hrest⟩ := List.forall_mem_cons.1 ha
      have hnone : ∀ env, (reduce env o.state action).2 = [] := fun env =>
        List.eq_nil_iff_forall_not_mem.2 fun e he => htarget (reduce_effects he).1
      unfold drain
      apply (countErrand_inner action).lift
      intro _ _
      have hnow : Program.now.Gives (fun r => r.isInner) fun _ => True := ⟨rfl, fun _ => trivial⟩
      apply hnow.lift
      intro now _
      have heffects := hnone ⟨now, setup.receiver, setup.versions⟩
      generalize reduce ⟨now, setup.receiver, setup.versions⟩ o.state action = y at heffects ⊢
      obtain ⟨st, effects⟩ := y
      cases heffects
      apply (storeDecision_inner st _).andThen
      · intro stored _
        exact ih fun a hm => hrest a ((List.append_nil rest) ▸ hm)
      · exact fun _ _ => trivial

/-- Such an action asks nobody outside. -/
theorem apply_inner (setup : Setup) (ticket : TicketId) (action : LifecycleAction)
    (htarget : action.target ≠ .failed) :
    (apply setup ticket action).run.Gives (fun r => r.isInner) fun _ => True := by
  unfold apply
  refine ⟨rfl, fun x => ?_⟩
  rcases x with _ | _ | t
  · trivial
  · trivial
  · refine ⟨rfl, fun x => ?_⟩
    rcases x with _ | _ | p
    · trivial
    · trivial
    · apply drain_inner htarget
      intro a hm
      rw [List.mem_singleton.1 hm]

/-- Whether the counterparty takes the notice makes no difference. -/
theorem notifyCounterparty_heedless (setup : Setup) (p : Payment) (paidAt : Option Time.Instant) :
    (notifyCounterparty setup p paidAt).Heedless := by
  unfold notifyCounterparty
  cases p.counterpartyCallback with
  | none => trivial
  | some url =>
    cases paidAt with
    | none => exact ⟨.inl rfl, fun now => ⟨.inr fun _ _ => rfl, fun _ => trivial⟩⟩
    | some t => exact ⟨.inr fun _ _ => rfl, fun _ => trivial⟩

theorem settle_heedless (setup : Setup) (p : Payment) : (settle setup p).run.Heedless := by
  unfold settle
  refine now_heedless.lift.andThen fun now => ?_
  have happly := (apply_inner setup p.ticketId (.settlementMatched now) nofun).heedless
  refine happly.within.andThen fun o => ?_
  split
  · exact (notifyCounterparty_heedless setup p _).lift.andThen fun _ => trivial
  · split <;> trivial

/-- What is done with an encoded invoice that was found. -/
def settleInvoice (setup : Setup) (encoded : String) :
    ExceptT ReconcileError Program ReconcileOutcome := do
  match ← Program.within .store (Program.store (.paymentByInvoice encoded)) with
  | none => return .unmatched encoded
  | some payment => settle setup payment

theorem settleInvoice_heedless (setup : Setup) (encoded : String) :
    (settleInvoice setup encoded).run.Heedless := by
  unfold settleInvoice
  refine (store_heedless _).within.andThen fun found => ?_
  cases found with
  | none => trivial
  | some p => exact settle_heedless setup p

/-- Behind a good signature the body is opened. -/
theorem reconcile_genuine {body : Bytes} {signature : Option String}
    (h : isGenuine setup body signature) : reconcile setup body signature =
      Program.orThrow (.malformedPayload "not an event") (WebhookEvent.ofBody? body) >>=
        reconcileEvent setup := by
  cases signature with
  | none => cases h
  | some text =>
    have hverified : Signature.verify setup.secret body text = true := h
    have hopened : ∀ f : String → ExceptT ReconcileError Program ReconcileOutcome,
        Program.orThrow ReconcileError.invalidSignature (some text) >>= f = f text := fun _ => rfl
    rw [reconcile, hopened, hverified]
    rfl

/-- A forged notification is refused at once. -/
theorem reconcile_forged {body : Bytes} {signature : Option String}
    (hforged : ¬ isGenuine setup body signature) :
    reconcile setup body signature = throw .invalidSignature := by
  cases signature with
  | none => rfl
  | some text =>
    have hverified : Signature.verify setup.secret body text = false := eq_false_of_ne_true hforged
    have hopened : ∀ f : String → ExceptT ReconcileError Program ReconcileOutcome,
        orThrow ReconcileError.invalidSignature (some text) >>= f = f text := fun _ => rfl
    rw [reconcile, hopened, hverified]
    rfl

theorem reconcile_eq {body : Bytes} {signature : Option String} {entity : String}
    (h : Announces setup body signature entity) : reconcile setup body signature =
      Program.within ReconcileError.processor
        (ExceptT.mk (Program.request (.fetchSettlement entity))) >>= fun settlement =>
          settledInvoice settlement >>= settleInvoice setup := by
  obtain ⟨hgenuine, event, hevent, htype, rfl⟩ := h
  have hread : ∀ f : WebhookEvent → ExceptT ReconcileError Program ReconcileOutcome,
      Program.orThrow (.malformedPayload "not an event") (some event) >>= f = f event :=
    fun _ => rfl
  rw [reconcile_genuine hgenuine, hevent, hread, reconcileEvent, if_neg (not_not_intro htype)]
  rfl

/-- A notification is counted when it has been handled. -/
theorem Ends.counted {w : Surroundings} {s : Store} {body : Bytes} {signature : Option String}
    {done : Except ReconcileError ReconcileOutcome → Store → List Turn → Prop}
    (hp : Ends w done (reconcile setup body signature).run s [])
    (hcount : ∀ x s' h c, done x s' h → done x s' (⟨.count c, ()⟩ :: h)) :
    Ends w done (onNotification setup body signature).run s [] := by
  obtain ⟨x, s', h, hrun, hx⟩ := hp
  exact .seq hrun ⟨_, _, _, rfl, hcount x s' h _ hx⟩

end Service

/-! ### Deliveries -/

/-- At a time, a finished payment is announced, and the processor's documents on it carry an encoded
invoice, or none. -/
structure Delivers (setup : Setup) (now : Time.Instant) (w : Surroundings) (body : Bytes)
    (signature : Option String) (id : String) (text? : Option String) : Prop where
  announced : ∃ entity, Announces setup body signature entity ∧ w.Carries entity id text?
  clock : w.At now

/-- Two deliveries come to the same if they carry an invoice, and to nothing if they carry none. -/
structure Alike (s : Store) (id : String) (text? : Option String)
    (r r' : Ran (Except ReconcileError ReconcileOutcome)) : Prop where
  found : (∃ text, text? = some text ∧ text ≠ "") → (∃ x, r.result = some x) ∧
    r'.result = r.result ∧ r'.store = r.store ∧ told r'.turns = told r.turns
  missing : (∀ text, text? = some text → text = "") →
    r.result = some (.error (.missingPaymentRequest id)) ∧ r.store = s ∧ told r.turns = []

section Delivers

variable {setup : Setup} {now : Time.Instant} {w w' : Surroundings} {body body' : Bytes}
  {signature signature' : Option String} {id id' text : String} {text? : Option String}

/-- What an announcement comes to when the documents carry an invoice: to the settling of it, as if
nothing had been fetched before. -/
theorem Delivers.settles (h : Delivers setup now w body signature id (some text)) (hne : text ≠ "")
    (s : Store) : Ends w (fun x s' h' => ∃ new,
        (Service.settleInvoice setup text).run.alone (fun _ => Office.Outside.answer { now := now })
          s [] = ⟨some x, s', new⟩ ∧ told h' = told new)
      (Service.onNotification setup body signature).run s [] := by
  obtain ⟨entity, hannounced, hcarries⟩ := h.announced
  have hresolve : w.resolve entity = .ok text := by
    rw [hcarries.resolve]
    simp [Option.filter, hne]
  have hstill : Surroundings.At (fun _ => Office.Outside.answer { now := now }) now := fun _ => rfl
  refine Service.Ends.counted ?_ fun _ _ _ _ hx => hx
  rw [Service.reconcile_eq hannounced]
  refine Service.Ends.of_resolve (fun e h' he => ?_) fun encoded h' he hsilent _ => ?_
  · cases he.symm.trans hresolve
  · cases he.symm.trans hresolve
    obtain ⟨x, s', new, new', hrun, hrun', hrequests⟩ :=
      (Service.settleInvoice_heedless setup text).agree h.clock hstill s h' []
    rw [List.append_nil] at hrun'
    refine ⟨x, s', _, hrun, new', hrun', ?_⟩
    have hsame : told new = told new' := by rw [told, hrequests, told]
    have hnone : told h' = [] := hsilent.told_eq
    rw [told_append, hnone, List.append_nil, hsame]

theorem Delivers.refused (h : Delivers setup now w body signature id text?)
    (hempty : ∀ text, text? = some text → text = "") (s : Store) :
    Ends w (fun x s' h' => x = .error (.missingPaymentRequest id) ∧ s' = s ∧ told h' = [])
      (Service.onNotification setup body signature).run s [] := by
  obtain ⟨entity, hannounced, hcarries⟩ := h.announced
  have hresolve : w.resolve entity = .error (.missingPaymentRequest id) := by
    rw [hcarries.resolve]
    cases text? with
    | none => rfl
    | some text =>
      cases hempty text rfl
      rfl
  refine Service.Ends.counted ?_ fun _ _ _ _ hx => hx
  rw [Service.reconcile_eq hannounced]
  refine Service.Ends.of_resolve (fun e h' he hsilent => ?_) fun encoded h' he => ?_
  · cases he.symm.trans hresolve
    exact ⟨rfl, rfl, hsilent.told_eq⟩
  · cases he.symm.trans hresolve

/-- The form of the documents makes no difference. -/
theorem delivered_alike (h : Delivers setup now w body signature id text?)
    (h' : Delivers setup now w' body' signature' id' text?) (s : Store) :
    Alike s id text? ((Service.onNotification setup body signature).run.alone w s [])
      ((Service.onNotification setup body' signature').run.alone w' s []) := by
  constructor
  case found =>
    rintro ⟨text, rfl, hne⟩
    obtain ⟨x, s₁, h₁, hrun, new, hsettled, htold⟩ := h.settles hne s
    obtain ⟨x', s₁', h₁', hrun', new', hsettled', htold'⟩ := h'.settles hne s
    cases hsettled.symm.trans hsettled'
    rw [hrun, hrun']
    exact ⟨⟨x, rfl⟩, rfl, rfl, htold'.trans htold.symm⟩
  case missing =>
    intro hempty
    obtain ⟨x, s₁, h₁, hrun, rfl, rfl, htold⟩ := h.refused hempty s
    rw [hrun]
    exact ⟨rfl, rfl, htold⟩

end Delivers

/-- An event that is signed with the secret announces its payment. -/
theorem Announces.of_signed {setup : Setup} {body : Bytes} (event : WebhookEvent)
    (hbody : WebhookEvent.ofBody? body = some event)
    (htype : event.eventType = WebhookEvent.paymentFinished) :
    Announces setup body (some (Signature.sign setup.secret body)) event.entityId := by
  refine ⟨?_, event, hbody, htype, rfl⟩
  rw [isGenuine, Option.any_some]
  exact Signature.verify_sign _ _

/-- A processor that has one document on any entity and one on any invoice, at some time. -/
def Surroundings.ofReplies (entity invoice : Client.Reply) : Surroundings
  | _, .fetchSettlement id => Client.Processor.readSettlement id entity
  | _, .fetchInvoice id => Client.Processor.readInvoice id invoice
  | _, r => Office.Outside.answer {} r

/-- The invoice of a pending payment is paid from outside, or by a payment of our own that has it
behind a wrapper. -/
theorem delivered_alike_twoSales :
    let body (entity : String) := Text.encodeUtf8 ("[\"PAYMENT_FINISHED\",\"" ++ entity ++ "\"]")
    let signature (entity : String) :=
      some (Signature.sign Office.sampleSetup.secret (body entity))
    let invoice : List (String × Json) :=
      [("id", .string "i"), ("encoded_payment_request", .string "a")]
    let incoming : List (String × Json) :=
      [("type", .string "incoming_payment"), ("id", .string "e"), ("invoice_id", .string "i")]
    let request : List (String × Json) :=
      [("data", .object [("encoded_payment_request", .string "a")])]
    let outgoing : List (String × Json) :=
      [("id", .string "f"), ("type", .string "outgoing_payment"),
        ("payment_request_data", .object request)]
    let reply (members : List (String × Json)) : Client.Reply :=
      ⟨200, Text.encodeUtf8 (Json.object members).compress⟩
    let w := Surroundings.ofReplies (reply incoming) (reply invoice)
    let w' := Surroundings.ofReplies (reply outgoing) (reply invoice)
    let r := (Service.onNotification Office.sampleSetup (body "e") (signature "e")).run.alone w
      Store.twoSales []
    let r' := (Service.onNotification Office.sampleSetup (body "f") (signature "f")).run.alone w'
      Store.twoSales []
    Delivers Office.sampleSetup default w (body "e") (signature "e") "e" (some "a") ∧
      Delivers Office.sampleSetup default w' (body "f") (signature "f") "f" (some "a") ∧
      (Store.twoSales.paymentByInvoice "a").map (·.status) = some .pending ∧
      Alike Store.twoSales "e" (some "a") r r' := by
  intro body signature invoice incoming request outgoing reply w w' r r'
  have hinvoice : (reply invoice).Brings invoice := ⟨rfl, rfl⟩
  have hincoming : Delivers Office.sampleSetup default w (body "e") (signature "e") "e"
      (some "a") := by
    have hbrings : (reply incoming).Brings incoming := ⟨rfl, rfl⟩
    have hread : SettlementEntity.IsIncoming "e" "i" incoming := ⟨⟨rfl, rfl, rfl⟩, rfl⟩
    have hannounced : Announces Office.sampleSetup (body "e") (signature "e") "e" :=
      .of_signed ⟨"PAYMENT_FINISHED", "e", none⟩ rfl rfl
    exact ⟨⟨"e", hannounced, .incoming rfl hbrings hread (fun _ => rfl) hinvoice rfl rfl⟩,
      fun _ => rfl⟩
  have houtgoing : Delivers Office.sampleSetup default w' (body "f") (signature "f") "f"
      (some "a") := by
    have hbrings : (reply outgoing).Brings outgoing := ⟨rfl, rfl⟩
    have hlacks : Json.LacksText request "encoded_payment_request" := ⟨none, rfl, nofun⟩
    have hread : SettlementEntity.IsOutgoing "f" (some "a") outgoing :=
      ⟨⟨rfl, rfl, rfl⟩, some (.object request), rfl, .wrapped hlacks rfl rfl⟩
    have hannounced : Announces Office.sampleSetup (body "f") (signature "f") "f" :=
      .of_signed ⟨"PAYMENT_FINISHED", "f", none⟩ rfl rfl
    exact ⟨⟨"f", hannounced, .outgoing rfl hbrings hread⟩, fun _ => rfl⟩
  exact ⟨hincoming, houtgoing, by decide +kernel, delivered_alike hincoming houtgoing _⟩

end BoxOffice
