import BoxOffice.Proofs.Service.Job

/-! The services ask for nothing but what their jobs are allowed to. -/

namespace BoxOffice

open Program

namespace Service

/-! ### Purchases and retries -/

theorem purchaseStore_light {c : Store.Call} (hc : (Request.store c).isLight) :
    Light (purchaseStore c) := (only_store hc).within

theorem ensureAvailable_light (event : Event) : Light (ensureAvailable event) := by
  have hheld : Light (Program.store (.heldCount event.id)) := only_store rfl
  unfold ensureAvailable remainingPlaces
  dsimp only
  split
  · exact only_throw _
  · refine (hheld.bind fun _ => only_pure _).bind fun left => ?_
    split
    · exact only_throw _
    · exact only_pure _

theorem availableEvent_light (id : EventId) : Light (availableEvent id) := by
  unfold availableEvent
  refine (purchaseStore_light rfl).bind fun found => ?_
  refine (only_orThrow _ _).bind fun event => ?_
  exact (ensureAvailable_light event).within.bind fun _ => only_pure _

theorem parseAddress_light (raw : String) : Light (parseAddress raw) := by
  unfold parseAddress
  split
  · exact only_pure _
  · exact only_throw _

theorem givenAddress_light (address : Option String) : Light (givenAddress address) := by
  cases address with
  | some raw => exact (parseAddress_light raw).bind fun _ => only_pure _
  | none => exact only_pure _

theorem ticketStatus_light (ticket : TicketId) : Light (ticketStatus ticket) := by
  unfold ticketStatus
  refine (purchaseStore_light rfl).bind fun found => ?_
  refine (only_orThrow _ _).bind fun t => ?_
  exact (purchaseStore_light rfl).bind fun p => only_pure _

theorem invoiceExpiry_light (setup : Setup) (given : Option Time.Instant) :
    Light (liftM (invoiceExpiry setup given) : ExceptT IssueError Program Time.Instant) := by
  cases given with
  | some t => exact only_pure _
  | none =>
    refine fun h => ⟨rfl, fun now _ => ?_⟩
    simp only [Program.bind]
    split <;> trivial

theorem issue_follows {rule : Rule} (hlight : ∀ h r, r.isLight → rule h r) (setup : Setup)
    (ticket : TicketId) (buyer : String) (amount : Sats) (description : String) (h : List Turn) :
    Follows rule (fun h' invoice => Quiet h h' ∧ Issued invoice.encoded h')
      (issue setup ticket buyer amount description) h := by
  unfold issue
  dsimp only
  split
  · exact (follows_throw _).bind fun _ _ => False.elim
  · split
    · exact (follows_throw _).bind fun _ _ => False.elim
    · have hcreate : Follows rule (fun h' (x : ProcessorInvoice) => Quiet h h' ∧ Issued x.encoded h')
          (ExceptT.mk (Program.request
            (.createInvoice ⟨amount, description, setup.invoiceExpirySecs⟩))) h := by
        refine ⟨hlight _ _ rfl, fun x _ => ?_⟩
        rintro issued rfl
        exact ⟨(Since.refl h).cons rfl, _, issued, List.mem_cons_self, rfl⟩
      refine hcreate.within.bind fun h₁ issued hissued => ?_
      refine ((invoiceExpiry_light setup _).follows hlight).bind fun h₂ _ hq => ?_
      exact follows_pure ⟨hissued.1.trans hq, hissued.2.since hq⟩

/-- An invoice within a purchase is issued by the processor. -/
theorem purchaseInvoice_follows {rule : Rule} (hlight : ∀ h r, r.isLight → rule h r)
    (setup : Setup) (ticket : TicketId) (buyer : Address) (amount : Sats) (event : Event)
    (h : List Turn) : Follows rule (fun h' invoice => Quiet h h' ∧ Issued invoice.encoded h')
      (purchaseInvoice setup ticket buyer amount event) h :=
  (issue_follows hlight setup _ _ _ _ h).within

/-- A ticket is created by a job that asked for nothing but plain things before. -/
theorem createPurchase_follows {α : Type} {job : Job} {h : List Turn} {n : NewPurchase}
    {done : List Turn → α → Prop}
    {f : PaymentId → Ticket × Option Payment → ExceptT PurchaseError Program α}
    (hq : Quiet [] h) (hk : ⟨.freshTicket, n.ticketId⟩ ∈ h)
    (hissued : ∀ i, n.invoice = some i → Issued i.encoded h)
    (hf : ∀ id x, Follows job.Allowed done (f id x)
      (.call (.createPurchase n id) (.ok x) :: ⟨.freshPayment, id⟩ :: h)) :
    Follows job.Allowed done
      (liftM (Program.request .freshPayment) >>= fun id =>
        purchaseStore (.createPurchase n id) >>= f id) h := by
  refine (follows_request (job.allowed_of_plain _ _ rfl)).bind fun h₁ id hid => ?_
  obtain ⟨rfl, -⟩ := hid
  have hq₁ : Quiet [] (⟨.freshPayment, id⟩ :: h) := hq.cons rfl
  have hissued₁ : ∀ i, n.invoice = some i → Issued i.encoded (⟨.freshPayment, id⟩ :: h) :=
    fun i hi => (hissued i hi).cons
  refine (follows_store ⟨.tail _ hk, List.mem_cons_self, hissued₁, hq₁.puts_eq_false⟩).within.bind
    fun h₂ x hx => ?_
  obtain ⟨rfl, -⟩ := hx
  exact hf id x

theorem tryPurchase_follows {job : Job} (setup : Setup) (event : EventId) (user : UserId)
    (address : Option String) :
    Follows job.Allowed (fun _ _ => True) (tryPurchase setup event user address) [] := by
  have hplain := job.allowed_of_plain
  unfold tryPurchase
  refine ((givenAddress_light address).plain.follows hplain).bind fun h₁ buyer hq₁ => ?_
  refine ((availableEvent_light event).plain.follows hplain).bind fun h₂ event hq₂ => ?_
  refine (follows_request (hplain _ _ rfl)).bind fun h₃ k hk => ?_
  obtain ⟨rfl, -⟩ := hk
  refine (follows_request (hplain _ _ rfl)).bind fun h₄ code hcode => ?_
  obtain ⟨rfl, -⟩ := hcode
  refine (plain_now.follows hplain).bind fun h₅ now hq₅ => ?_
  have hq : Quiet [] h₅ :=
    (((hq₁.trans hq₂).cons (by rfl : _)).cons (by rfl)).trans hq₅
  have hk : ⟨.freshTicket, k⟩ ∈ h₅ := hq₅.mem (.tail _ List.mem_cons_self)
  dsimp only
  split
  · exact createPurchase_follows hq hk nofun fun id x => follows_pure trivial
  · refine (Plain.follows (only_orThrow _ _) hplain).bind fun h₆ buyer hq₆ => ?_
    refine (purchaseInvoice_follows job.allowed_of_light setup _ _ _ _ _).bind fun h₇ invoice hx => ?_
    obtain ⟨hq₇, hissued⟩ := hx
    have hq₈ := (hq.trans hq₆).trans hq₇
    refine createPurchase_follows hq₈ (hq₇.mem (hq₆.mem hk)) ?_ fun id x => ?_
    · rintro _ ⟨⟩
      exact hissued
    refine (follows_request (hplain _ _ rfl)).bind fun h₁₀ credential hc => ?_
    obtain ⟨rfl, -⟩ := hc
    refine Follows.bind (follows_request ?_) fun h₁₁ _ _ => follows_pure trivial
    exact .inl ⟨_, id, x, invoice, .tail _ List.mem_cons_self, rfl, rfl, rfl⟩

theorem retry_follows {job : Job} (setup : Setup) (payment : PaymentId) :
    Follows job.Allowed (fun _ _ => True) (retry setup payment) [] := by
  have hplain := job.allowed_of_plain
  unfold retry
  refine (follows_store (hplain _ _ rfl)).within.bind fun h₁ found hfound => ?_
  obtain ⟨rfl, -⟩ := hfound
  refine (follows_orThrow _ _).bind fun h₂ p hp => ?_
  obtain ⟨rfl, rfl⟩ := hp
  refine (follows_store (hplain _ _ rfl)).within.bind fun h₃ found hfound => ?_
  obtain ⟨rfl, hfits⟩ := hfound
  refine (follows_orThrow _ _).bind fun h₄ t ht => ?_
  obtain ⟨rfl, rfl⟩ := ht
  dsimp only
  split
  · exact (follows_throw _).bind fun _ _ => False.elim
  · refine (Plain.follows (only_orThrow _ _) hplain).bind fun h₁ raw hq₁ => ?_
    refine ((parseAddress_light raw).plain.follows hplain).bind fun h₂ buyer hq₂ => ?_
    refine ((availableEvent_light _).plain.follows hplain).bind fun h₃ event hq₃ => ?_
    refine (purchaseInvoice_follows job.allowed_of_light setup _ _ _ _ _).bind fun h₄ invoice hx => ?_
    obtain ⟨hq₄, hissued⟩ := hx
    have hq := ((hq₁.trans hq₂).trans hq₃).trans hq₄
    have hloaded : Quiet [] h₄ := Since.trans (((.refl [] : Quiet [] []).cons rfl).cons rfl) hq
    refine (follows_store ⟨hissued, hloaded.puts_eq_false⟩).within.bind fun h₅ x hx => ?_
    obtain ⟨rfl, -⟩ := hx
    refine ((plain_count _).follows hplain).bind fun h₆ _ hq₆ => ?_
    refine Follows.bind (follows_request ?_) fun h₇ _ _ => ?_
    · have hp := hq₆.mem (.tail _ (hq.mem (.tail _ List.mem_cons_self)))
      exact .inr ⟨payment, p, invoice, x, hp, hq₆.mem List.mem_cons_self, rfl,
        hfits.ticket_id.symm⟩
    · refine ((purchaseStore_light rfl).plain.follows hplain).bind fun h₈ found _ => ?_
      exact (Plain.follows (only_orThrow _ _) hplain).bind fun h₉ ticket _ => follows_pure trivial

/-! ### Closing payments -/

theorem apply_conforms {job : Job} {k : TicketId} {action : LifecycleAction} {h : List Turn}
    (hdecided : ∀ h', Since (Works k) h h' → job.Decided k h' action.target) (setup : Setup) :
    Conforms job.Allowed (fun h' x => Since (Works k) h h' ∧
      ∀ o, x = .ok o → o.persisted → Applied k action.target h') (apply setup k action).run h := by
  have hopen : action.target ≠ .pending := by
    intro he
    have := hdecided h (.refl h)
    rwa [he] at this
  have hrun : Follows (fun h r => job.Allowed h r ∧ Works k r) _ (apply setup k action) h :=
    apply_follows hopen (fun h r hr => ⟨job.allowed_of_plain h r hr, .inl hr⟩)
      (fun h' _ hs => ⟨⟨rfl, hdecided h' hs⟩, .inr ⟨_, rfl⟩⟩) setup
  exact (Conforms.since hrun).mono (fun _ _ => id) fun _ _ hx =>
    ⟨hx.1, fun o ho => (hx.2 o ho).2⟩

theorem apply_decided {job : Job} {k : TicketId} {action : LifecycleAction} {h : List Turn}
    (hdecided : ∀ h', Since (Works k) h h' → job.Decided k h' action.target) (setup : Setup) :
    Follows job.Allowed (fun h' o => Since (Works k) h h' ∧
      (o.persisted → Applied k action.target h')) (apply setup k action) h :=
  (apply_conforms hdecided setup).mono (fun _ _ => id) fun _ _ hx o ho => ⟨hx.1, hx.2 o ho⟩

theorem route_conforms (setup : Setup) (c : DispatchContext) :
    Conforms (Job.route c).Allowed (fun _ _ => True) (route setup c) [] := by
  refine Conforms.bind (apply_conforms ?_ setup) fun _ x _ => ?_
  · exact fun _ _ => ⟨c, rfl, rfl⟩
  · cases x <;> trivial

theorem expireAll_conforms {job : Job} (setup : Setup) (now : Time.Instant) {ps : List Payment}
    {h : List Turn} (hps : ∀ p ∈ ps, Listed p.ticketId h) :
    Conforms job.Allowed (fun _ _ => True) (expireAll setup now ps) h := by
  induction ps generalizing h with
  | nil => trivial
  | cons p rest ih =>
    obtain ⟨hp, hrest⟩ := List.forall_mem_cons.1 hps
    refine Conforms.bind (apply_conforms ?_ setup) fun h₁ x hx => ?_
    · exact fun h' hs => hp.since hs
    · exact Conforms.bind (ih fun q hq => (hrest q hq).since hx.1) fun _ _ _ => trivial

theorem sweep_follows {job : Job} (setup : Setup) :
    Follows job.Allowed (fun _ _ => True) (sweep setup) [] := by
  have hplain := job.allowed_of_plain
  unfold sweep
  refine (plain_now.follows hplain).bind fun h₁ now _ => ?_
  refine (follows_store (hplain _ _ rfl)).bind fun h₂ ps hps => ?_
  obtain ⟨rfl, -⟩ := hps
  refine follows_lift (expireAll_conforms setup now fun p hp => ?_)
  exact ⟨now, ps, List.mem_cons_self, p, hp, rfl⟩

/-! ### Settlements -/

theorem settledInvoice_light (entity : SettlementEntity) : Light (settledInvoice entity) := by
  cases entity with
  | incoming id invoiceId =>
    refine Only.bind (Only.within fun _ => ⟨rfl, fun _ _ => trivial⟩) fun invoice => ?_
    dsimp only
    split
    · exact only_throw _
    · exact only_pure _
  | outgoing id request => exact only_orThrow _ _

/-- The counterparty is told of a settlement once. -/
theorem notifyCounterparty_conforms {job : Job} (hjob : job.isNotification) {k : TicketId}
    {h : List Turn} (hfound : Found k h) (happlied : Applied k .paid h) (huntold : Untold h)
    (setup : Setup) (payment : Payment) (paidAt : Option Time.Instant) :
    Conforms job.Allowed (fun h' _ => Applied k .paid h')
      (notifyCounterparty setup payment paidAt) h := by
  unfold notifyCounterparty
  cases payment.counterpartyCallback with
  | none => exact happlied
  | some url =>
    cases paidAt with
    | some t => exact ⟨⟨⟨k, hfound, happlied⟩, huntold, hjob⟩, fun x _ => happlied.cons⟩
    | none =>
      refine ⟨job.allowed_of_plain _ _ rfl, fun now _ => ?_⟩
      have huntold' : Untold (⟨.now, now⟩ :: h) :=
        huntold.since (k := k) ((Since.refl h).cons (.inl rfl))
      exact ⟨⟨⟨k, hfound.cons, happlied.cons⟩, huntold', hjob⟩, fun x _ => happlied.cons.cons⟩

theorem settle_follows {job : Job} (hjob : job.isNotification) {p : Payment} {h : List Turn}
    (hfound : Found p.ticketId h) (huntold : Untold h) (setup : Setup) :
    Follows job.Allowed (fun h' o => ∀ k, o = .settled k → Applied k .paid h') (settle setup p)
      h := by
  have hplain := job.allowed_of_plain
  unfold settle
  refine (plain_now.follows hplain).bind fun h₁ now hq => ?_
  have hfound₁ := hfound.since hq
  have huntold₁ := huntold.since (Quiet.works (k := p.ticketId) hq)
  refine (Follows.within (apply_decided ?_ setup)).bind fun h₂ outcome hx => ?_
  · exact fun h' hs => hfound₁.since hs
  obtain ⟨hs₂, hpersisted⟩ := hx
  split
  · next hp =>
    refine (follows_lift (notifyCounterparty_conforms hjob (hfound₁.since hs₂) (hpersisted hp)
      (huntold₁.since hs₂) setup p _)).bind fun h₃ _ happlied => ?_
    refine follows_pure fun k hk => ?_
    cases hk
    exact happlied
  · split <;> refine follows_pure fun k hk => ?_ <;> cases hk

theorem reconcileEvent_follows {job : Job} (hjob : job.isNotification) (setup : Setup)
    (event : WebhookEvent) :
    Follows job.Allowed (fun h' o => ∀ k, o = .settled k → Applied k .paid h')
      (reconcileEvent setup event) [] := by
  have hplain := job.allowed_of_plain
  unfold reconcileEvent
  split
  · refine follows_pure fun k hk => ?_
    cases hk
  · refine Follows.bind (Follows.within (Plain.follows (fun _ => ⟨rfl, fun _ _ => trivial⟩) hplain))
      fun h₁ entity hq₁ => ?_
    refine ((settledInvoice_light entity).plain.follows hplain).bind fun h₂ invoice hq₂ => ?_
    have hq := hq₁.trans hq₂
    refine (follows_store fun _ => hq.request_ne rfl).within.bind fun h₃ found hfound => ?_
    obtain ⟨rfl, -⟩ := hfound
    cases found with
    | none =>
      refine follows_pure fun k hk => ?_
      cases hk
    | some p =>
      refine settle_follows hjob ⟨invoice, p, List.mem_cons_self, rfl⟩ ?_ setup
      rintro url n t (_ | ⟨_, ht⟩) hr
      · cases hr
      · exact hq.request_ne rfl t ht hr

theorem reconcile_follows {job : Job} (hjob : job.isNotification) (setup : Setup) (body : Bytes)
    (signature : Option String) :
    Follows job.Allowed (fun h' o => ∀ k, o = .settled k → Applied k .paid h')
      (reconcile setup body signature) [] := by
  unfold reconcile
  refine (follows_orThrow _ _).bind fun h₁ signature hs => ?_
  obtain ⟨rfl, -⟩ := hs
  dsimp only
  split
  · exact (follows_throw _).bind fun _ _ => False.elim
  · refine (follows_orThrow _ _).bind fun h₂ event he => ?_
    obtain ⟨rfl, -⟩ := he
    exact reconcileEvent_follows hjob setup event

theorem onNotification_conforms (setup : Setup) (body : Bytes) (signature : Option String) :
    Conforms (Job.notification body signature).Allowed (Job.notification body signature).Done
      (onNotification setup body signature).run [] := by
  refine Conforms.bind (reconcile_follows rfl setup body signature) fun h' result hr => ?_
  refine ⟨Job.allowed_of_plain _ _ rfl, fun x _ => ?_⟩
  cases result with
  | error e => trivial
  | ok outcome =>
    cases outcome with
    | settled k => exact (hr _ rfl k rfl).cons
    | _ => trivial

/-! ### Pay requests -/

theorem responderStore_light {c : Store.Call} (hc : (Request.store c).isLight) :
    Light (responderStore c) := (only_store hc).within

theorem currentInvoice_light (payment : Payment) : Light (currentInvoice payment) := by
  unfold currentInvoice
  refine (responderStore_light rfl).bind fun found => ?_
  split
  · refine light_now.bind fun now => ?_
    dsimp only
    split
    · exact only_throw_bind _ _
    · exact only_pure _
  · exact only_pure _

theorem payByAmount_light (amount : Option UInt64) : Light (payByAmount amount) := by
  unfold payByAmount
  refine (only_orThrow _ _).bind fun msats => ?_
  refine (only_orThrow _ _).bind fun amount => ?_
  refine (responderStore_light rfl).bind fun found => ?_
  refine (only_orThrow _ _).bind fun payment => ?_
  exact (currentInvoice_light payment).bind fun encoded => only_pure _

/-- A pay request writes nothing but the callback that comes with it. -/
theorem payRequest_only {kind : Request → Prop} (hlight : ∀ r, r.isLight → kind r)
    (hrecord : ∀ id url, kind (.store (.recordCallback id url))) (setup : Setup) (ticket : TicketId)
    (body : Protocol.PayRequest) : Only kind (payRequest setup ticket body) := by
  unfold payRequest
  refine Only.bind (Only.within (only_store (hlight _ rfl))) fun found => ?_
  refine (only_orThrow _ _).bind fun payment => ?_
  dsimp only
  split
  · exact only_throw_bind _ _
  · refine ((currentInvoice_light payment).mono hlight).bind fun encoded => ?_
    cases body with
    | amount => exact only_pure _
    | full request =>
      dsimp only
      split
      · exact (only_request (hrecord _ _)).bind fun _ => only_pure _
      · exact only_pure _

end Service

theorem Job.conforms (setup : Setup) (job : Job) :
    Conforms job.Allowed job.Done (job.program setup) [] := by
  have hplain := job.allowed_of_plain
  cases job with
  | purchase event user address =>
    refine Conforms.bind (Service.tryPurchase_follows setup event user address) fun h result _ => ?_
    exact ⟨hplain _ _ rfl, fun _ _ => trivial⟩
  | retry payment =>
    exact Conforms.mono (Service.retry_follows setup payment) (fun _ _ => id) fun _ _ _ => trivial
  | route c =>
    exact (Service.route_conforms setup c).mono (fun _ _ => id) fun _ _ _ => trivial
  | sweep =>
    exact Conforms.mono (Service.sweep_follows setup) (fun _ _ => id) fun _ _ _ => trivial
  | notification body signature => exact Service.onNotification_conforms setup body signature
  | payRequest ticket body =>
    have hp : Plain (Service.payRequest setup ticket body) :=
      Service.payRequest_only (fun _ => Request.isPlain_of_isLight) (fun _ _ => rfl) setup ticket body
    exact Conforms.mono (hp.follows hplain) (fun _ _ => id) fun _ _ _ => trivial
  | putEvent event => exact ⟨hplain _ _ rfl, fun _ _ => trivial⟩
  | putCredential credential => exact ⟨hplain _ _ rfl, fun _ _ => trivial⟩

end BoxOffice
