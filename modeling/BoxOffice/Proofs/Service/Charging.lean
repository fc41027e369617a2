import BoxOffice.Proofs.Service.Conduct

/-! What the services charge. An invoice that is put into the store is for the amount that the
processor was asked for when it issued it; a retry asks for the amount of the payment as it was
read. A counterparty is told of the amount of the payment that was looked up. No other request
names an amount of a payment. -/

namespace BoxOffice

open Program

/-- What the processor was asked for and issued, latest first. -/
def charged (h : List Turn) : List (InvoiceSpec × ProcessorInvoice) :=
  h.filterMap fun
    | ⟨.createInvoice spec, .ok x⟩ => some (spec, x)
    | _ => none

theorem mem_charged {h : List Turn} {spec : InvoiceSpec} {x : ProcessorInvoice} :
    (spec, x) ∈ charged h ↔ ⟨.createInvoice spec, .ok x⟩ ∈ h := by
  constructor
  case mp =>
    intro hm
    obtain ⟨t, ht, hx⟩ := List.mem_filterMap.1 hm
    split at hx
    · cases hx
      exact ht
    · cases hx
  case mpr => exact fun hm => List.mem_filterMap.2 ⟨_, hm, rfl⟩

/-- The processor issued the encoded invoice when it was asked for the amount. -/
def Charged (amount : Sats) (encoded : String) (h : List Turn) : Prop :=
  ∃ spec x, (spec, x) ∈ charged h ∧ spec.amount = amount ∧ x.encoded = encoded

theorem Charged.mono {amount : Sats} {encoded : String} {h h' : List Turn}
    (hc : Charged amount encoded h) (hh : ∀ t ∈ h, t ∈ h') : Charged amount encoded h' := by
  obtain ⟨spec, x, hm, hcharged⟩ := hc
  exact ⟨spec, x, mem_charged.2 (hh _ (mem_charged.1 hm)), hcharged⟩

/-- The amounts that a request names are those that they should be after the turns. -/
def Request.Charges (h : List Turn) : Request → Prop
  | .store (.createPurchase n _) => ∀ i, n.invoice = some i → Charged i.amount i.encoded h
  | .store (.reissue id i) => Charged i.amount i.encoded h ∧
      ∃ p, Turn.call (.payment id) (.ok (some p)) ∈ h ∧ i.amount = p.amount
  | .notify _ n => ∃ encoded p, Turn.call (.paymentByInvoice encoded) (.ok (some p)) ∈ h ∧
      n.invoice = p.invoice ∧ n.amountMsats = p.amount.millisats
  | _ => True

/-- The rule for what the services charge. -/
def Charges : Rule := fun h r => r.Charges h

theorem charges_of_plain (h : List Turn) (r : Request) (hr : r.isPlain) : Charges h r := by
  cases r with
  | store c =>
    cases c with
    | createPurchase => cases hr
    | reissue => cases hr
    | _ => trivial
  | notify => cases hr
  | _ => trivial

theorem Program.conforms_any {α : Type} (p : Program α) (h : List Turn) :
    Conforms (fun _ _ => True) (fun _ _ => True) p h := by
  induction p generalizing h with
  | pure => trivial
  | ask r next ih => exact ⟨trivial, fun x _ => ih x _⟩
  | abort => trivial

namespace Service

/-! ### Purchases and retries -/

theorem issue_charges (setup : Setup) (k : TicketId) (buyer : String) (amount : Sats)
    (description : String) (h : List Turn) :
    Follows Charges (fun h' i => (∀ t ∈ h, t ∈ h') ∧ i.amount = amount ∧
      Charged i.amount i.encoded h') (issue setup k buyer amount description) h := by
  unfold issue
  dsimp only
  split
  · exact (follows_throw _).bind fun _ _ => False.elim
  · split
    · exact (follows_throw _).bind fun _ _ => False.elim
    · have hcreate : Follows Charges (fun h' (x : ProcessorInvoice) => (∀ t ∈ h, t ∈ h') ∧
          Charged amount x.encoded h') (ExceptT.mk (Program.request
            (.createInvoice ⟨amount, description, setup.invoiceExpirySecs⟩))) h := by
        refine ⟨trivial, fun x _ => ?_⟩
        rintro issued rfl
        exact ⟨fun t ht => .tail _ ht, _, issued, mem_charged.2 List.mem_cons_self, rfl, rfl⟩
      refine hcreate.within.bind fun h₁ issued hissued => ?_
      obtain ⟨hadds, hcharged⟩ := hissued
      refine ((invoiceExpiry_light setup _).plain.follows charges_of_plain).bind fun h₂ _ hq => ?_
      exact follows_pure ⟨fun t ht => hq.mem (hadds t ht), rfl, hcharged.mono fun t => hq.mem⟩

/-- Issuing refuses no amount but zero. -/
theorem issue_refuses (setup : Setup) (k : TicketId) (buyer : String) (amount : Sats)
    (description : String) (h : List Turn) :
    Conforms (fun _ _ => True) (fun h' x => ∀ error, x = .error error →
      (∃ e, Address.parse buyer = .error e) ∨ amount.isZero ∨
      ∃ e, ⟨.createInvoice ⟨amount, description, setup.invoiceExpirySecs⟩, .error e⟩ ∈ h' ∧
        error = .processor e) (issue setup k buyer amount description).run h := by
  unfold issue
  dsimp only
  split
  · next e hbuyer => exact fun _ _ => .inl ⟨e, hbuyer⟩
  · split
    · next hamount => exact fun _ _ => .inr (.inl hamount)
    · have hcreate : Conforms (fun _ _ => True) (fun h' x => ∀ e, x = .error e →
          ⟨.createInvoice ⟨amount, description, setup.invoiceExpirySecs⟩, .error e⟩ ∈ h')
          (ExceptT.mk (request (.createInvoice
            ⟨amount, description, setup.invoiceExpirySecs⟩))).run h := by
        refine ⟨trivial, fun x _ => ?_⟩
        rintro e rfl
        exact List.mem_cons_self
      refine Conforms.andThen (hcreate.within IssueError.processor) (fun h₁ issued _ => ?_) ?_
      · exact Conforms.lift (conforms_any (invoiceExpiry setup issued.expiresAt) h₁) fun _ _ _ =>
          nofun
      · rintro h' error ⟨y, hy, hcreated⟩ _ ⟨⟩
        cases y with
        | error e =>
          cases hy
          exact .inr (.inr ⟨e, hcreated e rfl, rfl⟩)
        | ok x => cases hy

theorem purchaseInvoice_charges (setup : Setup) (k : TicketId) (buyer : Address) (amount : Sats)
    (event : Event) (h : List Turn) :
    Follows Charges (fun h' i => (∀ t ∈ h, t ∈ h') ∧ i.amount = amount ∧
      Charged i.amount i.encoded h') (purchaseInvoice setup k buyer amount event) h :=
  (issue_charges setup k _ amount _ h).within

/-- A store call that carries no amount, within a purchase. -/
theorem purchaseStore_charges {c : Store.Call} {h : List Turn} (hc : Charges h (.store c)) :
    Follows Charges (fun h' a => h' = .call c (.ok a) :: h) (purchaseStore c) h := by
  have hstore : Follows Charges (fun h' a => h' = .call c (.ok a) :: h) (Program.store c) h :=
    (follows_store hc).mono (fun _ _ => id) fun _ _ hx a ha => (hx a ha).1
  exact hstore.within

theorem purchase_charges (setup : Setup) (event : EventId) (user : UserId)
    (address : Option String) (h : List Turn) :
    Conforms Charges (fun _ _ => True) (purchase setup event user address).run h := by
  have htry : Follows Charges (fun _ _ => True) (tryPurchase setup event user address) h := by
    unfold tryPurchase
    refine ((givenAddress_light address).plain.follows charges_of_plain).bind fun h₁ buyer _ => ?_
    refine ((availableEvent_light event).plain.follows charges_of_plain).bind fun h₂ event _ => ?_
    refine (follows_request (by trivial)).bind fun h₃ k _ => ?_
    refine (follows_request (by trivial)).bind fun h₄ code _ => ?_
    refine (plain_now.follows charges_of_plain).bind fun h₅ createdAt _ => ?_
    dsimp only
    split
    · refine (follows_request (by trivial)).bind fun h₆ id _ => ?_
      refine (purchaseStore_charges (c := .createPurchase ⟨k, _, _, _, _, none, _⟩ id) nofun).bind
        fun _ _ _ => follows_pure trivial
    · refine (Plain.follows (only_orThrow _ _) charges_of_plain).bind fun h₆ buyer _ => ?_
      refine (purchaseInvoice_charges setup _ _ _ _ _).bind fun h₇ invoice hinvoice => ?_
      obtain ⟨-, -, hcharged⟩ := hinvoice
      refine (follows_request (by trivial)).bind fun h₈ id hid => ?_
      obtain ⟨rfl, -⟩ := hid
      refine (purchaseStore_charges ?_).bind fun h₉ _ _ => ?_
      · rintro _ ⟨⟩
        exact hcharged.mono fun _ => .tail _
      refine (follows_request (by trivial)).bind fun h₁₀ credential _ => ?_
      exact (follows_request (by trivial)).bind fun _ _ _ => follows_pure trivial
  exact Conforms.bind htry fun h' x _ => ⟨trivial, fun _ _ => trivial⟩

theorem retry_charges (setup : Setup) (id : PaymentId) (h : List Turn) :
    Conforms Charges (fun _ _ => True) (retry setup id).run h := by
  have hretry : Follows Charges (fun _ _ => True) (retry setup id) h := by
    unfold retry
    refine (purchaseStore_charges (by trivial)).bind fun h₁ found hfound => ?_
    subst hfound
    refine (follows_orThrow _ _).bind fun h₂ p hp => ?_
    obtain ⟨rfl, rfl⟩ := hp
    refine (purchaseStore_charges (by trivial)).bind fun h₃ found hfound => ?_
    subst hfound
    refine (follows_orThrow _ _).bind fun h₄ t ht => ?_
    obtain ⟨rfl, rfl⟩ := ht
    dsimp only
    split
    · exact (follows_throw _).bind fun _ _ => False.elim
    · refine (Plain.follows (only_orThrow _ _) charges_of_plain).bind fun h₅ raw hq₅ => ?_
      refine ((parseAddress_light raw).plain.follows charges_of_plain).bind fun h₆ buyer hq₆ => ?_
      refine ((availableEvent_light _).plain.follows charges_of_plain).bind fun h₇ event hq₇ => ?_
      refine (purchaseInvoice_charges setup _ _ _ _ _).bind fun h₈ invoice hinvoice => ?_
      obtain ⟨hadds, hamount, hcharged⟩ := hinvoice
      have hread : Turn.call (.payment id) (.ok (some p)) ∈ h₈ :=
        hadds _ (((hq₅.trans hq₆).trans hq₇).mem (.tail _ List.mem_cons_self))
      refine (purchaseStore_charges (c := .reissue id invoice) ⟨hcharged, p, hread, hamount⟩).bind
        fun h₉ _ _ => ?_
      refine (follows_request (by trivial)).bind fun h₁₀ _ _ => ?_
      refine (follows_request (by trivial)).bind fun h₁₁ _ _ => ?_
      refine (purchaseStore_charges (by trivial)).bind fun h₁₂ found _ => ?_
      exact (Plain.follows (only_orThrow _ _) charges_of_plain).bind fun _ _ _ =>
        follows_pure trivial
  exact Conforms.mono hretry (fun _ _ hr => hr) fun _ _ _ => trivial

/-! ### Closing payments -/

theorem apply_charges {action : LifecycleAction} (hopen : action.target ≠ .pending) (setup : Setup)
    (k : TicketId) (h : List Turn) :
    Follows Charges (fun h' _ => Since (Works k) h h') (apply setup k action) h :=
  have hrun := apply_follows hopen charges_of_plain (fun _ _ _ => trivial) setup
  hrun.mono (fun _ _ => id) fun _ _ hx o ho => (hx o ho).1

theorem route_charges (setup : Setup) (c : DispatchContext) (h : List Turn) :
    Conforms Charges (fun _ _ => True) (route setup c) h := by
  refine Conforms.bind (apply_charges (by nofun) setup _ h) fun _ x _ => ?_
  cases x <;> trivial

theorem expireAll_charges (setup : Setup) (now : Time.Instant) (ps : List Payment)
    (h : List Turn) : Conforms Charges (fun _ _ => True) (expireAll setup now ps) h := by
  induction ps generalizing h with
  | nil => trivial
  | cons p rest ih =>
    refine Conforms.bind (apply_charges (by nofun) setup _ h) fun h₁ x _ => ?_
    exact Conforms.bind (ih h₁) fun _ _ _ => trivial

theorem sweep_charges (setup : Setup) (h : List Turn) :
    Conforms Charges (fun _ _ => True) (sweep setup).run h := by
  have hsweep : Follows Charges (fun _ _ => True) (sweep setup) h := by
    unfold sweep
    refine (plain_now.follows charges_of_plain).bind fun h₁ now _ => ?_
    refine (follows_store (by trivial)).bind fun h₂ ps _ => ?_
    exact follows_lift (expireAll_charges setup now ps h₂)
  exact Conforms.mono hsweep (fun _ _ => id) fun _ _ _ => trivial

/-! ### Settlements -/

theorem notifyCounterparty_charges {encoded : String} {p : Payment} {h : List Turn}
    (hp : Turn.call (.paymentByInvoice encoded) (.ok (some p)) ∈ h) (setup : Setup)
    (paidAt : Option Time.Instant) :
    Conforms Charges (fun _ _ => True) (notifyCounterparty setup p paidAt) h := by
  unfold notifyCounterparty
  cases p.counterpartyCallback with
  | none => trivial
  | some url =>
    cases paidAt with
    | some t => exact ⟨⟨encoded, p, hp, rfl, rfl⟩, fun _ _ => trivial⟩
    | none => exact ⟨trivial, fun _ _ => ⟨⟨encoded, p, .tail _ hp, rfl, rfl⟩, fun _ _ => trivial⟩⟩

theorem settle_charges {encoded : String} {p : Payment} {h : List Turn}
    (hp : Turn.call (.paymentByInvoice encoded) (.ok (some p)) ∈ h) (setup : Setup) :
    Follows Charges (fun _ _ => True) (settle setup p) h := by
  unfold settle
  refine (plain_now.follows charges_of_plain).bind fun h₁ now hq₁ => ?_
  refine (apply_charges (by nofun) setup _ h₁).within.bind fun h₂ outcome hs₂ => ?_
  split
  · have hp₂ := hs₂.mem (hq₁.mem hp)
    exact (follows_lift (notifyCounterparty_charges hp₂ setup _)).bind fun _ _ _ =>
      follows_pure trivial
  · split <;> exact follows_pure trivial

theorem reconcileEvent_charges (setup : Setup) (event : WebhookEvent) (h : List Turn) :
    Follows Charges (fun _ _ => True) (reconcileEvent setup event) h := by
  have hfetch : Plain (within ReconcileError.processor
      (ExceptT.mk (request (.fetchSettlement event.entityId)))) :=
    Only.within fun _ => ⟨rfl, fun _ _ => trivial⟩
  unfold reconcileEvent
  split
  · exact follows_pure trivial
  · refine (Plain.follows hfetch charges_of_plain).bind fun h₁ entity _ => ?_
    refine ((settledInvoice_light entity).plain.follows charges_of_plain).bind
      fun h₂ invoice _ => ?_
    refine (follows_store (by trivial)).within.bind fun h₃ found hfound => ?_
    obtain ⟨rfl, -⟩ := hfound
    cases found with
    | none => exact follows_pure trivial
    | some p => exact settle_charges List.mem_cons_self setup

theorem onNotification_charges (setup : Setup) (body : Bytes) (signature : Option String)
    (h : List Turn) :
    Conforms Charges (fun _ _ => True) (onNotification setup body signature).run h := by
  have hreconcile : Follows Charges (fun _ _ => True) (reconcile setup body signature) h := by
    unfold reconcile
    refine (follows_orThrow _ _).bind fun h₁ signature _ => ?_
    dsimp only
    split
    · exact (follows_throw _).bind fun _ _ => False.elim
    · refine (follows_orThrow _ _).bind fun h₂ event _ => ?_
      exact reconcileEvent_charges setup event h₂
  exact Conforms.bind hreconcile fun _ _ _ => ⟨trivial, fun _ _ => trivial⟩

end Service

/-- Every job charges as it should. -/
theorem Job.charges (setup : Setup) (job : Job) :
    Conforms Charges (fun _ _ => True) (job.program setup) [] := by
  cases job with
  | purchase event user address => exact Service.purchase_charges setup event user address []
  | retry payment => exact Service.retry_charges setup payment []
  | route c => exact Service.route_charges setup c []
  | sweep => exact Service.sweep_charges setup []
  | notification body signature => exact Service.onNotification_charges setup body signature []
  | payRequest ticket body =>
    have hp : Plain (Service.payRequest setup ticket body) :=
      Service.payRequest_only (fun _ => Request.isPlain_of_isLight) (fun _ _ => rfl) setup ticket
        body
    exact Conforms.mono (hp.follows charges_of_plain) (fun _ _ => id) fun _ _ _ => trivial
  | putEvent event => exact ⟨trivial, fun _ _ => trivial⟩
  | putCredential credential => exact ⟨trivial, fun _ _ => trivial⟩

end BoxOffice
