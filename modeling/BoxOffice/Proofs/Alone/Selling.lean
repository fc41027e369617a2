import BoxOffice.Proofs.Service.Conduct
import BoxOffice.Proofs.Store.Outcome

/-! Purchases, retries and pulls that run alone. Each writes to the store once at most, and nothing
that follows the writing can fail: a call that is refused has written nothing. -/

namespace BoxOffice

open Program

namespace Service

variable {w : Surroundings} {s : Store}

/-! ### Purchases -/

/-- What a purchase that ran alone from a store came to, before it is counted. -/
inductive Sale (s : Store) : Option (Except PurchaseError Receipt) → Store → List Turn → Prop
  | refused {x : Option (Except PurchaseError Receipt)} {h : List Turn}
      (result : ∀ receipt, x ≠ some (.ok receipt)) (unbooked : booked h = []) : Sale s x s h
  | sold {n : NewPurchase} {id : PaymentId} {y : Ticket × Option Payment} {receipt : Receipt}
      {s' : Store} {h : List Turn} (created : s.perform (.createPurchase n id) = (.ok y, s'))
      (ticket : ⟨.freshTicket, n.ticketId⟩ ∈ h) (payment : ⟨.freshPayment, id⟩ ∈ h)
      (priced : receipt.paymentRequired = n.invoice.isSome) (unbooked : booked h = []) :
      Sale s (some (.ok receipt)) s' h

theorem Sale.of_error {e : PurchaseError} {h : List Turn} (hbooked : booked h = []) :
    Sale s (some (.error e)) s h := by
  refine .refused (fun receipt hx => ?_) hbooked
  cases hx

/-- A ticket is created, or the store says why not. What follows cannot fail. -/
theorem createPurchase_comes (hs : s.Coherent) {n : NewPurchase} {h : List Turn}
    {f : PaymentId → Ticket × Option Payment → ExceptT PurchaseError Program Receipt}
    (hidle : Idle [] h) (hk : ⟨.freshTicket, n.ticketId⟩ ∈ h)
    (hf : ∀ id y, (f id y).run.Gives (fun r => r.isIdle) fun x =>
      ∃ receipt, x = .ok receipt ∧ receipt.paymentRequired = n.invoice.isSome) :
    Comes w (Sale s) (liftM (Program.request .freshPayment) >>= fun id =>
      purchaseStore (.createPurchase n id) >>= f id).run s h := by
  refine .idle hs hidle (follows_request rfl)
    (fun x h' hi hx => .refused hx hi.booked_eq) fun id h₁ hi₁ hid => ?_
  obtain ⟨rfl, -⟩ := hid
  obtain ⟨x, s', hcreated⟩ : ∃ x s', s.perform (.createPurchase n id) = (x, s') := ⟨_, _, rfl⟩
  have hbooked : booked (.call (.createPurchase n id) x :: ⟨.freshPayment, id⟩ :: h) = [] :=
    (hidle.trans hi₁).booked_eq
  refine .call hcreated (fun e he => ?_) fun y hy => ?_
  · subst he
    cases Store.perform_error hcreated
    exact .of_error hbooked
  · subst hy
    obtain ⟨_, h₂, hrun, ⟨receipt, rfl, hpriced⟩, hi₂⟩ := (hf id y).keeps w s'
      (.call (.createPurchase n id) (.ok y) :: ⟨.freshPayment, id⟩ :: h)
    refine comes_of_alone hrun (.sold hcreated ?_ ?_ hpriced (hi₂.booked_eq.trans hbooked))
    · exact hi₂.mem (.tail _ (.tail _ hk))
    · exact hi₂.mem (.tail _ List.mem_cons_self)

theorem tryPurchase_comes (hs : s.Coherent) (setup : Setup) (event : EventId) (user : UserId)
    (address : Option String) (w : Surroundings) :
    Comes w (Sale s) (tryPurchase setup event user address).run s [] := by
  have hstop : ∀ x h', Idle [] h' → (∀ receipt, x ≠ some (.ok receipt)) → Sale s x s h' :=
    fun x h' hi hx => .refused hx hi.booked_eq
  unfold tryPurchase
  refine .idle hs (.refl []) (givenAddress_light address).idle.follows hstop
    fun buyer h₁ hi₁ _ => ?_
  refine .idle hs hi₁ (availableEvent_light event).idle.follows hstop fun event h₂ hi₂ _ => ?_
  have hi := hi₁.trans hi₂
  refine .idle hs hi (follows_request rfl) hstop fun k h₃ hi₃ hk => ?_
  obtain ⟨rfl, -⟩ := hk
  have hi := hi.trans hi₃
  refine .idle hs hi (follows_request rfl) hstop fun code h₄ hi₄ _ => ?_
  have hi := hi.trans hi₄
  refine .idle hs hi light_now.idle.follows hstop fun now h₅ hi₅ _ => ?_
  have hi := hi.trans hi₅
  have hk : ⟨.freshTicket, k⟩ ∈ h₅ := hi₅.mem (hi₄.mem List.mem_cons_self)
  dsimp only
  split
  · exact createPurchase_comes hs hi hk fun id y => ⟨_, rfl, rfl⟩
  · refine .idle hs hi (only_orThrow _ _).follows hstop fun buyer h₆ hi₆ _ => ?_
    have hi := hi.trans hi₆
    have hissue := purchaseInvoice_follows (fun _ _ => Request.isIdle_of_isLight) setup k buyer
      event.price event h₆
    refine .idle hs hi hissue hstop fun invoice h₇ hi₇ _ => ?_
    refine createPurchase_comes hs (hi.trans hi₇) (hi₇.mem (hi₆.mem hk)) fun id y => ?_
    exact ⟨rfl, fun credential => ⟨rfl, fun _ => ⟨_, rfl, rfl⟩⟩⟩

/-! ### Retries -/

/-- What a retry that ran alone from a store came to. -/
inductive Reopening (s : Store) :
    Option (Except PurchaseError Receipt) → Store → List Turn → Prop
  | refused {x : Option (Except PurchaseError Receipt)} {h : List Turn}
      (result : ∀ receipt, x ≠ some (.ok receipt)) (unbooked : booked h = []) : Reopening s x s h
  | reopened {id : PaymentId} {i : Invoice} {p : Payment} {receipt : Receipt} {s' : Store}
      {h : List Turn} (reissued : s.perform (.reissue id i) = (.ok p, s'))
      (booked : booked h = [.payments .pending]) : Reopening s (some (.ok receipt)) s' h

/-- A ticket of a payment is still there when the payment has got its fresh invoice. -/
theorem ticket_of_reissue (hs : s.Coherent) {id : PaymentId} {i : Invoice} {p q : Payment}
    {t : Ticket} {s' : Store} (hp : s.payments.find? id = some p)
    (ht : s.tickets.find? p.ticketId = some t)
    (hreissued : s.perform (.reissue id i) = (.ok q, s')) :
    ∃ t', s'.tickets.find? t.id = some t' := by
  have hout := Store.perform_outcome hs (.reissue id i)
  rw [hreissued] at hout
  cases hout with
  | kept hx => cases hx
  | reissued hp' =>
    cases hp.symm.trans hp'
    rw [hs.ticket_key ht]
    exact ⟨_, Table.find?_set_self ..⟩

theorem Reopening.of_error {e : PurchaseError} {h : List Turn} (hbooked : booked h = []) :
    Reopening s (some (.error e)) s h := by
  refine .refused (fun receipt hx => ?_) hbooked
  cases hx

/-- A payment gets its fresh invoice, or the store says why not. What follows cannot fail as long as
the ticket is there, and it was found before. -/
theorem reissue_comes (hs : s.Coherent) {id : PaymentId} {p : Payment} {t : Ticket} {i : Invoice}
    {f : Payment → ExceptT PurchaseError Program Receipt} {h : List Turn} (hidle : Idle [] h)
    (hp : s.payments.find? id = some p) (ht : s.tickets.find? p.ticketId = some t)
    (hf : ∀ q s' h t', s'.tickets.find? t.id = some t' → Ends w (fun x s'' h' =>
      (∃ receipt, x = .ok receipt) ∧ s'' = s' ∧ booked h' = .payments .pending :: booked h)
      (f q).run s' h) :
    Comes w (Reopening s) (purchaseStore (.reissue id i) >>= f).run s h := by
  obtain ⟨x, s', hreissued⟩ : ∃ x s', s.perform (.reissue id i) = (x, s') := ⟨_, _, rfl⟩
  have hbooked : booked (.call (.reissue id i) x :: h) = [] := hidle.booked_eq
  refine .call hreissued (fun e he => ?_) fun q hq => ?_
  · subst he
    cases Store.perform_error hreissued
    exact .of_error hbooked
  · subst hq
    obtain ⟨t', ht'⟩ := ticket_of_reissue hs hp ht hreissued
    obtain ⟨_, _, h', hrun, ⟨receipt, rfl⟩, rfl, hbooked'⟩ :=
      hf q s' (.call (.reissue id i) (.ok q) :: h) t' ht'
    exact comes_of_alone hrun (.reopened hreissued (by rw [hbooked', hbooked]))

theorem retry_comes (hs : s.Coherent) (setup : Setup) (id : PaymentId) (w : Surroundings) :
    Comes w (Reopening s) (retry setup id).run s [] := by
  have hstop : ∀ x h', Idle [] h' → (∀ receipt, x ≠ some (.ok receipt)) → Reopening s x s h' :=
    fun x h' hi hx => .refused hx hi.booked_eq
  unfold retry
  refine .call (c := .payment id) rfl nofun fun found hfound => ?_
  refine .orThrow (fun _ => .of_error rfl) fun p hp => ?_
  refine .call (c := .ticket p.ticketId) rfl nofun fun found' hfound' => ?_
  refine .orThrow (fun _ => .of_error rfl) fun t ht => ?_
  subst hp
  subst ht
  have hread : Idle [] [.call (.ticket p.ticketId) (.ok (s.tickets.find? p.ticketId)),
      .call (.payment id) (.ok (s.payments.find? id))] :=
    ((.refl [] : Idle [] []).cons rfl).cons rfl
  dsimp only
  split
  · exact .of_error rfl
  · refine .idle hs hread (only_orThrow _ _).follows hstop fun raw h₁ hi₁ _ => ?_
    have hi := hread.trans hi₁
    refine .idle hs hi (parseAddress_light raw).idle.follows hstop fun buyer h₂ hi₂ _ => ?_
    have hi := hi.trans hi₂
    refine .idle hs hi (availableEvent_light _).idle.follows hstop fun event h₃ hi₃ _ => ?_
    have hi := hi.trans hi₃
    have hissue := purchaseInvoice_follows (fun _ _ => Request.isIdle_of_isLight) setup t.id buyer
      p.amount event h₃
    refine .idle hs hi hissue hstop fun invoice h₄ hi₄ _ => ?_
    refine reissue_comes hs (hi.trans hi₄) (Except.ok.inj hfound) (Except.ok.inj hfound')
      fun q s' h t' ht' => ?_
    have hticket : s'.perform (.ticket t.id) = (.ok (some t'), s') := by
      rw [← ht']
      rfl
    refine .ok (alone_lift rfl) (.ok rfl (.ok (alone_within (alone_store hticket) _) (.ok rfl ?_)))
    exact ⟨_, _, _, rfl, ⟨_, rfl⟩, rfl, rfl⟩

/-! ### Pulls -/

/-- What a pull that ran alone from a store came to. Whether a callback could be recorded makes no
difference to the answer. -/
inductive Quoting (s : Store) :
    Option (Except Protocol.ErrorEnvelope Protocol.PayResponse) → Store → List Turn → Prop
  | kept {x : Option (Except Protocol.ErrorEnvelope Protocol.PayResponse)} {h : List Turn}
      (unbooked : booked h = []) : Quoting s x s h
  | recorded {id : PaymentId} {url : String} {y : Except StoreError Unit}
      {quote : Protocol.PayResponse} {s' : Store} {h : List Turn}
      (performed : s.perform (.recordCallback id url) = (y, s')) (unbooked : booked h = []) :
      Quoting s (some (.ok quote)) s' (.call (.recordCallback id url) y :: h)

theorem payRequest_comes (hs : s.Coherent) (setup : Setup) (ticket : TicketId)
    (body : Protocol.PayRequest) (w : Surroundings) :
    Comes w (Quoting s) (payRequest setup ticket body).run s [] := by
  have hstop : ∀ (x : Option (Except Protocol.ErrorEnvelope Protocol.PayResponse)) h', Idle [] h' →
      (∀ quote, x ≠ some (.ok quote)) → Quoting s x s h' := fun _ _ hi _ => .kept hi.booked_eq
  unfold payRequest
  refine .idle hs (.refl []) (responderStore_light rfl).idle.follows hstop fun found h₁ hi₁ _ => ?_
  refine .idle hs hi₁ (only_orThrow _ _).follows hstop fun p h₂ hi₂ _ => ?_
  have hi := hi₁.trans hi₂
  dsimp only
  split
  · exact .kept hi.booked_eq
  · refine .idle hs hi (currentInvoice_light p).idle.follows hstop fun encoded h₃ hi₃ _ => ?_
    have hi := hi.trans hi₃
    cases body with
    | amount query => exact .kept hi.booked_eq
    | full request =>
      dsimp only
      split
      · exact .recorded rfl hi.booked_eq
      · exact .kept hi.booked_eq

end Service

end BoxOffice
