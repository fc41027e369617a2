import BoxOffice.Proofs.Alone.Booking
import BoxOffice.Proofs.Alone.Purchasing
import BoxOffice.Proofs.Program.Heeding
import BoxOffice.Proofs.Service.Quiescence

/-! Routings, from where they are begun to whom they ask first. A ticket that is sold for a price has
the routing of its payment begun once, with the wallet that the store keeps of the buyer; a retry
begins one without a wallet. A routing asks the wallet that it was begun with, if it may be asked
at the time, and goes to the provider if not. -/

namespace BoxOffice

open Program

variable {w : Surroundings} {s s' : Store} {h h' : List Turn}

/-! ### What is begun -/

/-- The routing that was begun in a turn. -/
def Turn.begins? : Turn → Option DispatchContext
  | ⟨.dispatch c, _⟩ => some c
  | _ => none

/-- The routings that were begun, latest first. -/
def begun (h : List Turn) : List DispatchContext := h.filterMap (·.begins?)

theorem Since.begun_eq (hq : Quiet h h') : begun h' = begun h := by
  obtain ⟨new, rfl, hnew⟩ := hq
  have hnone : new.filterMap (·.begins?) = [] := by
    refine List.filterMap_eq_nil_iff.2 fun t ht => ?_
    obtain ⟨r, x⟩ := t
    cases r with
    | dispatch c => cases hnew _ ht
    | _ => rfl
  rw [begun, List.filterMap_append, hnone, List.nil_append, begun]

namespace Service

variable {setup : Setup} {n : NewPurchase} {i : Invoice} {a : Address} {receipt : Receipt}

/-- What is left of a sale for a price that nothing else interfered with: the records of the ticket,
and one routing that was begun. -/
structure PricedSale (setup : Setup) (s : Store) (n : NewPurchase) (i : Invoice) (a : Address)
    (receipt : Receipt) (s' : Store) (h : List Turn) : Prop where
  recorded : ∃ id, s.perform (.createPurchase n id) = (.ok (n.ticket, n.payment id), s') ∧
    ⟨.freshPayment, id⟩ ∈ h ∧ receipt = ⟨n.ticket, n.payment id, some i, true⟩
  ticket : ⟨.freshTicket, n.ticketId⟩ ∈ h
  invoice : n.invoice = some i
  issued : Issued i.encoded h
  begun : begun h = [dispatchContext setup n.ticketId a i (s'.credentials.find? n.userId)]

/-- A ticket that is created has the names that were asked for. -/
theorem reply_of_createPurchase (hs : s.Coherent) {id : PaymentId} {y : Ticket × Option Payment}
    (hcreated : s.perform (.createPurchase n id) = (.ok y, s')) :
    y = (n.ticket, n.payment id) := by
  have hout := Store.perform_outcome hs (.createPurchase n id)
  rw [hcreated] at hout
  cases hout with
  | kept hwrites => cases hwrites
  | created => rfl

theorem enter_priced (hs : s.Coherent) (hinvoice : n.invoice = some i)
    (hk : ⟨.freshTicket, n.ticketId⟩ ∈ h) (hissued : Issued i.encoded h) (hnone : begun h = [])
    (setup : Setup) (a : Address) (w : Surroundings) :
    Comes w (fun x s' h' => ∀ receipt, x = some (.ok receipt) →
        PricedSale setup s n i a receipt s' h')
      (enter setup a n i).run s h := by
  unfold enter
  refine .idle hs (.refl h) (follows_request rfl)
    (fun x _ _ hx receipt hreceipt => absurd hreceipt (hx receipt)) fun id h₁ _ hid => ?_
  obtain ⟨rfl, -⟩ := hid
  obtain ⟨x, s', hcreated⟩ : ∃ x s', s.perform (.createPurchase n id) = (x, s') := ⟨_, _, rfl⟩
  refine .call hcreated (fun e _ receipt hreceipt => by cases hreceipt) fun y hy => ?_
  subst hy
  obtain rfl := reply_of_createPurchase hs hcreated
  refine .ok (alone_lift rfl) (.ok (alone_lift rfl) ?_)
  refine comes_of_alone rfl fun receipt hreceipt => ?_
  cases hreceipt
  constructor
  case recorded => exact ⟨id, hcreated, .tail _ (.tail _ (.tail _ List.mem_cons_self)), rfl⟩
  case ticket => exact .tail _ (.tail _ (.tail _ (.tail _ hk)))
  case invoice => exact hinvoice
  case issued => exact hissued.cons.cons.cons.cons
  case begun => exact congrArg _ hnone

/-- A purchase that ends well sells a ticket for a price, or one that is free. -/
theorem tryPurchase_priced (hs : s.Coherent) (setup : Setup) (event : EventId) (user : UserId)
    (address : Option String) (w : Surroundings) :
    Comes w (fun x s' h' => ∀ receipt, x = some (.ok receipt) → receipt.paymentRequired →
        ∃ n i a, n.userId = user ∧ Written address (some a) ∧
          PricedSale setup s n i a receipt s' h')
      (tryPurchase setup event user address).run s [] := by
  have hstop : ∀ (x : Option (Except PurchaseError Receipt)) (h' : List Turn), Idle [] h' →
      (∀ receipt, x ≠ some (.ok receipt)) → ∀ receipt, x = some (.ok receipt) →
      receipt.paymentRequired → ∃ n i a, n.userId = user ∧ Written address (some a) ∧
        PricedSale setup s n i a receipt s h' :=
    fun x h' _ hx receipt hreceipt => absurd hreceipt (hx receipt)
  have hlight : ∀ (h : List Turn) r, r.isLight → (fun _ r => r.isIdle : Rule) h r :=
    fun _ _ => Request.isIdle_of_isLight
  unfold tryPurchase
  rcases givenAddress_alone address w s [] with ⟨error, -, hgiven⟩ | ⟨buyer, hbuyer, hgiven⟩
  · exact .error hgiven fun receipt hreceipt => by cases hreceipt
  · refine .ok hgiven ?_
    refine .idle hs (.refl []) ((availableEvent_light event).follows hlight) hstop
      fun e h₁ hi hq₁ => ?_
    refine .idle hs hi (follows_request rfl) hstop fun k h₂ hi₂ hk => ?_
    obtain ⟨rfl, -⟩ := hk
    have hi := hi.trans hi₂
    have hq₂ : Quiet [] (⟨.freshTicket, k⟩ :: h₁) := hq₁.cons rfl
    refine .idle hs hi (follows_request rfl) hstop fun code h₃ hi₃ hcode => ?_
    obtain ⟨rfl, -⟩ := hcode
    have hi := hi.trans hi₃
    have hq₃ : Quiet [] (⟨.freshCode, code⟩ :: ⟨.freshTicket, k⟩ :: h₁) := hq₂.cons rfl
    refine .idle hs hi (light_now.follows hlight) hstop fun now h₄ hi₄ hq₄ => ?_
    have hi := hi.trans hi₄
    have hq := hq₃.trans hq₄
    have hk : ⟨.freshTicket, k⟩ ∈ h₄ := hq₄.mem (.tail _ List.mem_cons_self)
    dsimp only
    split
    · -- a free ticket does not have to be paid for
      refine .idle hs hi (follows_request rfl) hstop fun id h₅ _ _ => ?_
      refine .call rfl (fun e _ receipt hreceipt => by cases hreceipt) fun y _ => ?_
      refine comes_of_alone rfl fun receipt hreceipt hrequired => ?_
      cases hreceipt
      cases hrequired
    · refine .orThrow (fun _ receipt hreceipt => by cases hreceipt) fun a ha => ?_
      subst ha
      have hissue := purchaseInvoice_follows hlight setup k a e.price e h₄
      refine .idle hs hi hissue hstop fun i h₅ hi₅ hx => ?_
      obtain ⟨hq₅, hissued⟩ := hx
      have hnone : begun h₅ = [] := Since.begun_eq (hq.trans hq₅)
      refine (enter_priced (n := ⟨k, event, user, code, some a.toString, some i, now⟩) hs rfl
        (hi₅.mem hk) hissued hnone setup a w).mono ?_
      intro x s' h' hx receipt hreceipt _
      exact ⟨_, i, a, rfl, hbuyer, hx receipt hreceipt⟩

theorem PricedSale.count (hpriced : PricedSale setup s n i a receipt s' h) (c : Counter) :
    PricedSale setup s n i a receipt s' (⟨.count c, ()⟩ :: h) := by
  obtain ⟨id, hcreated, hid, hreceipt⟩ := hpriced.recorded
  exact ⟨⟨id, hcreated, .tail _ hid, hreceipt⟩, .tail _ hpriced.ticket, hpriced.invoice,
    hpriced.issued.cons, hpriced.begun⟩

theorem purchase_priced (hs : s.Coherent) (setup : Setup) (event : EventId) (user : UserId)
    (address : Option String) (w : Surroundings) :
    Comes w (fun x s' h' => ∀ receipt, x = some (.ok receipt) → receipt.paymentRequired →
        ∃ n i a, n.userId = user ∧ Written address (some a) ∧
          PricedSale setup s n i a receipt s' h')
      (purchase setup event user address).run s [] := by
  refine Comes.bind (tryPurchase_priced hs setup event user address w) ?_ ?_
  · intro x s' h' hx receipt hreceipt hrequired
    obtain ⟨n, i, a, huser, hbuyer, hpriced⟩ := hx receipt hreceipt hrequired
    exact ⟨n, i, a, huser, hbuyer, hpriced.count _⟩
  · exact fun s' h' _ receipt hreceipt => by cases hreceipt

/-- The records of a ticket that was sold agree with all others, and its payment is pending. -/
theorem PricedSale.pending (hs : s.Coherent) (hnew : NewNames s h)
    (hpriced : PricedSale setup s n i a receipt s' h) :
    s'.Coherent ∧ ∃ p, receipt.payment = some p ∧ s'.paymentForTicket n.ticketId = some p ∧
      p.status = .pending ∧ p.invoice = i.encoded := by
  obtain ⟨id, hcreated, hid, rfl⟩ := hpriced.recorded
  have hout := Store.perform_outcome hs (.createPurchase n id)
  rw [hcreated] at hout
  have hs' := hout.coherent hs (hnew.unused hpriced.ticket hid)
  refine ⟨hs', ?_⟩
  cases hout with
  | kept hwrites => cases hwrites
  | created =>
    have hpayment : n.payment id = some ⟨id, n.ticketId, i.encoded, i.amount, .pending, none, none,
        n.createdAt⟩ := by
      rw [NewPurchase.payment, hpriced.invoice]
      rfl
    have hfind : (s.adding n id).payments.find? id = n.payment id := by
      rw [Store.adding, hpayment]
      exact Table.find?_set_self ..
    exact ⟨_, hpayment, hs'.paymentForTicket_eq (hfind.trans hpayment), rfl, rfl⟩

end Service

/-! ### Retries -/

/-- The request sells nothing, and begins no routing with a wallet. -/
def Request.isWalletless : Request → Bool
  | .dispatch c => c.credential.isNone
  | .store (.createPurchase _ _) => false
  | _ => true

theorem Request.isWalletless_of_isLight {r : Request} (hr : r.isLight) : r.isWalletless := by
  cases r with
  | store c => cases c <;> first | rfl | cases hr
  | dispatch => cases hr
  | _ => rfl

theorem Request.isWalletless_after {r : Request} (hr : r.isWalletless) (hs : s.Coherent) :
    (r.after s).Coherent := by
  cases r with
  | store c =>
    refine (Store.perform_outcome hs c).coherent hs ?_
    cases c <;> trivial
  | _ => exact hs

/-- Nothing else is asked for when the program runs alone. -/
theorem Program.Conforms.comes_walletless {α : Type} {done : List Turn → α → Prop} {p : Program α}
    (hp : p.Conforms (fun _ r => r.isWalletless) done h) (hs : s.Coherent) (w : Surroundings) :
    Comes w (fun _ _ h' => Since (fun r => r.isWalletless) h h') p s h := by
  suffices H : ∀ h₀, Since (fun r => r.isWalletless) h₀ h →
      Comes w (fun _ _ h' => Since (fun r => r.isWalletless) h₀ h') p s h from H h (.refl h)
  intro h₀ hh
  induction p generalizing s h with
  | pure a => exact hh
  | ask r next ih =>
    exact ih _ (hp.2 _ (r.answer_fits hs)) (r.isWalletless_after hp.1 hs)
      (hh.cons (t := ⟨r, r.answer w s h⟩) hp.1)
  | abort => exact hh

namespace Service

theorem retry_walletless (setup : Setup) (payment : PaymentId) :
    Only (fun r => r.isWalletless) (retry setup payment) := by
  have hlight : ∀ (h : List Turn) r, r.isLight → (fun _ r => r.isWalletless : Rule) h r :=
    fun _ _ => Request.isWalletless_of_isLight
  have hstore : ∀ c, (Request.store c).isWalletless → Only (fun r => r.isWalletless)
      (purchaseStore c) := fun c hc => (only_store hc).within
  unfold retry
  refine (hstore _ rfl).bind fun found => (only_orThrow _ _).bind fun p => ?_
  refine (hstore _ rfl).bind fun found => (only_orThrow _ _).bind fun t => ?_
  dsimp only
  split
  · exact only_throw_bind _ _
  · refine (only_orThrow _ _).bind fun raw => ?_
    refine ((parseAddress_light raw).mono (hlight [])).bind fun buyer => ?_
    refine ((availableEvent_light _).mono (hlight [])).bind fun event => ?_
    have hissue : Only (fun r => r.isWalletless)
        (purchaseInvoice setup t.id buyer p.amount event) := fun h =>
      (purchaseInvoice_follows hlight setup t.id buyer p.amount event h).mono (fun _ _ => id)
        fun _ _ _ => trivial
    refine hissue.bind fun i => (hstore _ rfl).bind fun q => ?_
    refine Only.bind (only_request rfl) fun _ => Only.bind (only_request rfl) fun _ => ?_
    exact (hstore _ rfl).bind fun found => (only_orThrow _ _).bind fun t' => only_pure _

/-- No wallet is known to a routing that a retry begins. -/
theorem retry_begun (hs : s.Coherent) (setup : Setup) (payment : PaymentId) (w : Surroundings) :
    ∀ c ∈ begun ((retry setup payment).run.alone w s []).turns, c.credential = none := by
  have hsince : Since (fun r => r.isWalletless) []
      ((retry setup payment).run.alone w s []).turns :=
    (retry_walletless setup payment []).comes_walletless hs w
  intro c hc
  obtain ⟨⟨r, x⟩, ht, hbegins⟩ := List.mem_filterMap.1 hc
  have hr := (hsince.of_mem ht).resolve_left nofun
  cases r with
  | dispatch c' =>
    cases hbegins
    exact Option.isNone_iff_eq_none.1 hr
  | _ => cases hbegins

end Service

/-! ### Routings -/

/-- What others than the store were asked in a run, in order. -/
def Ran.asked {α : Type} (r : Ran α) : List Request := outward r.turns.reverse

/-- What is asked first when a payment that was not routed before is routed at a time. -/
def DispatchContext.firstAsked (c : DispatchContext) (now : Time.Instant) : Request :=
  match c.credential.filter (·.isUsable now) with
  | some credential => .payInvoice credential c.invoice
  | none => .discover c.buyer.domain

/-- A clock that stands still shows the same in all turns. -/
theorem Program.alone_now {α : Type} {now : Time.Instant} (hw : w.At now) (p : Program α)
    (hh : ∀ x, ⟨.now, x⟩ ∈ h → x = now) :
    ∀ x, ⟨.now, x⟩ ∈ (p.alone w s h).turns → x = now := by
  induction p generalizing s h with
  | pure a => exact hh
  | ask r next ih =>
    refine ih _ fun x hx => ?_
    rcases List.mem_cons.1 hx with hx | hx
    · cases hx
      exact hw h
    · exact hh x hx
  | abort => exact hh

/-- The provider is asked before anything is pushed there. -/
theorem Errand.Goes.outward_head {c : DispatchContext} {env : Lifecycle.Setting} {turns : List Turn}
    {report : LifecycleAction} (hgoes : (Lifecycle.pushErrand env c).Goes turns report) :
    (outward turns).head? = some (.discover c.buyer.domain) := by
  cases hgoes <;> rfl

namespace Service

open Lifecycle

variable {setup : Setup} {c : DispatchContext} {turns : List Turn}
  {steps : List (Setting × LifecycleAction)}

theorem Inner.outward_eq (hi : Inner [] h) : outward h.reverse = [] := by
  refine List.filter_eq_nil_iff.2 fun r hr => ?_
  obtain ⟨t, ht, rfl⟩ := List.mem_map.1 hr
  have hinner := (hi.of_mem (List.mem_reverse.1 ht)).resolve_left nofun
  simp [hinner]

/-- The action asks for an errand, as its lifecycle is pending and was not routed before. -/
theorem Chain.outward_head {st : Lifecycle} (hchain : Chain setup st (.dispatch c) turns steps)
    (hpending : st.paymentStatus = .pending) (hfresh : st.stage = .notStarted) :
    ∃ now, ⟨.now, now⟩ ∈ turns ∧ (outward turns).head? = some (c.firstAsked now) ∧
      (c.credential.filter (·.isUsable now) = none →
        ∀ credential invoice, .payInvoice credential invoice ∉ outward turns) := by
  obtain ⟨now, hnow, hdispatched⟩ := hchain.dispatched hpending hfresh
  refine ⟨now, List.mem_of_mem_head? hnow, ?_, hdispatched.unusable⟩
  unfold DispatchContext.firstAsked
  split
  · next credential husable => exact hdispatched.wallet credential husable
  · next hunusable =>
    cases hchain with
    | last decided =>
      simp only [reduce, hpending, hfresh, ne_eq, not_true, or_self, if_false] at decided
      split at decided <;> cases decided
    | more decided done rest =>
      cases hnow
      cases (sends_of_reduce decided).2 with
      | wallet _ husable => cases hunusable.symm.trans husable
      | push =>
        have hfirst := done.outward_head
        rw [outward_append, List.head?_append]
        exact Option.or_eq_some_iff.2 (.inl hfirst)

/-- What follows from an action that is taken until nothing is left to do. -/
theorem run_chain (setup : Setup) (st : Lifecycle) (action : LifecycleAction) :
    (run setup st action).run.Always fun turns _ =>
      ∃ steps, Chain setup st action (gist turns) steps := by
  rw [run_eq_watch (Nat.le_refl _)]
  refine Always.bind (watch_chain (Nat.le_refl _) ⟨st, false⟩ []) fun turns v hv => ?_
  obtain ⟨-, steps, -, hchain⟩ := hv
  exact ⟨steps, by rwa [List.append_nil]⟩

/-- What others are asked by a routing that runs alone: nothing if the records are missing. -/
inductive Asking (setup : Setup) (c : DispatchContext) (s : Store) : List Turn → Prop
  | nothing {h : List Turn}
      (missing : s.tickets.find? c.ticketId = none ∨ s.paymentForTicket c.ticketId = none)
      (asked : outward h.reverse = []) : Asking setup c s h
  | chain {t : Ticket} {p : Payment} {turns h : List Turn}
      {steps : List (Setting × LifecycleAction)} (payment : s.paymentForTicket c.ticketId = some p)
      (chain : Chain setup (.ofRecords t p) (.dispatch c) (gist turns) steps)
      (asked : outward h.reverse = outward (gist turns)) (taken : ∀ t ∈ turns, t ∈ h) :
      Asking setup c s h

theorem route_asking (setup : Setup) (c : DispatchContext) (w : Surroundings) (s : Store) :
    Ends w (fun _ _ h' => Asking setup c s h') (route setup c) s [] := by
  have happly : Ends w (fun _ _ h' => Asking setup c s h')
      (apply setup c.ticketId (.dispatch c)).run s [] := by
    refine apply_ends (fun hmissing _ h₁ hloaded => .nothing hmissing hloaded.inner.outward_eq) ?_
    intro t p _ hp h₁ hloaded
    refine ((run_chain setup (.ofRecords t p) (.dispatch c)).ends w s h₁).mono ?_
    rintro x s' _ _ ⟨turns, rfl, steps, hchain⟩
    refine .chain hp hchain ?_ fun t ht => List.mem_append_left _ (List.mem_reverse.2 ht)
    rw [List.reverse_append, List.reverse_reverse, outward_append, hloaded.inner.outward_eq,
      List.nil_append, outward_gist]
  obtain ⟨x, s', h', hrun, hasking⟩ := happly
  refine .seq hrun ?_
  cases x <;> exact ⟨_, _, _, rfl, hasking⟩

/-- A wallet is asked only if the routing was begun with it, and for no other invoice. -/
theorem Asking.wallet (hasking : Asking setup c s h) {credential : WalletCredential}
    {invoice : String} (hasked : .payInvoice credential invoice ∈ outward h.reverse) :
    c.credential = some credential ∧ invoice = c.invoice := by
  cases hasking with
  | nothing _ hnone =>
    rw [hnone] at hasked
    cases hasked
  | chain hp hchain hsame =>
    rw [hsame] at hasked
    rcases hchain.onPath with hnone | ⟨_, ⟨⟩, hpath⟩
    · rw [hnone] at hasked
      cases hasked
    · obtain ⟨endpoint, hpath⟩ := hpath.path
      have hmem := hpath.subset hasked
      simpa [eq_comm] using hmem

/-- A pending payment gets somebody asked, the wallet or the provider. -/
theorem Asking.head (hs : s.Coherent) (hasking : Asking setup c s h) {p : Payment}
    (hp : s.paymentForTicket c.ticketId = some p) (hpending : p.status = .pending) :
    ∃ now, ⟨.now, now⟩ ∈ h ∧ (outward h.reverse).head? = some (c.firstAsked now) ∧
      (c.credential.filter (·.isUsable now) = none →
        ∀ credential invoice, .payInvoice credential invoice ∉ outward h.reverse) := by
  cases hasking with
  | nothing hmissing =>
    obtain ⟨hfind, hk⟩ := hs.paymentForTicket_iff.1 hp
    obtain ⟨t, _, ht, -⟩ := hs.records hfind
    rw [hk] at ht
    rcases hmissing with hnone | hnone
    · cases ht.symm.trans hnone
    · cases hp.symm.trans hnone
  | chain hp' hchain hsame htaken =>
    cases hp.symm.trans hp'
    obtain ⟨now, hnow, hhead⟩ := hchain.outward_head hpending (congrArg Stage.ofStatus hpending)
    rw [hsame]
    exact ⟨now, htaken _ (List.mem_of_mem_filter hnow), hhead⟩

theorem asking_of_alone (setup : Setup) (c : DispatchContext) (w : Surroundings) (s : Store) :
    Asking setup c s ((route setup c).alone w s []).turns := by
  obtain ⟨x, s', h', hrun, hasking⟩ := route_asking setup c w s
  rwa [hrun]

/-- A pending payment that is routed when the clock shows `now`. -/
theorem route_asked (hs : s.Coherent) {p : Payment}
    (hp : s.paymentForTicket c.ticketId = some p) (hpending : p.status = .pending)
    {now : Time.Instant} (hw : w.At now) (setup : Setup) :
    ((route setup c).alone w s []).asked.head? = some (c.firstAsked now) ∧
      (c.credential.filter (·.isUsable now) = none → ∀ credential invoice,
        .payInvoice credential invoice ∉ ((route setup c).alone w s []).asked) := by
  obtain ⟨shown, hshown, hasked⟩ := (asking_of_alone setup c w s).head hs hp hpending
  cases alone_now hw _ (h := []) nofun _ hshown
  exact hasked

end Service

end BoxOffice
