import BoxOffice.Proofs.Address
import BoxOffice.Proofs.Office.Basic
import BoxOffice.Proofs.Service.Conduct
import BoxOffice.Proofs.Store.Census
import BoxOffice.Proofs.Store.Invoices

/-! What is sold for a price. A purchase and a retry put an invoice into the store for an amount
that is not zero only, and a purchase only for a buyer whose address is in its canonical form. So
where nobody else puts invoices into the store, whatever else is asked of it, each payment is for
such an amount, and its ticket has such a buyer. -/

namespace BoxOffice

open Program

/-- There is an address, in its canonical form. -/
def Canonical (address : Option String) : Prop :=
  ∃ a : Address, address = some a.toString ∧ Address.parse a.toString = .ok a

/-- An invoice that the call is to put into the store is for an amount that is not zero, and a new
ticket that it is for has a buyer to push it to. -/
def Store.Call.Sells : Store.Call → Prop
  | .createPurchase n _ => ∀ i, n.invoice = some i →
      i.amount.isZero = false ∧ Canonical n.buyerAddress
  | .reissue _ i => i.amount.isZero = false
  | _ => True

def Request.Sells : Request → Prop
  | .store c => c.Sells
  | _ => True

theorem Request.sells_of_isLight {r : Request} (hr : r.isLight) : r.Sells := by
  cases r with
  | store c => cases c <;> trivial
  | _ => trivial

namespace Program

variable {α ε : Type}

/-- Answers that fit lead the program to the request. -/
inductive LeadsTo : Program α → Request → Prop
  | now (r : Request) (next : r.Answer → Program α) : LeadsTo (.ask r next) r
  | later {r r' : Request} {next : r.Answer → Program α} {x : r.Answer} (fits : r.Fits x)
      (leads : LeadsTo (next x) r') : LeadsTo (.ask r next) r'

theorem LeadsTo.of_conforms {p : Program α} {r : Request} (hleads : p.LeadsTo r)
    {kind : Request → Prop} {done : List Turn → α → Prop} {h : List Turn}
    (hp : Conforms (fun _ r => kind r) done p h) : kind r := by
  induction hleads generalizing h with
  | now => exact hp.1
  | later hfits _ ih => exact ih (hp.2 _ hfits)

/-- As `Follows`, for requests that each sell as they should. -/
abbrev Sells (done : α → Prop) (p : ExceptT ε Program α) (h : List Turn) : Prop :=
  Follows (fun _ r => r.Sells) (fun _ => done) p h

theorem Only.sells {p : ExceptT ε Program α} (hp : Light p) (h : List Turn) :
    Sells (fun _ => True) p h :=
  (hp.mono fun _ => Request.sells_of_isLight).follows

theorem sells_orThrow (e : ε) (o : Option α) (h : List Turn) :
    Sells (fun a => o = some a) (orThrow e o) h :=
  (follows_orThrow e o).mono (fun _ _ => id) fun _ _ hx a ha => (hx a ha).2

/-- A request of which the answer does not matter. -/
theorem sells_request {r : Request} (hr : r.Sells) (h : List Turn) :
    Sells (fun _ => True) (liftM (request r) : ExceptT ε Program r.Answer) h :=
  (follows_request hr).mono (fun _ _ => id) fun _ _ _ _ _ => trivial

end Program

namespace Service

/-! ### Purchases and retries -/

theorem parseAddress_sells (raw : String) (h : List Turn) :
    Sells (fun a => Address.parse a.toString = .ok a) (parseAddress raw) h := by
  unfold parseAddress
  cases hraw : Address.parse raw with
  | error e => exact follows_throw _
  | ok a => exact follows_pure (Address.parse_toString hraw)

theorem givenAddress_sells (address : Option String) (h : List Turn) :
    Sells (fun buyer => ∀ a, buyer = some a → Address.parse a.toString = .ok a)
      (givenAddress address) h := by
  cases address with
  | none => exact follows_pure nofun
  | some raw =>
    refine (parseAddress_sells raw h).bind fun _ a ha => follows_pure ?_
    rintro _ ⟨⟩
    exact ha

theorem purchaseStore_sells {c : Store.Call} (hc : c.Sells) (h : List Turn) :
    Sells (fun _ => True) (purchaseStore c) h := by
  have hstore : Sells (fun _ => True) (Program.store c) h :=
    (follows_store hc).mono (fun _ _ => id) fun _ _ _ _ _ => trivial
  exact hstore.within

/-- An invoice is not issued for nothing. -/
theorem issue_sells (setup : Setup) (k : TicketId) (buyer : String) (amount : Sats)
    (description : String) (h : List Turn) :
    Sells (fun i => i.amount.isZero = false) (issue setup k buyer amount description) h := by
  unfold issue
  dsimp only
  split
  · exact (follows_throw _).bind fun _ _ => False.elim
  · split
    · exact (follows_throw _).bind fun _ _ => False.elim
    · next hamount =>
      have hcreate : Sells (fun _ => True) (ExceptT.mk (Program.request
          (.createInvoice ⟨amount, description, setup.invoiceExpirySecs⟩))) h :=
        ⟨trivial, fun _ _ _ _ => trivial⟩
      refine hcreate.within.bind fun h₁ issued _ => ?_
      refine (Only.sells (invoiceExpiry_light setup _) h₁).bind fun h₂ _ _ => ?_
      exact follows_pure (Bool.eq_false_iff.2 hamount)

theorem purchase_sells (setup : Setup) (event : EventId) (user : UserId) (address : Option String)
    (h : List Turn) :
    Conforms (fun _ r => r.Sells) (fun _ _ => True) (purchase setup event user address).run h := by
  have htry : Sells (fun _ => True) (tryPurchase setup event user address) h := by
    unfold tryPurchase
    refine (givenAddress_sells address h).bind fun h₁ buyer hbuyer => ?_
    refine (Only.sells (availableEvent_light event) h₁).bind fun h₂ event _ => ?_
    refine (sells_request (by trivial) h₂).bind fun h₃ k _ => ?_
    refine (sells_request (by trivial) h₃).bind fun h₄ code _ => ?_
    refine (Only.sells light_now h₄).bind fun h₅ createdAt _ => ?_
    dsimp only
    split
    · refine (sells_request (by trivial) h₅).bind fun h₆ id _ => ?_
      refine (purchaseStore_sells (c := .createPurchase ⟨k, _, _, _, _, none, _⟩ id) nofun h₆).bind
        fun _ _ _ => follows_pure trivial
    · refine (sells_orThrow _ _ h₅).bind fun h₆ a ha => ?_
      subst ha
      refine ((issue_sells setup _ _ _ _ h₆).within).bind fun h₇ invoice hamount => ?_
      refine (sells_request (by trivial) h₇).bind fun h₈ id _ => ?_
      refine (purchaseStore_sells ?_ h₈).bind fun h₉ _ _ => ?_
      · rintro _ ⟨⟩
        exact ⟨hamount, a, rfl, hbuyer a rfl⟩
      refine (sells_request (by trivial) h₉).bind fun h₁₀ credential _ => ?_
      exact (sells_request (by trivial) h₁₀).bind fun _ _ _ => follows_pure trivial
  exact Conforms.bind htry fun h' x _ => ⟨trivial, fun _ _ => trivial⟩

theorem retry_sells (setup : Setup) (id : PaymentId) (h : List Turn) :
    Conforms (fun _ r => r.Sells) (fun _ _ => True) (retry setup id).run h := by
  have hretry : Sells (fun _ => True) (retry setup id) h := by
    unfold retry
    refine (purchaseStore_sells (by trivial) h).bind fun h₁ found _ => ?_
    refine (sells_orThrow _ _ h₁).bind fun h₂ p _ => ?_
    refine (purchaseStore_sells (by trivial) h₂).bind fun h₃ found _ => ?_
    refine (sells_orThrow _ _ h₃).bind fun h₄ t _ => ?_
    dsimp only
    split
    · exact (follows_throw _).bind fun _ _ => False.elim
    · refine (sells_orThrow _ _ h₄).bind fun h₅ raw _ => ?_
      refine (parseAddress_sells raw h₅).bind fun h₆ buyer _ => ?_
      refine (Only.sells (availableEvent_light _) h₆).bind fun h₇ event _ => ?_
      refine ((issue_sells setup _ _ _ _ h₇).within).bind fun h₈ invoice hamount => ?_
      refine (purchaseStore_sells (c := .reissue id invoice) hamount h₈).bind fun h₉ p _ => ?_
      refine (sells_request (by trivial) h₉).bind fun h₁₀ _ _ => ?_
      refine (sells_request (by trivial) h₁₀).bind fun h₁₁ _ _ => ?_
      refine (purchaseStore_sells (by trivial) h₁₁).bind fun h₁₂ found _ => ?_
      exact (sells_orThrow _ _ h₁₂).bind fun _ _ _ => follows_pure trivial
  exact Conforms.mono hretry (fun _ _ hr => hr) fun _ _ _ => trivial

end Service

namespace Store

variable {s s' : Store}

/-- If the call is to put an invoice into the store, a purchase or a retry may come to make it. -/
def Call.Sold (c : Call) : Prop :=
  c.invoice? = none ∨ ∃ setup : Setup,
    (∃ event user address, (Service.purchase setup event user address).run.LeadsTo (.store c)) ∨
    ∃ id, (Service.retry setup id).run.LeadsTo (.store c)

theorem Call.Sold.sells {c : Call} (hc : c.Sold) : c.Sells := by
  rcases hc with hnone | ⟨setup, ⟨event, user, address, hleads⟩ | ⟨id, hleads⟩⟩
  · cases c with
    | createPurchase n id =>
      intro i hi
      cases hi.symm.trans hnone
    | reissue => cases hnone
    | _ => trivial
  · exact hleads.of_conforms (Service.purchase_sells setup event user address [])
  · exact hleads.of_conforms (Service.retry_sells setup id [])

/-! ### What was bought -/

/-- Each payment is for an amount that is not zero, and each ticket that is not free has a buyer. -/
structure Bought (s : Store) : Prop where
  amount {id : PaymentId} {p : Payment} :
    s.payments.find? id = some p → p.amount.isZero = false
  buyer {k : TicketId} {t : Ticket} :
    s.tickets.find? k = some t → t.status ≠ .free → Canonical t.buyerAddress

theorem bought_empty : Bought .empty := by
  constructor <;> simp [empty]

theorem SameRows.bought (h : s.SameRows s') (hb : s.Bought) : s'.Bought :=
  ⟨fun hp => hb.amount ((h.payments.find? _).trans hp),
    fun ht => hb.buyer ((h.tickets.find? _).trans ht)⟩

/-- The records of a payment may be replaced by others for such an amount, of the same buyer. -/
theorem Bought.update (hb : s.Bought) (p' : Payment) {p : Payment} {t t' : Ticket}
    (hamount : p'.amount.isZero = false) (ht : s.tickets.find? p.ticketId = some t)
    (hpriced : t.status ≠ .free) (hbuyer : t'.buyerAddress = t.buyerAddress) (i : Invoice) :
    (s.update p' t' i).Bought := by
  constructor
  · intro id q hq
    exact Table.forall_set hamount (fun _ hq => hb.amount hq) hq
  · intro k u hu
    exact Table.forall_set (fun _ => hbuyer ▸ hb.buyer ht hpriced) (fun _ hu => hb.buyer hu) hu

theorem Bought.adding (hb : s.Bought) {n : NewPurchase} {id : PaymentId}
    (hn : (Call.createPurchase n id).Sells) : (s.adding n id).Bought := by
  cases hi : n.invoice with
  | none =>
    simp only [Store.adding, NewPurchase.payment, hi, Option.map_none]
    refine ⟨hb.amount, fun {k u} hu => ?_⟩
    refine Table.forall_set (fun hpriced => absurd ?_ hpriced) (fun _ hu => hb.buyer hu) hu
    simp [NewPurchase.ticket, hi]
  | some i =>
    obtain ⟨hamount, hbuyer⟩ := hn i hi
    simp only [Store.adding, NewPurchase.payment, hi, Option.map_some]
    constructor
    · intro j q hq
      exact Table.forall_set hamount (fun _ hq => hb.amount hq) hq
    · intro k u hu
      exact Table.forall_set (fun _ => hbuyer) (fun _ hu => hb.buyer hu) hu

theorem Agree.ne_free {p : Payment} {t : Ticket} {i : Invoice} (h : Agree p t i) :
    t.status ≠ .free :=
  h.status ▸ p.status.ticketStatus_ne_free

theorem Outcome.bought {c : Call} {x : Except StoreError c.Reply} (h : Outcome s c x s')
    (hs : s.Coherent) (hc : c.Sells) (hb : s.Bought) : s'.Bought := by
  cases h with
  | kept => exact hb
  | eventPut => exact ⟨hb.amount, hb.buyer⟩
  | credentialPut => exact ⟨hb.amount, hb.buyer⟩
  | created => exact hb.adding hc
  | @applied _ tr p _ _ hp hk ht _ ha =>
    subst hk
    have hamount : p.amount.isZero = false := hb.amount hp
    exact hb.update (moved p tr) hamount ht ha.ne_free (by rfl) _
  | @reissued p t _ i hp _ ht =>
    obtain ⟨_, _, ht', _, ha⟩ := hs.records hp
    cases ht.symm.trans ht'
    exact hb.update (renewed p i) hc ht ha.ne_free (by rfl) _
  | @recorded p _ _ url hp ht _ ha =>
    have hamount : p.amount.isZero = false := hb.amount hp
    exact hb.update { p with counterpartyCallback := some url } hamount ht ha.ne_free rfl _

/-- As `Reachable`, where purchases and retries alone put invoices into the store. -/
inductive SoldReachable : Store → Prop
  | empty : SoldReachable .empty
  | call {s : Store} (h : SoldReachable s) (c : Call) (fresh : c.Fresh s) (sold : c.Sold) :
      SoldReachable (s.perform c).2
  | reordered {s s' : Store} (h : SoldReachable s) (same : s.SameRows s') : SoldReachable s'

theorem SoldReachable.reachable (h : s.SoldReachable) : s.Reachable := by
  induction h with
  | empty => exact .empty
  | call _ c fresh _ ih => exact ih.call c fresh
  | reordered _ same ih => exact ih.reordered same

theorem SoldReachable.bought (h : s.SoldReachable) : s.Bought := by
  induction h with
  | empty => exact bought_empty
  | call h c _ hsold ih =>
    exact (perform_outcome h.reachable.coherent c).bought h.reachable.coherent hsold.sells ih
  | reordered _ same ih => exact same.bought ih

/-! ### A sale to look at -/

/-- The purchase of a ticket for the sample event. -/
def boughtCall : Call :=
  .createPurchase ⟨⟨⟨2⟩⟩, Office.sampleEvent.id, default, ⟨"C"⟩, some "$a@b",
    some ⟨"", ⟨⟨2⟩⟩, "", "x", ⟨5⟩, default, "$a@b", "Ticket: "⟩, default⟩ ⟨⟨3⟩⟩

theorem boughtCall_sold : boughtCall.Sold := by
  refine .inr ⟨Office.sampleSetup, .inl ⟨Office.sampleEvent.id, default, some "$a@b", ?_⟩⟩
  have put := Reachable.empty.call (.putEvent Office.sampleEvent) trivial
  refine .later (x := .ok (some Office.sampleEvent)) ⟨_, put.coherent, rfl⟩ ?_
  refine .later (x := .ok (0 : UInt32)) ⟨_, put.coherent, rfl⟩ ?_
  refine .later (x := (⟨⟨2⟩⟩ : TicketId)) trivial ?_
  refine .later (x := (⟨"C"⟩ : TicketCode)) trivial ?_
  refine .later (x := (default : Time.Instant)) trivial ?_
  refine .later (x := .ok ⟨"", "", "x", 0, some default⟩) trivial ?_
  refine .later (x := (⟨⟨3⟩⟩ : PaymentId)) trivial ?_
  exact .now _ _

/-- The ticket is bought, and its payment fails. -/
def failedSale : Store :=
  let s := (empty.perform (.putEvent Office.sampleEvent)).2
  let s := (s.perform boughtCall).2
  (s.perform (.applyTransition ⟨⟨2⟩⟩ ⟨.pending, .failed, default⟩)).2

theorem failedSale_soldReachable : failedSale.SoldReachable := by
  have put := SoldReachable.empty.call (.putEvent Office.sampleEvent) trivial (.inl rfl)
  have bought := put.call boughtCall ⟨rfl, fun _ => rfl⟩ boughtCall_sold
  exact bought.call _ trivial (.inl rfl)

end Store

end BoxOffice
