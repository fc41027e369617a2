import BoxOffice.Proofs.Alone.Dispatching
import BoxOffice.Proofs.Series.Connecting

/-! Which wallet pays over the life of a box office. Buyers connect wallets, each in place of the
one before, while tickets are sold and everything else goes on. Whatever came before, a ticket that
is sold for a price is paid by the wallet that its buyer connected last, as long as this one has not
expired. Requests that were refused and those of others make no difference. -/

namespace BoxOffice

open Program

/-! ### Requests to connect a wallet -/

/-- A request to connect a wallet, and what it was answered with. -/
structure Put where
  request : Api.HttpRequest
  response : Option Api.Response

/-- The user and the wallet, if the request was accepted. -/
def Put.accepted? (p : Put) : Option (UserId × Api.WalletConnection) :=
  if p.response.any (·.status = 204) then p.request.connection? else none

/-- The wallet that a user connected last. The latest request comes first. -/
def latest? (user : UserId) (past : List Put) : Option Api.WalletConnection :=
  past.findSome? fun p => (p.accepted?.filter (·.1 = user)).map (·.2)

section Latest

variable {user user' : UserId} {p : Put} {past : List Put} {k : Api.WalletConnection}
  {r : Api.HttpRequest}

theorem Put.accepted?_of_ne {response : Api.Response} (hstatus : response.status ≠ 204) :
    (⟨r, some response⟩ : Put).accepted? = none :=
  if_neg (by simpa using hstatus)

theorem Put.accepted?_of_asks (hasks : r.connection? = some (user, k)) :
    (⟨r, some (.nothing 204)⟩ : Put).accepted? = some (user, k) :=
  (if_pos rfl).trans hasks

theorem latest?_cons_rejected (hp : p.accepted? = none) :
    latest? user (p :: past) = latest? user past := by
  simp [latest?, hp]

theorem latest?_cons_self (hp : p.accepted? = some (user, k)) :
    latest? user (p :: past) = some k := by
  simp [latest?, hp]

theorem latest?_cons_ne (hp : p.accepted? = some (user', k)) (hne : user' ≠ user) :
    latest? user (p :: past) = latest? user past := by
  simp [latest?, hp, hne]

end Latest

/-! ### Runs -/

/-- Calls one after another have led from the opening to a store, among them these requests to
connect a wallet, the latest first. Names that were made up were new. The rows may come in another
order before each call. -/
inductive Operated (setup : Setup) : List Put → Store → Prop
  | opened : Operated setup [] .empty
  | put {past : List Put} {s : Store} (h : Operated setup past s) (w : Surroundings)
      (r : Api.HttpRequest)
      (route : ∃ segment, Api.Route.ofPath? r.path = some (.wallet segment)) :
      Operated setup (⟨r, ((Api.handle setup r).alone w s []).result⟩ :: past)
        ((Api.handle setup r).alone w s []).store
  | visited {past : List Put} {s : Store} (h : Operated setup past s) (w : Surroundings) (v : Visit)
      (service : ∀ k, v ≠ .job (.putCredential k))
      (names : NewNames s ((v.program setup).alone w s []).turns) :
      Operated setup past ((v.program setup).alone w s []).store
  | looked {past : List Put} {s : Store} (h : Operated setup past s) (w : Surroundings)
      (ticket : TicketId) :
      Operated setup past ((Service.ticketStatus ticket).run.alone w s []).store
  | reordered {past : List Put} {s s' : Store} (h : Operated setup past s)
      (same : s.SameRows s') : Operated setup past s'

variable {setup : Setup} {past : List Put} {w : Surroundings} {s s' : Store} {r : Api.HttpRequest}

/-- The store keeps of each user the wallet that was connected last. -/
structure Remembers (past : List Put) (s : Store) : Prop where
  coherent : s.Coherent
  absent {user : UserId} : latest? user past = none → s.credentials.find? user = none
  stored {user : UserId} {k : Api.WalletConnection} : latest? user past = some k → k.uri ≠ "" ∧
    ∃ updatedAt, s.credentials.find? user = some ⟨user, k.uri, k.expiresAt, updatedAt⟩

namespace Remembers

/-- Neither the connections nor what was connected last are changed. -/
theorem of_kept {past' : List Put} (h : Remembers past s) (hs' : s'.Coherent)
    (hkept : ∀ user, s'.credentials.find? user = s.credentials.find? user)
    (hlast : ∀ user, latest? user past' = latest? user past) : Remembers past' s' := by
  constructor
  case coherent => exact hs'
  case absent =>
    intro user hnone
    rw [hlast] at hnone
    rw [hkept]
    exact h.absent hnone
  case stored =>
    intro user k hlatest
    rw [hlast] at hlatest
    rw [hkept]
    exact h.stored hlatest

/-- What is accepted takes the place of the user's wallet, and nothing else is changed. -/
theorem put {x : Option Api.Response} (h : Remembers past s)
    (hputting : Api.Putting r w s x s') : Remembers (⟨r, x⟩ :: past) s' := by
  cases hputting with
  | @rejected response hstatus =>
    have hrejected := Put.accepted?_of_ne (r := r) hstatus
    exact h.of_kept h.coherent (fun _ => rfl) fun _ => latest?_cons_rejected hrejected
  | @accepted user k now hasks _ hwritten _ =>
    have haccepted := Put.accepted?_of_asks hasks
    constructor
    case coherent =>
      have hput := Store.Outcome.credentialPut (s := s) ⟨user, k.uri, k.expiresAt, now⟩
      exact hput.coherent h.coherent trivial
    case absent =>
      intro user' hnone
      by_cases huser : user = user'
      · subst huser
        cases (latest?_cons_self haccepted).symm.trans hnone
      · rw [latest?_cons_ne haccepted huser] at hnone
        exact (Table.find?_set_ne _ huser _).trans (h.absent hnone)
    case stored =>
      intro user' k' hlatest
      by_cases huser : user = user'
      · subst huser
        cases (latest?_cons_self haccepted).symm.trans hlatest
        exact ⟨hwritten, now, Table.find?_set_self ..⟩
      · rw [latest?_cons_ne haccepted huser] at hlatest
        obtain ⟨hwritten', updatedAt, hstored⟩ := h.stored hlatest
        exact ⟨hwritten', updatedAt, (Table.find?_set_ne _ huser _).trans hstored⟩

end Remembers

theorem Operated.remembers (h : Operated setup past s) : Remembers past s := by
  induction h with
  | opened => exact ⟨Store.coherent_empty, fun _ => rfl, nofun⟩
  | put _ w r route ih =>
    obtain ⟨segment, hroute⟩ := route
    exact ih.put (Api.handle_putting hroute setup w _)
  | visited _ w v service names ih =>
    have hkept := Visit.credentials_eq ih.coherent service setup w
    exact ih.of_kept (Visit.entered ih.coherent setup v w names).coherent
      (fun user => congrArg (·.find? user) hkept) fun _ => rfl
  | looked _ w ticket ih =>
    obtain ⟨hkept, -⟩ := Conforms.comes ((Service.ticketStatus_light ticket).idle []) ih.coherent w
    rw [hkept]
    exact ih
  | reordered _ hsame ih =>
    exact ih.of_kept (hsame.coherent ih.coherent) (fun user => (hsame.credentials.find? user).symm)
      fun _ => rfl

/-! ### Who pays -/

/-- The payment of the ticket is pending. -/
def Store.PendingFor (s : Store) (k : TicketId) : Prop :=
  ∃ p, s.paymentForTicket k = some p ∧ p.status = .pending

/-- What is asked for a user at a time by a routing, when the user's wallet is the given one. -/
structure AsksFor (wallet? : Option Api.WalletConnection) (user : UserId) (now : Time.Instant)
    (c : DispatchContext) (asked : List Request) : Prop where
  /-- A wallet is asked as long as the user's has not expired. -/
  wallet : (∃ credential invoice, .payInvoice credential invoice ∈ asked) ↔
    ∃ k, wallet? = some k ∧ ∀ t, k.expiresAt = some t → now < t
  connected {credential : WalletCredential} {invoice : String} :
    .payInvoice credential invoice ∈ asked → credential.userId = user ∧ invoice = c.invoice ∧
      (∃ k, wallet? = some k ∧ credential.connectionUri = k.uri ∧
        credential.expiresAt = k.expiresAt) ∧
      asked.head? = some (.payInvoice credential invoice)
  provider : (∀ credential invoice, .payInvoice credential invoice ∉ asked) →
    asked.head? = some (.discover c.buyer.domain)

/-- The routing that a sale begins, when the user's wallet is the given one. -/
structure Begins (setup : Setup) (wallet? : Option Api.WalletConnection) (user : UserId)
    (address : Option String) (receipt : Receipt) (sale : Ran (Except PurchaseError Receipt))
    (c : DispatchContext) : Prop where
  once : begun sale.turns = [c]
  ticket : c.ticketId = receipt.ticket.id
  buyer : ∃ raw, address = some raw ∧ Address.parse raw = .ok c.buyer
  invoice : ∃ i, receipt.invoice = some i ∧ i.encoded = c.invoice ∧ Issued c.invoice sale.turns
  coherent : sale.store.Coherent
  pending : sale.store.PendingFor c.ticketId
  asks {s' : Store} {w : Surroundings} {now : Time.Instant} : s'.Coherent →
    s'.PendingFor c.ticketId → w.At now →
    AsksFor wallet? user now c ((Service.route setup c).alone w s' []).asked

/-- What a request to connect a wallet comes to, when the clock shows `now`. -/
structure Connects (s : Store) (now : Time.Instant) (p : Put) (s' : Store) : Prop where
  rejected : ¬ p.response.any (·.status = 204) → p.accepted? = none ∧ s' = s
  accepted : p.response.any (·.status = 204) → ∃ user k credential,
    p.accepted? = some (user, k) ∧ s'.credentials.find? user = some credential ∧
      credential.connectionUri = k.uri ∧ credential.expiresAt = k.expiresAt ∧
      credential.isUsable now
  others {user : UserId} : p.accepted?.map (·.1) ≠ some user →
    s'.credentials.find? user = s.credentials.find? user

/-- What happens next at a box office with a past. -/
structure LatestPays (setup : Setup) (past : List Put) (s : Store) : Prop where
  sold (w : Surroundings) (event : EventId) (user : UserId) (address : Option String)
    (receipt : Receipt) :
    let sale := (Service.purchase setup event user address).run.alone w s []
    sale.result = some (.ok receipt) → receipt.paymentRequired → NewNames s sale.turns →
      ∃ c, Begins setup (latest? user past) user address receipt sale c
  connected {w : Surroundings} {now : Time.Instant} (hw : w.At now) {r : Api.HttpRequest}
    {segment : List Char} (route : Api.Route.ofPath? r.path = some (.wallet segment)) :
    let run := (Api.handle setup r).alone w s []
    Connects s now ⟨r, run.result⟩ run.store
  retried (w : Surroundings) (payment : PaymentId) :
    ∀ c ∈ begun ((Service.retry setup payment).run.alone w s []).turns,
      ∀ (w' : Surroundings) (s' : Store) (credential : WalletCredential) (invoice : String),
        .payInvoice credential invoice ∉ ((Service.route setup c).alone w' s' []).asked

theorem WalletCredential.isUsable_iff {credential : WalletCredential} {now : Time.Instant}
    (hwritten : credential.connectionUri ≠ "") :
    credential.isUsable now ↔ ∀ t, credential.expiresAt = some t → now < t := by
  have hnonempty : credential.connectionUri.isEmpty = false := by simpa using hwritten
  rw [WalletCredential.isUsable, hnonempty, Bool.not_false, Bool.true_and]
  cases credential.expiresAt <;> simp

section Asks

variable {wallet? : Option Api.WalletConnection} {user : UserId} {now : Time.Instant}
  {c : DispatchContext} {asked : List Request} {k : Api.WalletConnection}

theorem AsksFor.of_unusable
    (hnone : ¬ ∃ k, wallet? = some k ∧ ∀ t, k.expiresAt = some t → now < t)
    (hhead : asked.head? = some (.discover c.buyer.domain))
    (hunpaid : ∀ credential invoice, .payInvoice credential invoice ∉ asked) :
    AsksFor wallet? user now c asked := by
  constructor
  case wallet =>
    refine ⟨?_, fun husable => absurd husable hnone⟩
    rintro ⟨credential, invoice, hm⟩
    exact absurd hm (hunpaid credential invoice)
  case connected => exact fun hm => absurd hm (hunpaid _ _)
  case provider => exact fun _ => hhead

theorem AsksFor.of_usable {updatedAt : Time.Instant}
    (hlasting : ∀ t, k.expiresAt = some t → now < t)
    (hhead : asked.head? =
      some (.payInvoice ⟨user, k.uri, k.expiresAt, updatedAt⟩ c.invoice))
    (honly : ∀ credential invoice, .payInvoice credential invoice ∈ asked →
      ⟨user, k.uri, k.expiresAt, updatedAt⟩ = credential ∧ invoice = c.invoice) :
    AsksFor (some k) user now c asked := by
  have hm := List.mem_of_mem_head? hhead
  constructor
  case wallet => exact ⟨fun _ => ⟨k, rfl, hlasting⟩, fun _ => ⟨_, _, hm⟩⟩
  case connected =>
    intro credential invoice hasked
    obtain ⟨rfl, rfl⟩ := honly credential invoice hasked
    exact ⟨rfl, rfl, ⟨k, rfl, rfl, rfl⟩, hhead⟩
  case provider => exact fun hunpaid => absurd hm (hunpaid _ _)

/-- A routing that was begun with the wallet that is remembered of a user. -/
theorem Remembers.asks (h : Remembers past s) (hc : c.credential = s.credentials.find? user)
    (hs' : s'.Coherent) (hpending : s'.PendingFor c.ticketId) (hw : w.At now) (setup : Setup) :
    AsksFor (latest? user past) user now c ((Service.route setup c).alone w s' []).asked := by
  obtain ⟨p, hp, hpending⟩ := hpending
  obtain ⟨hhead, hunpaid⟩ := Service.route_asked hs' hp hpending hw setup
  unfold DispatchContext.firstAsked at hhead
  cases hlatest : latest? user past with
  | none =>
    have hnone : c.credential.filter (·.isUsable now) = none := by
      rw [hc, h.absent hlatest]
      rfl
    rw [hnone] at hhead
    exact .of_unusable nofun hhead (hunpaid hnone)
  | some k =>
    obtain ⟨hwritten, updatedAt, hstored⟩ := h.stored hlatest
    have husable : (⟨user, k.uri, k.expiresAt, updatedAt⟩ : WalletCredential).isUsable now ↔
        ∀ t, k.expiresAt = some t → now < t := WalletCredential.isUsable_iff hwritten
    rw [hstored] at hc
    by_cases hlasting : ∀ t, k.expiresAt = some t → now < t
    · have hsome : c.credential.filter (·.isUsable now) =
          some ⟨user, k.uri, k.expiresAt, updatedAt⟩ := by
        rw [hc]
        exact Option.filter_eq_some_iff.2 ⟨rfl, husable.2 hlasting⟩
      rw [hsome] at hhead
      refine .of_usable hlasting hhead fun credential invoice hasked => ?_
      obtain ⟨hown, hinvoice⟩ := (Service.asking_of_alone setup c w s').wallet hasked
      exact ⟨Option.some.inj (hc.symm.trans hown), hinvoice⟩
    · have hnone : c.credential.filter (·.isUsable now) = none := by
        rw [hc]
        refine Option.filter_eq_none_iff.2 ?_
        rintro _ ⟨⟩
        exact mt husable.1 hlasting
      rw [hnone] at hhead
      refine .of_unusable ?_ hhead (hunpaid hnone)
      rintro ⟨_, ⟨⟩, hlasting'⟩
      exact hlasting hlasting'

end Asks

/-- The routing of a ticket that was just sold was begun with the buyer's wallet. -/
theorem Service.PricedSale.begins {n : NewPurchase} {i : Invoice} {a : Address}
    {receipt : Receipt} {sale : Ran (Except PurchaseError Receipt)} {address : Option String}
    (hremembers : Remembers past s) (hbuyer : Service.Written address (some a))
    (hpriced : PricedSale setup s n i a receipt sale.store sale.turns)
    (hnew : NewNames s sale.turns) :
    ∃ c, Begins setup (latest? n.userId past) n.userId address receipt sale c := by
  obtain ⟨hs', p, -, hp, hpending, -⟩ := hpriced.pending hremembers.coherent hnew
  obtain ⟨id, hcreated, -, rfl⟩ := hpriced.recorded
  have hkept : sale.store.credentials = s.credentials :=
    Store.credentials_of_perform hremembers.coherent hcreated fun _ => nofun
  refine ⟨_, hpriced.begun, rfl, ?_, ⟨i, rfl, rfl, hpriced.issued⟩, hs', ⟨p, hp, hpending⟩, ?_⟩
  · cases hbuyer with
    | some hreads => exact ⟨_, rfl, hreads⟩
  · intro s₁ w now hs₁ hpending₁ hw
    exact hremembers.asks (congrArg (·.find? n.userId) hkept) hs₁ hpending₁ hw setup

theorem Api.Putting.connects {x : Option Api.Response} {now : Time.Instant} (hw : w.At now)
    (hputting : Api.Putting r w s x s') : Connects s now ⟨r, x⟩ s' := by
  cases hputting with
  | @rejected response hstatus =>
    have hrejected := Put.accepted?_of_ne (r := r) hstatus
    constructor
    case rejected => exact fun _ => ⟨hrejected, rfl⟩
    case accepted => exact fun haccepted => absurd (of_decide_eq_true haccepted) hstatus
    case others => exact fun _ => rfl
  | @accepted user k _ hasks hclock hwritten hlasting =>
    obtain rfl := hclock.symm.trans (hw [])
    have haccepted := Put.accepted?_of_asks hasks
    constructor
    case rejected => exact fun hrejected => absurd rfl hrejected
    case accepted =>
      intro _
      refine ⟨user, k, _, haccepted, Table.find?_set_self .., rfl, rfl, ?_⟩
      exact (WalletCredential.isUsable_iff hwritten).2 hlasting
    case others =>
      intro user' hne
      refine Table.find?_set_ne _ (fun huser => hne ?_) _
      rw [haccepted, huser]
      rfl

/-- Whatever calls came one after another: when a ticket is sold for a price and its payment is
routed while it is pending, the wallet that the buyer connected last is asked to pay the invoice
just issued, as long as it has not expired, and else the provider is asked at once. A wallet whose
connection is accepted may be asked at that time; a request that is refused changes nothing, one of
another user nothing of the buyer's. What a retry begins asks no wallet, at any time. -/
theorem Operated.latest_pays (h : Operated setup past s) : LatestPays setup past s := by
  have hremembers := h.remembers
  constructor
  case sold =>
    intro w event user address receipt sale hresult hrequired hnew
    obtain ⟨n, i, a, rfl, hbuyer, hpriced⟩ := Service.purchase_priced hremembers.coherent setup
      event user address w receipt hresult hrequired
    exact hpriced.begins hremembers hbuyer hnew
  case connected =>
    intro w now hw r segment route
    exact (Api.handle_putting route setup w s).connects hw
  case retried =>
    intro w payment c hc w' s' credential invoice hasked
    have hnone := Service.retry_begun hremembers.coherent setup payment w c hc
    obtain ⟨hsome, -⟩ := (Service.asking_of_alone setup c w' s').wallet hasked
    cases hnone.symm.trans hsome

/-- A buyer connects a wallet that will expire and is refused one that has expired, and somebody
else connects one. Then a ticket is sold to the buyer. -/
theorem latest_pays_reconnected :
    let connection (user body : String) : Api.HttpRequest :=
      ⟨"PUT", "/api/users/00000000-0000-0000-0000-00000000000" ++ user ++ "/wallet",
        [("content-type", "application/json")], Text.encodeUtf8 ("\x7b" ++ body ++ "\x7d")⟩
    let w : Surroundings := fun _ => Office.Outside.answer { invoice := "i" }
    let connected (o : List Put × Store) (r : Api.HttpRequest) : List Put × Store :=
      (⟨r, ((Api.handle Office.sampleSetup r).alone w o.2 []).result⟩ :: o.1,
        ((Api.handle Office.sampleSetup r).alone w o.2 []).store)
    let opened := ([], (((Visit.job (.putEvent Office.sampleEvent)).program
      Office.sampleSetup).alone w .empty []).store)
    let o := connected (connected (connected opened
      (connection "0" "\"connection_uri\":\"a\",\"expires_at\":\"1970-01-02T00:00:00Z\""))
      (connection "0" "\"connection_uri\":\"b\",\"expires_at\":\"1970-01-01T00:00:00Z\""))
      (connection "1" "\"connection_uri\":\"c\"")
    Operated Office.sampleSetup o.1 o.2 ∧ (latest? default o.1).map (·.uri) = some "a" ∧
      LatestPays Office.sampleSetup o.1 o.2 ∧
      ∃ receipt c, Begins Office.sampleSetup (latest? default o.1) default (some "$a@b") receipt
        ((Service.purchase Office.sampleSetup Office.sampleEvent.id default
          (some "$a@b")).run.alone w o.2 []) c := by
  intro connection w connected opened o
  have hopened : Operated Office.sampleSetup opened.1 opened.2 :=
    Operated.opened.visited w _ (fun _ => nofun) (by decide +kernel)
  have hput : ∀ o r segment, Operated Office.sampleSetup o.1 o.2 →
      Api.Route.ofPath? r.path = some (.wallet segment) →
      Operated Office.sampleSetup (connected o r).1 (connected o r).2 :=
    fun _ r segment ho hroute => ho.put w r ⟨segment, hroute⟩
  have hconnected : Operated Office.sampleSetup o.1 o.2 := by
    refine hput _ _ "00000000-0000-0000-0000-000000000001".toList ?_ (by decide +kernel)
    refine hput _ _ "00000000-0000-0000-0000-000000000000".toList ?_ (by decide +kernel)
    exact hput _ _ "00000000-0000-0000-0000-000000000000".toList hopened (by decide +kernel)
  have hpays := hconnected.latest_pays
  have hsale := hpays.sold w Office.sampleEvent.id default (some "$a@b")
  obtain ⟨hlatest, hnew, hsold⟩ : (latest? default o.1).map (·.uri) = some "a" ∧
      NewNames o.2 ((Service.purchase Office.sampleSetup Office.sampleEvent.id default
        (some "$a@b")).run.alone w o.2 []).turns ∧
      ((Service.purchase Office.sampleSetup Office.sampleEvent.id default
        (some "$a@b")).run.alone w o.2 []).result.any fun x =>
          x.toOption.any (·.paymentRequired) := by
    decide +kernel
  obtain ⟨x, hresult, hx⟩ := Option.any_eq_true .. |>.1 hsold
  obtain ⟨receipt, hreceipt, hrequired⟩ := Option.any_eq_true .. |>.1 hx
  cases x with
  | error e => cases hreceipt
  | ok _ =>
    cases hreceipt
    obtain ⟨c, hbegins⟩ := hsale receipt hresult hrequired hnew
    exact ⟨hconnected, hlatest, hpays, receipt, c, hbegins⟩

end BoxOffice
