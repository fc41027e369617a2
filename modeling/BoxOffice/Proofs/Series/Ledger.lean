import BoxOffice.Proofs.Alone.Booking

/-! A box office from its opening on: calls from outside come one after another, and each runs alone
until it ends. What anybody but the store answers is open, and may be another thing each time; so is
the order in which the rows of the store stand. The counters tell how many payments are pending and
how many paid, how many tickets are free, and how many notifications have come. -/

namespace BoxOffice

open Program

/-- A call from outside. -/
inductive Visit where
  | job (job : Job)
  /-- The invoice of an amount is pulled. -/
  | pull (amountMsats : Option UInt64)

namespace Visit

def Result : Visit → Type
  | job j => j.Result
  | pull _ => Except Protocol.ErrorEnvelope Protocol.PayResponse

def program (setup : Setup) : (v : Visit) → Program v.Result
  | job j => j.program setup
  | pull amountMsats => (Service.payByAmount amountMsats).run

/-- The number of notifications in the call. -/
def notices : Visit → Nat
  | job (.notification _ _) => 1
  | _ => 0

/-- Whatever the call is, its entries agree with what it did to the store. -/
theorem entered {s : Store} (hs : s.Coherent) (setup : Setup) (v : Visit) (w : Surroundings) :
    Comes w (fun _ s' h => NewNames s h → Entered v.notices s s' h) (v.program setup) s [] := by
  cases v with
  | pull amountMsats =>
    exact (Service.idle_entered hs (Service.payByAmount_light amountMsats).idle w).mono
      fun _ _ _ hx _ => hx
  | job job =>
    cases job with
    | purchase event user address =>
      exact Service.purchase_entered hs setup event user address w
    | retry payment => exact (Service.retry_entered hs setup payment w).mono fun _ _ _ hx _ => hx
    | route c => exact (Service.route_entered hs setup c w).mono fun _ _ _ hx _ => hx
    | sweep => exact (Service.sweep_entered hs setup w).mono fun _ _ _ hx _ => hx
    | notification body signature =>
      exact (Service.notification_entered hs setup body signature w).mono fun _ _ _ hx _ => hx
    | payRequest ticket body =>
      exact (Service.payRequest_entered hs setup ticket body w).mono fun _ _ _ hx _ => hx
    | putEvent event => exact fun _ => .of_call hs rfl rfl trivial trivial rfl
    | putCredential credential => exact fun _ => .of_call hs rfl rfl trivial trivial rfl

end Visit

/-! ### The life of a box office -/

structure Ledger where
  store : Store
  /-- The turns of all the calls, latest first. -/
  turns : List Turn
  /-- How many notifications have come. -/
  notices : Nat

namespace Ledger

variable {setup : Setup} {l : Ledger}

def empty : Ledger := ⟨.empty, [], 0⟩

/-- A counter starts at zero, and goes up by one each time that it is counted. -/
def count (l : Ledger) (c : Counter) : Nat := (counters l.turns).count c

/-- The run of the next call. -/
def next (setup : Setup) (l : Ledger) (w : Surroundings) (v : Visit) : Ran v.Result :=
  (v.program setup).alone w l.store []

/-- The box office after the next call. -/
def visited (setup : Setup) (l : Ledger) (w : Surroundings) (v : Visit) : Ledger :=
  ⟨(l.next setup w v).store, (l.next setup w v).turns ++ l.turns, v.notices + l.notices⟩

/-- The box office when the rows have come to stand in another order. -/
def reordered (l : Ledger) (order : Store) : Ledger := { l with store := l.store.reordered order }

/-- Calls have led here from the opening. Names that were made up were new. -/
inductive Kept (setup : Setup) : Ledger → Prop
  | opened : Kept setup .empty
  | visited {l : Ledger} (h : Kept setup l) (w : Surroundings) (v : Visit)
      (names : NewNames l.store (l.next setup w v).turns) : Kept setup (l.visited setup w v)
  | reordered {l : Ledger} (h : Kept setup l) (order : Store) : Kept setup (l.reordered order)

/-- The counters agree with the store. An invoice that is put in again is counted by the status that
results, which is pending; the label of this counter is `retried`. -/
structure Balanced (l : Ledger) : Prop where
  pending : (l.store.countStatus .pending : Int) =
    l.count (.purchases .priced) + l.count (.payments .pending) - l.count (.payments .paid) -
      l.count (.payments .failed) - l.count (.payments .expired)
  paid : l.store.countStatus .paid = l.count (.payments .paid)
  settled : l.count (.payments .paid) = l.count (.webhooks .settled)
  free : l.store.countFree = l.count (.purchases .free)
  notified : (webhookResults.map fun result => l.count (.webhooks result)).sum = l.notices

theorem count_eq_booked {c : Counter} (hc : c.onBooks) : (booked l.turns).count c = l.count c :=
  List.count_filter hc

/-- All that was entered from the opening on. -/
theorem Kept.entered (h : Kept setup l) : Entered l.notices .empty l.store l.turns := by
  induction h with
  | opened => exact .of_kept Store.coherent_empty rfl
  | @visited l _ w v hnames ih => exact ih.trans (Visit.entered ih.coherent setup v w hnames)
  | reordered _ order ih => exact ih.reordered (Store.sameRows_reordered _ order)

theorem Kept.balanced (h : Kept setup l) : l.Balanced := by
  have he := h.entered
  have hpurchases : ∀ kind, (booked l.turns).count (.purchases kind) = l.count (.purchases kind) :=
    fun _ => count_eq_booked rfl
  have hpayments : ∀ status, (booked l.turns).count (.payments status) =
      l.count (.payments status) := fun _ => count_eq_booked rfl
  have hwebhooks : ∀ result, (booked l.turns).count (.webhooks result) =
      l.count (.webhooks result) := fun _ => count_eq_booked rfl
  constructor
  case pending =>
    have hpending := he.posted.pending
    have hempty : Store.countStatus .empty .pending = 0 := rfl
    rw [hpurchases, hpayments, hpayments, hpayments, hpayments, hempty] at hpending
    omega
  case paid =>
    have hpaid := he.posted.paid
    rw [hpayments] at hpaid
    exact hpaid.trans (Nat.zero_add _)
  case settled =>
    have hsettled := he.settled
    rwa [hpayments, hwebhooks] at hsettled
  case free =>
    have hfree := he.posted.free
    rw [hpurchases] at hfree
    exact hfree.trans (Nat.zero_add _)
  case notified =>
    have hnotified := he.notified
    simp only [BoxOffice.notices, hwebhooks] at hnotified
    exact hnotified

/-- A request that cannot be delivered is put in again and paid for, and the notification comes
twice. -/
theorem balanced_afterRetry :
    let body := Text.encodeUtf8 "[\"PAYMENT_FINISHED\",\"e\"]"
    let notification := Visit.job (.notification body (some (Signature.sign [] body)))
    let c : DispatchContext := ⟨⟨⟨0⟩⟩, ⟨"a", "b"⟩, "a", ⟨5⟩, default, "", "", none⟩
    let visit (l : Ledger) (o : Office.Outside) (v : Visit) : Ledger :=
      l.visited Office.sampleSetup (fun _ => o.answer) v
    let sold := visit (visit .empty {} (.job (.putEvent Office.sampleEvent))) { invoice := "a" }
      (.job (.purchase Office.sampleEvent.id default (some "$a@b")))
    let again := visit (visit sold { delivers := false } (.job (.route c))) { invoice := "b" }
      (.job (.retry ⟨⟨0⟩⟩))
    let pulled := visit again {} (.pull (some 5000))
    let settled := visit pulled { invoice := "b" } notification
    let l := visit settled { invoice := "b" } notification
    again.store.countStatus .pending = 1 ∧ l.store.countStatus .paid = 1 ∧
      l.count (.payments .failed) = 1 ∧ l.count (.webhooks .duplicate) = 1 ∧ l.notices = 2 ∧
      again.Balanced ∧ l.Balanced := by
  intro body notification c visit sold again pulled settled l
  let w : Surroundings := fun _ => Office.Outside.answer { invoice := "b" }
  have hagain : Kept Office.sampleSetup again := by
    refine (((Kept.opened.visited _ _ ?_).visited _ _ ?_).visited _ _ ?_).visited _ _ ?_
    all_goals decide +kernel
  have hpulled : Kept Office.sampleSetup pulled := hagain.visited _ _ (by decide +kernel)
  -- the signature is checked once for all of these
  obtain ⟨hnames, hnames', hpending, hpaid, hfailed, hduplicate⟩ :
      NewNames pulled.store (pulled.next Office.sampleSetup w notification).turns ∧
        NewNames settled.store (settled.next Office.sampleSetup w notification).turns ∧
        again.store.countStatus .pending = 1 ∧ l.store.countStatus .paid = 1 ∧
        l.count (.payments .failed) = 1 ∧ l.count (.webhooks .duplicate) = 1 := by
    decide +kernel
  have hl : Kept Office.sampleSetup l := (hpulled.visited _ _ hnames).visited _ _ hnames'
  exact ⟨hpending, hpaid, hfailed, hduplicate, rfl, hagain.balanced, hl.balanced⟩

end Ledger

end BoxOffice
