import BoxOffice.Proofs.Alone.Telling
import BoxOffice.Proofs.Office.Callbacks
import BoxOffice.Proofs.Series.Ledger
import BoxOffice.Proofs.Series.Redelivery

/-! Who is told of settlements over the life of a box office. A callback comes with a pull, is
replaced by a later one and taken out by a retry; who is told is whoever was there last when the
payment is settled. That somebody cannot be reached changes nothing else, and neither does the order
of rows. -/

namespace BoxOffice

open Program

inductive Occasion where
  /-- A call from outside, and what everybody but the store answers during it. -/
  | call (w : Surroundings) (visit : Visit)
  /-- The rows come to stand as in the other store. -/
  | reorder (order : Store)

/-- The occasion with somebody else to take the notices. -/
def Occasion.notifying (f : Notifier) : Occasion → Occasion
  | call w v => call (w.notifying f) v
  | reorder order => reorder order

namespace Visit

/-- The job that the entries of a call are those of. A pull asks for nothing that a sweep may not
ask for. -/
def asJob : Visit → Job
  | job j => j
  | pull _ => .sweep

theorem conforms (setup : Setup) (v : Visit) :
    (v.program setup).Conforms v.asJob.Allowed (fun _ _ => True) [] := by
  cases v with
  | job j => exact (j.conforms setup).mono (fun _ _ => id) fun _ _ _ => trivial
  | pull amountMsats =>
    have hlight : Light (Service.payByAmount amountMsats) := Service.payByAmount_light amountMsats
    exact (hlight []).mono (fun h r => Job.sweep.allowed_of_light h r) fun _ _ _ => trivial

theorem eq_of_isNotification {v : Visit} (hv : v.asJob.isNotification) :
    ∃ body signature, v = .job (.notification body signature) := by
  cases v with
  | pull => cases hv
  | job j =>
    cases j with
    | notification body signature => exact ⟨body, signature, rfl⟩
    | _ => cases hv

/-- The ticket that the call reports as settled. -/
def settled? : (v : Visit) → Ran v.Result → Option TicketId
  | job (.notification _ _), r => Ran.settled? r
  | _, _ => none

theorem settled?_eq_none {v : Visit} (hv : ¬ v.asJob.isNotification) (r : Ran v.Result) :
    v.settled? r = none := by
  cases v with
  | pull => rfl
  | job j =>
    cases j with
    | notification => exact absurd rfl hv
    | _ => rfl

end Visit

/-! ### Runs -/

namespace Ledger

variable {setup : Setup} {visits earlier later : List Occasion} {w : Surroundings} {v : Visit}

/-- The box office after calls one after another, the latest first. -/
def after (setup : Setup) : List Occasion → Ledger
  | [] => .empty
  | .call w v :: earlier => (after setup earlier).visited setup w v
  | .reorder order :: earlier => (after setup earlier).reordered order

/-- Payments are routed when that was begun, and names that are made up are new. -/
structure Orderly (setup : Setup) (visits : List Occasion) : Prop where
  begun (later earlier : List Occasion) (w : Surroundings) (c : DispatchContext) :
    visits = later ++ .call w (.job (.route c)) :: earlier →
    ∃ t ∈ (after setup earlier).turns, t.request = .dispatch c
  names : ((after setup visits).turns.filterMap (·.name?)).Nodup

theorem Orderly.tail {o : Occasion} (h : Orderly setup (o :: earlier)) : Orderly setup earlier := by
  constructor
  case begun =>
    intro later earlier' w c he
    exact h.begun (o :: later) earlier' w c (congrArg (o :: ·) he)
  case names =>
    have hnames := h.names
    cases o with
    | call w v =>
      rw [after, visited, List.filterMap_append] at hnames
      exact hnames.sublist (List.sublist_append_right ..)
    | reorder order => exact hnames

theorem Orderly.suffix (h : Orderly setup (later ++ earlier)) : Orderly setup earlier := by
  induction later with
  | nil => exact h
  | cons o later ih => exact ih h.tail

/-- The entries of the calls. -/
def diary (setup : Setup) : List Occasion → List Entry
  | [] => []
  | .call w v :: earlier => entries earlier.length v.asJob (after setup earlier).store
      ((after setup earlier).next setup w v).turns ++ diary setup earlier
  | .reorder _ :: earlier => diary setup earlier

theorem sameRows_diary (setup : Setup) (visits : List Occasion) :
    (storeAfter (diary setup visits)).SameRows (after setup visits).store := by
  induction visits with
  | nil => exact .refl _
  | cons o earlier ih =>
    cases o with
    | call w v =>
      have hturns := alone_afterTurns w (v.program setup) (after setup earlier).store []
      have hstore : ((after setup earlier).visited setup w v).store =
        (after setup earlier).store.afterTurns ((after setup earlier).next setup w v).turns := hturns
      rw [diary, after, hstore]
      exact sameRows_entries ih _
    | reorder order => exact ih.trans (Store.sameRows_reordered _ order)

theorem turns_diary (setup : Setup) (visits : List Occasion) :
    (diary setup visits).map (·.turn) = (after setup visits).turns := by
  induction visits with
  | nil => rfl
  | cons o earlier ih =>
    cases o with
    | call w v =>
      rw [diary, List.map_append, map_turn_entries, ih]
      rfl
    | reorder order => exact ih

theorem task_lt {e : Entry} (he : e ∈ diary setup visits) : e.task < visits.length := by
  induction visits with
  | nil => cases he
  | cons o earlier ih =>
    rw [List.length_cons]
    cases o with
    | call w v =>
      rcases List.mem_append.1 he with he | he
      · rw [task_of_mem_entries he]
        omega
      · have := ih he
        omega
    | reorder order => exact Nat.lt_succ_of_lt (ih he)

theorem Orderly.lawful_call (h : Orderly setup (.call w v :: earlier))
    (hlog : Lawful (diary setup earlier)) : Lawful (diary setup (.call w v :: earlier)) := by
  have hi : ∀ e ∈ diary setup earlier, e.task ≠ earlier.length := fun e he =>
    Nat.ne_of_lt (task_lt he)
  have hbegun : ∀ c, v.asJob = .route c →
      ∃ d ∈ diary setup earlier, d.turn.request = .dispatch c := by
    intro c hc
    cases v with
    | pull => cases hc
    | job j =>
      obtain rfl : j = .route c := hc
      obtain ⟨t, ht, hr⟩ := h.begun [] earlier w c rfl
      rw [← turns_diary] at ht
      obtain ⟨d, hd, rfl⟩ := List.mem_map.1 ht
      exact ⟨d, hd, hr⟩
  have hnames : (namesOf (diary setup (.call w v :: earlier))).Nodup := by
    have hmap := h.names
    rw [← turns_diary, List.filterMap_map] at hmap
    exact hmap
  exact Program.Conforms.lawful hi (sameRows_diary setup earlier) hbegun (v.conforms setup) w hlog
    hnames

theorem Orderly.lawful (h : Orderly setup visits) : Lawful (diary setup visits) := by
  induction visits with
  | nil => exact .nil
  | cons o earlier ih =>
    cases o with
    | call w v => exact h.lawful_call (ih h.tail)
    | reorder order => exact ih h.tail

theorem Orderly.coherent (h : Orderly setup visits) : (after setup visits).store.Coherent :=
  (sameRows_diary setup visits).coherent h.lawful.coherent

/-- The store has the callbacks that the turns tell. -/
theorem Orderly.callback (h : Orderly setup visits) (id : PaymentId) :
    (after setup visits).store.callback? id = recordedCallback id (after setup visits).turns := by
  rw [← (sameRows_diary setup visits).callback?, h.lawful.callback, turns_diary]

/-! ### One call more -/

/-- Only notifications tell anybody. -/
theorem Orderly.silent (h : Orderly setup (.call w v :: earlier)) (hv : ¬ v.asJob.isNotification) :
    Silent [] ((after setup earlier).next setup w v).turns := by
  refine ⟨_, (List.append_nil _).symm, ?_⟩
  intro t ht url n hr
  rw [← map_turn_entries earlier.length v.asJob (after setup earlier).store
    ((after setup earlier).next setup w v).turns] at ht
  obtain ⟨e, he, rfl⟩ := List.mem_map.1 ht
  obtain ⟨_, _, -, -, hl⟩ := h.lawful.of_mem (List.mem_append_left _ he)
  have hallowed := hl.allowed
  rw [hr, job_of_mem_entries he] at hallowed
  exact hv hallowed.2.2

/-- What is told in a call. -/
structure Told (setup : Setup) (l : Ledger) (w : Surroundings) (v : Visit) : Prop where
  /-- Nobody is told unless a payment is settled. -/
  unsettled : v.settled? (l.next setup w v) = none → told (l.next setup w v).turns = []
  /-- The payment that is settled was pending and is stored as paid. Whoever was recorded for it
  last, if anybody was, is told with the time that is stored. -/
  settled {k : TicketId} : v.settled? (l.next setup w v) = some k → ∃ p time,
    l.store.payments.find? p.id = some p ∧ p.ticketId = k ∧ p.status = .pending ∧
    p.counterpartyCallback = recordedCallback p.id l.turns ∧
    (l.next setup w v).store.payments.find? p.id =
      some { p with status := .paid, paidAt := some time } ∧
    told (l.next setup w v).turns = (recordedCallback p.id l.turns).toList.map fun url =>
      (url, ⟨setup.receiver.domain, p.invoice, p.amount.millisats, time⟩)

/-- What a notification tells, where the turns before it tell the callbacks. -/
theorem told_notification {l : Ledger} (hs : l.store.Coherent)
    (hcallback : ∀ id, l.store.callback? id = recordedCallback id l.turns) (setup : Setup)
    (w : Surroundings) (body : Bytes) (signature : Option String) :
    Told setup l w (.job (.notification body signature)) := by
  constructor
  case unsettled =>
    intro hnone
    obtain ⟨x, s', h', hrun, hx⟩ := Service.onNotification_alone hs setup w body signature
    have hnext : l.next setup w (.job (.notification body signature)) = ⟨some x, s', h'⟩ := hrun
    rw [hnext] at hnone ⊢
    have hunsettled : ∀ k, x ≠ .ok (.settled k) := by
      rintro k rfl
      cases hnone
    exact (hx.handling.kept hunsettled).2.told_eq
  case settled =>
    intro k hk
    obtain ⟨p, t, time, hp, hpk, hpending, hmoved, htold⟩ :=
      Service.onNotification_settles hs (Ran.result_of_settled hk)
    have hstore : (l.next setup w (.job (.notification body signature))).store =
      l.store.moving p t ⟨.pending, .paid, time⟩ := hmoved
    have hrecorded : p.counterpartyCallback = recordedCallback p.id l.turns := by
      rw [← hcallback, Store.callback?_eq hp]
    refine ⟨p, time, hp, hpk, hpending, hrecorded, ?_, ?_⟩
    · rw [hstore]
      exact Table.find?_set_self ..
    · rw [← hrecorded]
      exact htold

theorem Orderly.told (h : Orderly setup (.call w v :: earlier)) :
    Told setup (after setup earlier) w v := by
  by_cases hv : v.asJob.isNotification
  · obtain ⟨body, signature, rfl⟩ := Visit.eq_of_isNotification hv
    exact told_notification h.tail.coherent h.tail.callback setup w body signature
  · constructor
    case unsettled => exact fun _ => (h.silent hv).told_eq
    case settled =>
      intro k hk
      rw [Visit.settled?_eq_none hv] at hk
      cases hk

/-- A call comes to the same end with another notifier. -/
theorem Orderly.sameEnd (h : Orderly setup (.call w v :: earlier)) (f : Notifier) :
    Ran.SameEnd ((after setup earlier).next setup w v)
      ((after setup earlier).next setup (w.notifying f) v) := by
  by_cases hv : v.asJob.isNotification
  · obtain ⟨body, signature, rfl⟩ := Visit.eq_of_isNotification hv
    exact Service.onNotification_indifferent setup body signature w (after setup earlier).store []
  · have hsame := alone_notifying (f := f) (h.silent hv)
    exact ⟨congrArg Ran.result hsame, congrArg Ran.store hsame⟩

/-! ### A whole run -/

/-- The notices that were sent of a payment, in the calls that settled it. -/
def noticesOf (setup : Setup) (id : PaymentId) :
    List Occasion → List (String × SettlementNotice)
  | [] => []
  | .call w v :: earlier =>
    let r := (after setup earlier).next setup w v
    let settled := (v.settled? r).bind (after setup earlier).store.paymentForTicket
    (if settled.any (·.id = id) then told r.turns else []) ++ noticesOf setup id earlier
  | .reorder _ :: earlier => noticesOf setup id earlier

theorem after_notifying (h : Orderly setup visits) (f : Notifier) :
    (after setup (visits.map (·.notifying f))).store = (after setup visits).store := by
  induction visits with
  | nil => rfl
  | cons o earlier ih =>
    have hstore := ih h.tail
    cases o with
    | call w v =>
      have hsame := (h.sameEnd f).store
      rw [List.map_cons, Occasion.notifying, after, visited, next, hstore]
      exact hsame
    | reorder order =>
      rw [List.map_cons, Occasion.notifying, after, reordered, hstore]
      rfl

/-- Once a notice of a payment was sent the payment is paid, so no other notice of it follows. -/
def UntoldOrPaid (setup : Setup) (id : PaymentId) (visits : List Occasion) : Prop :=
  noticesOf setup id visits = [] ∨ (noticesOf setup id visits).length = 1 ∧
    ∃ p, (after setup visits).store.payments.find? id = some p ∧ p.status = .paid

/-- A payment that is paid stays so in the next call. -/
theorem Orderly.paid_stays (h : Orderly setup (.call w v :: earlier)) {id : PaymentId} {p : Payment}
    (hp : (after setup earlier).store.payments.find? id = some p) (hpaid : p.status = .paid) :
    ∃ q, (after setup (.call w v :: earlier)).store.payments.find? id = some q ∧
      q.status = .paid := by
  rw [← (sameRows_diary setup earlier).payments.find?] at hp
  obtain ⟨callback, hstays⟩ := h.lawful.paid_stays hp hpaid
  have hstored : (storeAfter (diary setup (.call w v :: earlier))).payments.find? id =
    some { p with counterpartyCallback := callback } := hstays
  rw [(sameRows_diary setup _).payments.find?] at hstored
  exact ⟨_, hstored, hpaid⟩

theorem Orderly.untold_or_paid_call (h : Orderly setup (.call w v :: earlier)) {id : PaymentId}
    (hearlier : UntoldOrPaid setup id earlier) :
    UntoldOrPaid setup id (.call w v :: earlier) := by
  have hs := h.tail.coherent
  rw [UntoldOrPaid, Ledger.noticesOf]
  generalize hsettled : (v.settled? ((after setup earlier).next setup w v)).bind
    (after setup earlier).store.paymentForTicket = settled
  by_cases hid : settled.any (·.id = id)
  · obtain ⟨q, rfl, hq⟩ := (Option.any_eq_true _ _).1 hid
    obtain rfl := of_decide_eq_true hq
    obtain ⟨k, hk, hfound⟩ := Option.bind_eq_some_iff.1 hsettled
    obtain ⟨p, time, hp, hpk, hpending, -, hstored, htold⟩ := h.told.settled hk
    obtain ⟨hq, hqk⟩ := hs.paymentForTicket_iff.1 hfound
    have hpq : p.id = q.id := hs.single hp hq (hpk.trans hqk.symm)
    rw [hpq] at hp hstored
    have hnone : Ledger.noticesOf setup q.id earlier = [] := by
      rcases hearlier with hnone | ⟨-, p', hp', hpaid⟩
      · exact hnone
      · cases hp.symm.trans hp'
        cases hpending.symm.trans hpaid
    rw [if_pos hid, hnone, htold, List.append_nil]
    cases recordedCallback p.id (after setup earlier).turns with
    | none => exact .inl rfl
    | some url => exact .inr ⟨rfl, _, hstored, rfl⟩
  · rw [if_neg hid, List.nil_append]
    rcases hearlier with hnone | ⟨hone, p, hp, hpaid⟩
    · exact .inl hnone
    · exact .inr ⟨hone, h.paid_stays hp hpaid⟩

theorem Orderly.untold_or_paid (h : Orderly setup visits) (id : PaymentId) :
    UntoldOrPaid setup id visits := by
  induction visits with
  | nil => exact .inl rfl
  | cons o earlier ih =>
    have hearlier := ih h.tail
    cases o with
    | call w v => exact h.untold_or_paid_call hearlier
    | reorder order =>
      have hfind := (Store.sameRows_reordered (after setup earlier).store order).payments.find? id
      refine hearlier.imp_right fun ⟨hone, p, hp, hpaid⟩ => ⟨hone, p, ?_, hpaid⟩
      exact hfind.symm.trans hp

/-- What is told over a run, and what becomes of it with another notifier. -/
structure Noticed (setup : Setup) (visits : List Occasion) : Prop where
  /-- In each call the payment that it settles is told of, and nothing else is. -/
  told {later earlier : List Occasion} {w : Surroundings} {v : Visit} :
    visits = later ++ .call w v :: earlier → Told setup (after setup earlier) w v
  /-- No payment is told of twice. -/
  once (id : PaymentId) : (Ledger.noticesOf setup id visits).length ≤ 1
  /-- Each call has the same result and leaves the same store with another notifier. -/
  indifferent (f : Notifier) {later earlier : List Occasion} {w : Surroundings} {v : Visit} :
    visits = later ++ .call w v :: earlier →
    Ran.SameEnd ((after setup earlier).next setup w v)
      ((after setup (earlier.map (·.notifying f))).next setup (w.notifying f) v)

theorem Orderly.noticed (h : Orderly setup visits) : Noticed setup visits := by
  constructor
  case told =>
    rintro later earlier w v rfl
    exact h.suffix.told
  case once =>
    intro id
    rcases h.untold_or_paid id with hnone | ⟨hone, -⟩
    · rw [hnone]
      exact Nat.zero_le 1
    · exact Nat.le_of_eq hone
  case indifferent =>
    rintro f later earlier w v rfl
    have hsame := h.suffix.sameEnd f
    rw [next, next, after_notifying h.suffix.tail f]
    exact hsame

/-- A callback is recorded, the invoice expires, a retry takes the callback out, another one is
recorded, and the new invoice is paid. -/
theorem noticed_afterRetry :
    let body := Text.encodeUtf8 "[\"PAYMENT_FINISHED\",\"e\"]"
    let pull (url : String) := Visit.job (.payRequest ⟨⟨0⟩⟩ (.full ⟨1, "SAT",
      .object [("compliance", .object [("utxoCallback", .string url)])], none⟩))
    let on (o : Office.Outside) (v : Visit) : Occasion := .call (fun _ => o.answer) v
    let notification :=
      on { invoice := "b" } (.job (.notification body (some (Signature.sign [] body))))
    let visits := [notification, on { now := .ofSeconds (-1) } (pull "v"),
      on { invoice := "b" } (.job (.retry ⟨⟨0⟩⟩)), on {} (.job .sweep),
      on { now := .ofSeconds (-1) } (pull "u"),
      on { invoice := "a" } (.job (.purchase Office.sampleEvent.id default (some "$a@b"))),
      on {} (.job (.putEvent Office.sampleEvent))]
    noticesOf Office.sampleSetup ⟨⟨0⟩⟩ visits = [("v", ⟨"b", "b", 5000, default⟩)] ∧
      Noticed Office.sampleSetup visits := by
  intro body pull on notification visits
  have hbegun : ∀ later earlier w c, visits ≠ later ++ .call w (.job (.route c)) :: earlier := by
    intro later earlier w c he
    have hmem : .call w (.job (.route c)) ∈ visits := by
      rw [he]
      exact List.mem_append_right _ List.mem_cons_self
    simp [visits, on, notification, pull] at hmem
  obtain ⟨htold, hnames⟩ :
      noticesOf Office.sampleSetup ⟨⟨0⟩⟩ visits = [("v", ⟨"b", "b", 5000, default⟩)] ∧
        ((after Office.sampleSetup visits).turns.filterMap (·.name?)).Nodup := by
    decide +kernel
  have horderly : Orderly Office.sampleSetup visits :=
    ⟨fun later earlier w c he => absurd he (hbegun later earlier w c), hnames⟩
  exact ⟨htold, horderly.noticed⟩

end Ledger

end BoxOffice
