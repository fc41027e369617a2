import BoxOffice.Proofs.Office.Attempts
import BoxOffice.Proofs.Office.Callbacks
import BoxOffice.Proofs.Office.Once
import BoxOffice.Proofs.Service.Notification

/-! Who is told of a settlement, when callbacks are recorded while it is under way. The notification
looks the payment up before it stores that it was paid, and tells whoever was to be told then. -/

namespace BoxOffice

open Store

/-- The time of payment, if the entry makes the payment paid. -/
def Entry.paidTime? (id : PaymentId) (e : Entry) : Option Time.Instant :=
  match e.change? id with
  | some (.closed ⟨_, .paid, time⟩) => some time
  | _ => none

theorem Entry.paidTime?_eq {e : Entry} {id : PaymentId} {time : Time.Instant}
    (h : e.paidTime? id = some time) :
    ∃ k, e.turn = .call (.applyTransition k ⟨.pending, .paid, time⟩) (.ok true) ∧
      ∃ p, e.before.paymentForTicket k = some p ∧ p.id = id := by
  unfold paidTime? at h
  split at h
  · next source time' hchange =>
    cases h
    rcases of_change? hchange with ⟨k, tr, hclosed, ht, hsource, hp⟩ | ⟨_, _, hreopened, -⟩
    · cases hclosed
      cases hsource
      exact ⟨k, ht, hp⟩
    · cases hreopened
  · cases h

def Entry.looksUp (i : Nat) (e : Entry) : Bool :=
  e.task = i && match e.turn.request with
    | .store (.paymentByInvoice _) => true
    | _ => false

theorem Entry.looksUp_iff {i : Nat} {e : Entry} : e.looksUp i ↔ e.LooksUp i := by
  unfold looksUp LooksUp
  split
  · next encoded hr => simp [hr]
  · next hr => simpa using fun _ => hr

/-- A task that reports a settlement is a notification, and done. -/
theorem Task.of_settled? {t : Task} {k : TicketId} (h : t.settled? = some k) :
    t.job.isNotification ∧ ∀ r next, t.program ≠ .ask r next := by
  unfold settled? at h
  split at h
  · exact ⟨rfl, nofun⟩
  · cases h

/-! ### The notice of a settlement -/

namespace Lawful

variable {setup : Setup} {later between earlier : List Entry} {pays look : Entry}
  {id : PaymentId} {time : Time.Instant}

/-- The payment of a ticket is as it was looked up, as long as its callback is left alone. -/
theorem lookedUp (h : Lawful (between ++ look :: earlier)) {encoded : String} {p q : Payment}
    (hlook : look.turn = .call (.paymentByInvoice encoded) (.ok (some p)))
    (hlast : ∀ e ∈ between, e.turn.callback? q.id = none)
    (hq : (storeAfter (between ++ look :: earlier)).paymentForTicket p.ticketId = some q) :
    q.invoice = p.invoice ∧ q.amount = p.amount ∧
      p.counterpartyCallback = recordedCallback q.id (earlier.map (·.turn)) := by
  have hs := h.coherent
  obtain ⟨hqid, hqk⟩ := hs.paymentForTicket_iff.1 hq
  have hsuffix := h.suffix
  have hcallback := hsuffix.callback q.id
  cases hsuffix with
  | cons _ hl =>
    obtain ⟨⟨id, hp⟩, -⟩ := Store.find?_of_paymentByInvoice (Except.ok.inj (hl.read hlook rfl))
    have hp : (storeAfter (look :: earlier)).payments.find? id = some p := hp
    obtain ⟨p', hp', hpk, -⟩ := h.attempt hp
    obtain rfl := hs.single hp' hqid (hpk.trans hqk.symm)
    obtain ⟨q', hq', -, hinvoice, hamount⟩ := h.unrenewed hlast hp
    cases hqid.symm.trans hq'
    refine ⟨hinvoice, hamount, ?_⟩
    rw [callback?_eq hp, List.map_cons, recordedCallback, hlook] at hcallback
    exact hcallback

/-- A notification that made the payment paid, and has a result, has told whoever had asked for that
when it looked the payment up. -/
theorem tells (h : Lawful (later ++ pays :: (between ++ look :: earlier)))
    {x : Except ReconcileError ReconcileOutcome}
    (hx : Service.Tells setup
      (turnsOf pays.task (later ++ pays :: (between ++ look :: earlier))) x)
    (hpays : pays.paidTime? id = some time) (hlook : look.LooksUp pays.task)
    (hlast : ∀ e ∈ between, e.turn.callback? id = none) :
    ∃ p, pays.before.payments.find? id = some p ∧
      told (turnsOf pays.task (later ++ pays :: (between ++ look :: earlier))) =
        (recordedCallback id (earlier.map (·.turn))).toList.map fun url =>
          (url, ⟨setup.receiver.domain, p.invoice, p.amount.millisats, time⟩) := by
  obtain ⟨k, hturn, q, hq, rfl⟩ := Entry.paidTime?_eq hpays
  have hmem : pays ∈ later ++ pays :: (between ++ look :: earlier) := by simp
  have hmem' : look ∈ later ++ pays :: (between ++ look :: earlier) := by simp
  have hsettled : (k, time) ∈
      settlements (turnsOf pays.task (later ++ pays :: (between ++ look :: earlier))) := by
    refine List.mem_filterMap.2 ⟨pays.turn, mem_turnsOf.2 ⟨pays, hmem, rfl, rfl⟩, ?_⟩
    rw [hturn]
    rfl
  cases hx with
  | nothing _ hnone =>
    rw [hnone] at hsettled
    cases hsettled
  | @settled encoded p time' hfound hone htold =>
    rw [hone] at hsettled
    cases List.mem_singleton.1 hsettled
    -- the payment was found in the only look-up of the task
    obtain ⟨d, hd, hdtask, hdturn⟩ := mem_turnsOf.1 hfound
    obtain rfl : d = look := unique (fun _ hl hp _ hd => lookup_once hl hp hd) h hd hmem'
      ⟨hdtask, encoded, by rw [hdturn]⟩ hlook
    cases h.suffix with
    | cons hbefore hpl =>
      have hstored := (hbefore.coherent_before hpl).paymentForTicket_iff.1 hq
      rw [← hpl.before.paymentForTicket hbefore.coherent] at hq
      obtain ⟨hinvoice, hamount, hcallback⟩ := hbefore.lookedUp hdturn hlast hq
      refine ⟨q, hstored.1, ?_⟩
      rw [htold, Payment.notices, hcallback, hinvoice, hamount]

end Lawful

/-! ### Offices -/

namespace Office

/-- A notification has a result in the end, and has told what is to be told by then. -/
def NotificationTells (setup : Setup) : (job : Job) → Program job.Result → List Turn → Prop
  | .notification _ _, p, h =>
    p.Gives (fun _ => True) (fun _ => True) ∧ p.Conforms (fun _ _ => True) (Service.Tells setup) h
  | _, _, _ => True

theorem run_tells (setup : Setup) (moves : List Move) :
    (run setup moves).Tracks (NotificationTells setup) := by
  refine tracks_run (fun job => ?_) (fun {job} _ _ _ x h hx => ?_) moves
  · cases job with
    | notification body signature =>
      have hgives := Service.onNotification_gives setup body signature
      exact ⟨hgives.mono (fun _ => id) fun _ _ => trivial,
        Service.onNotification_tells setup body signature⟩
    | _ => trivial
  · cases job with
    | notification body signature => exact ⟨h.1.2 x, h.2.2 x hx⟩
    | _ => trivial

/-- The notification is under way, or it has a result and has told what is to be told. -/
theorem told_of_notification {setup : Setup} {moves : List Move} {i : Nat} {t : Task}
    (ht : (run setup moves).tasks[i]? = some t) (hjob : t.job.isNotification) :
    (∃ r next, t.program = .ask r next) ∨
      ∃ x, Service.Tells setup (turnsOf i (run setup moves).log) x := by
  have htells := run_tells setup moves i t ht
  obtain ⟨job, p⟩ := t
  cases job with
  | notification body signature =>
    cases p with
    | pure x => exact .inr ⟨x, htells.2⟩
    | ask r next => exact .inl ⟨r, next, rfl⟩
    | abort => exact htells.1.elim
  | _ => cases hjob

/-! ### Runs to look at -/

/-- The processor announces that an invoice was paid. -/
def sampleAnnouncement : Move :=
  let body := Text.encodeUtf8 "[\"PAYMENT_FINISHED\",\"e\"]"
  .begin (.notification body (some (Signature.sign [] body)))

/-- The counterparty pulls the invoice and asks to be told at `u`. -/
def samplePull : Move :=
  let compliance := .object [("compliance", .object [("utxoCallback", .string "u")])]
  .begin (.payRequest ⟨⟨0⟩⟩ (.full ⟨1, "SAT", compliance, none⟩))

/-- The invoice is pulled while the processor is asked what the announcement is about. -/
def sampleTimely : List Move :=
  sampleSale ++ sampleAnnouncement :: Move.turns 1 3 { invoice := "a" } ++
  samplePull :: Move.turns 5 4 { now := .ofSeconds (-1) } ++ Move.turns 14 3 { invoice := "a" }

/-- The invoice is pulled when the payment has been looked up. -/
def sampleRace : List Move :=
  sampleSale ++ sampleAnnouncement :: Move.turns 2 3 { invoice := "a" } ++
  samplePull :: Move.turns 5 4 { now := .ofSeconds (-1) } ++ Move.turns 13 3 { invoice := "a" }

/-- The invoice is pulled, it cannot be delivered, and the payment gets another one. -/
def sampleReissue : List Move :=
  sampleSale ++ samplePull :: Move.turns 5 3 { now := .ofSeconds (-1) } ++
  Move.turns 13 2 { delivers := false } ++
  .begin (.retry ⟨⟨0⟩⟩) :: Move.turns 13 4 { invoice := "b" } ++
  sampleAnnouncement :: Move.turns 15 6 { invoice := "b" }

/-- A callback that was recorded by the time a notification looks the payment up is told of the
settlement by that notification, and nobody else is, if the payment is neither given another callback
nor issued again before it becomes paid. -/
theorem recorded_told (setup : Setup) (moves : List Move) {later between earlier : List Entry}
    {pays look : Entry} {t : Task} {id : PaymentId} {time : Time.Instant} {url : String}
    (hlog : (run setup moves).log = later ++ pays :: (between ++ look :: earlier))
    (ht : (run setup moves).tasks[pays.task]? = some t) (hjob : t.job.isNotification)
    (hpays : pays.paidTime? id = some time) (hlook : look.LooksUp pays.task)
    (hrecorded : recordedCallback id (earlier.map (·.turn)) = some url)
    (hlast : ∀ e ∈ between, e.turn.callback? id = none) :
    (∃ r next, t.program = .ask r next) ∨
      ∃ p, pays.before.payments.find? id = some p ∧
        told (turnsOf pays.task (run setup moves).log) =
          [(url, ⟨setup.receiver.domain, p.invoice, p.amount.millisats, time⟩)] := by
  have hlawful := (sound_run setup moves).lawful
  rcases told_of_notification ht hjob with hrunning | ⟨x, hx⟩
  · exact .inl hrunning
  · rw [hlog] at hlawful hx ⊢
    obtain ⟨p, hp, htold⟩ := hlawful.tells hx hpays hlook hlast
    rw [hrecorded] at htold
    exact .inr ⟨p, hp, htold⟩

/-- The latest entry settles the payment, which was looked up the given number of entries before,
when the callback was there. -/
def settlesTimely (o : Office) (id : PaymentId) (url : String) (n : Nat) : List Entry → Bool
  | [] => false
  | pays :: rest => (pays.paidTime? id).isSome && (o.tasks[pays.task]?.bind Task.settled?).isSome &&
    (rest.take n).all (·.turn.callback? id = none) &&
    match rest.drop n with
    | [] => false
    | look :: earlier => look.looksUp pays.task &&
      recordedCallback id (earlier.map (·.turn)) = some url

theorem of_settlesTimely {o : Office} {id : PaymentId} {url : String} {m n : Nat}
    (h : o.settlesTimely id url n (o.log.drop m)) :
    ∃ (later between earlier : List Entry) (pays look : Entry) (time : Time.Instant) (t : Task),
      o.log = later ++ pays :: (between ++ look :: earlier) ∧ o.tasks[pays.task]? = some t ∧
      t.settled?.isSome ∧ pays.paidTime? id = some time ∧ look.LooksUp pays.task ∧
      recordedCallback id (earlier.map (·.turn)) = some url ∧
      ∀ e ∈ between, e.turn.callback? id = none := by
  have hlog := (List.take_append_drop m o.log).symm
  generalize o.log.drop m = l at h hlog
  cases l with
  | nil => cases h
  | cons pays rest =>
    cases hr : rest.drop n with
    | nil =>
      rw [settlesTimely, hr, Bool.and_false] at h
      cases h
    | cons look earlier =>
      rw [← List.take_append_drop n rest, hr] at hlog
      simp only [settlesTimely, hr, Bool.and_eq_true, Option.isSome_iff_exists,
        Option.bind_eq_some_iff, List.all_eq_true, decide_eq_true_eq] at h
      obtain ⟨⟨⟨⟨time, hpays⟩, k, t, ht, hk⟩, hlast⟩, hlook, hrecorded⟩ := h
      exact ⟨_, rest.take n, earlier, pays, look, time, t, hlog, ht,
        Option.isSome_iff_exists.2 ⟨k, hk⟩, hpays, Entry.looksUp_iff.1 hlook, hrecorded, hlast⟩

theorem recorded_told_sampleTimely :
    ∃ pays ∈ (run sampleSetup sampleTimely).log, ∃ (p : Payment) (time : Time.Instant),
      told (turnsOf pays.task (run sampleSetup sampleTimely).log) =
        [("u", ⟨sampleSetup.receiver.domain, p.invoice, p.amount.millisats, time⟩)] := by
  have htimely : (run sampleSetup sampleTimely).settlesTimely ⟨⟨0⟩⟩ "u" 4
      ((run sampleSetup sampleTimely).log.drop 3) := by decide +kernel
  obtain ⟨later, between, earlier, pays, look, time, t, hlog, ht, hsettled, hpays, hlook, hrecorded,
    hlast⟩ := of_settlesTimely htimely
  obtain ⟨k, hk⟩ := Option.isSome_iff_exists.1 hsettled
  obtain ⟨hjob, hfinished⟩ := Task.of_settled? hk
  have htold := recorded_told _ _ hlog ht hjob hpays hlook hrecorded hlast
  rcases htold with ⟨r, next, hrunning⟩ | ⟨p, -, htold⟩
  · exact absurd hrunning (hfinished r next)
  · have hmem : pays ∈ (run sampleSetup sampleTimely).log := by
      rw [hlog]
      exact List.mem_append_right _ List.mem_cons_self
    exact ⟨pays, hmem, p, time, htold⟩

/-! ### Recordings that come too late -/

/-- The callback that was recorded last for the payment, whether or not it got another invoice
since. -/
def lastRecorded (id : PaymentId) (log : List Entry) : Option String :=
  log.findSome? fun e => (e.turn.callback? id).join

/-- Whenever a payment was settled, whoever had asked for that last has been told. -/
def LastRecordedTold (setup : Setup) (moves : List Move) : Prop :=
  ∀ (later earlier : List Entry) (pays : Entry) (id : PaymentId) (k : TicketId) (url : String),
    (run setup moves).log = later ++ pays :: earlier → (pays.paidTime? id).isSome →
    (run setup moves).tasks[pays.task]?.bind Task.settled? = some k →
    lastRecorded id earlier = some url →
    ∃ notice, (url, notice) ∈ told (turnsOf pays.task (run setup moves).log)

/-- The latest entry settles the payment and nobody is told, though a callback was recorded. -/
def settlesUntold (o : Office) (id : PaymentId) : List Entry → Bool
  | [] => false
  | pays :: earlier => (pays.paidTime? id).isSome && (lastRecorded id earlier).isSome &&
    (o.tasks[pays.task]?.bind Task.settled?).isSome && (told (turnsOf pays.task o.log)).isEmpty

theorem not_lastRecordedTold {setup : Setup} {moves : List Move} {id : PaymentId} {n : Nat}
    (h : (run setup moves).settlesUntold id ((run setup moves).log.drop n)) :
    ¬ LastRecordedTold setup moves := by
  intro htold
  have hlog := (List.take_append_drop n (run setup moves).log).symm
  generalize (run setup moves).log.drop n = l at h hlog
  cases l with
  | nil => cases h
  | cons pays earlier =>
    simp only [settlesUntold, Bool.and_eq_true, Option.isSome_iff_exists, List.isEmpty_iff] at h
    obtain ⟨⟨⟨⟨time, hpays⟩, url, hurl⟩, k, hk⟩, hnone⟩ := h
    have hpaid : (pays.paidTime? id).isSome := by
      rw [hpays]
      rfl
    obtain ⟨notice, hnotice⟩ := htold _ earlier pays id k url hlog hpaid hk hurl
    rw [hnone] at hnotice
    cases hnotice

theorem late_recording_untold :
    ¬ LastRecordedTold sampleSetup sampleRace ∧ ¬ LastRecordedTold sampleSetup sampleReissue := by
  have hrace : (run sampleSetup sampleRace).settlesUntold ⟨⟨0⟩⟩
      ((run sampleSetup sampleRace).log.drop 2) := by decide +kernel
  have hreissue : (run sampleSetup sampleReissue).settlesUntold ⟨⟨0⟩⟩
      ((run sampleSetup sampleReissue).log.drop 2) := by decide +kernel
  exact ⟨not_lastRecordedTold hrace, not_lastRecordedTold hreissue⟩

end Office

end BoxOffice
