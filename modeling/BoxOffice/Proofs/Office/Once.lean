import BoxOffice.Proofs.Office.Changes

/-! What happens once. A payment is closed and opened again in turn and stays once it is paid, one
notification settles it, and one notice of that is sent. -/

namespace BoxOffice

open Store

variable {log : List Entry} {k : TicketId}

/-- The entry makes the payment of the ticket paid. -/
def Entry.Pays (k : TicketId) (e : Entry) : Prop :=
  ∃ time, e.turn = .call (.applyTransition k ⟨.pending, .paid, time⟩) (.ok true)

/-- The entry is a turn of the task that looks up a payment by its invoice. -/
def Entry.LooksUp (i : Nat) (e : Entry) : Prop :=
  e.task = i ∧ ∃ encoded, e.turn.request = .store (.paymentByInvoice encoded)

/-- The entry is a notice by a task that found a payment of the ticket. -/
def Entry.IsNotice (k : TicketId) (log : List Entry) (e : Entry) : Prop :=
  (∃ url n, e.turn.request = .notify url n) ∧ Found k (turnsOf e.task log)

/-- The ticket that the task, a notification, reports as settled. -/
def Task.settled? : Task → Option TicketId
  | ⟨.notification _ _, .pure (.ok (.settled k))⟩ => some k
  | _ => none

theorem applied_turnsOf {i : Nat} (h : Applied k .paid (turnsOf i log)) :
    ∃ e ∈ log, e.task = i ∧ e.Pays k := by
  obtain ⟨time, hm⟩ := h
  obtain ⟨e, he, htask, hturn⟩ := mem_turnsOf.1 hm
  exact ⟨e, he, htask, time, hturn⟩

namespace Lawful

/-- After a payment was made paid it is not made so again. -/
theorem pays_once (h : Lawful log) {e : Entry} (he : e.Lawful log) (hpays : e.Pays k) {d : Entry}
    (hd : d ∈ log) : ¬ d.Pays k := by
  rintro ⟨time, ht⟩
  obtain ⟨later, earlier, rfl, hearlier, hdl⟩ := h.of_mem hd
  obtain ⟨p, hp, -, hafter⟩ := hearlier.applied hdl ht
  obtain ⟨callback, hstays⟩ := h.paid_stays hafter rfl
  obtain ⟨time', ht'⟩ := hpays
  obtain ⟨q, hq, hpending, -⟩ := h.applied he ht'
  rw [← he.before.paymentForTicket h.coherent] at hq
  obtain ⟨hq', hqk⟩ := h.coherent.paymentForTicket_iff.1 hq
  have hpk := ((hearlier.coherent_before hdl).paymentForTicket_iff.1 hp).2
  have hid := h.coherent.single hstays hq' (hpk.trans hqk.symm)
  rw [hid, hq'] at hstays
  cases hstays
  cases hpending

theorem pays_unique (h : Lawful log) {d e : Entry} (hd : d ∈ log) (he : e ∈ log)
    (hdp : d.Pays k) (hep : e.Pays k) : d = e :=
  unique (fun h hl hp _ hd => h.pays_once hl hp hd) h hd he hdp hep

/-- A task looks up a payment by its invoice once. -/
theorem lookup_once {e : Entry} (he : e.Lawful log) {i : Nat} (hlooks : e.LooksUp i) {d : Entry}
    (hd : d ∈ log) : ¬ d.LooksUp i := by
  rintro ⟨htask, encoded, hr⟩
  obtain ⟨rfl, encoded', hr'⟩ := hlooks
  have hallowed := he.allowed
  rw [hr'] at hallowed
  exact hallowed encoded d.turn (mem_turnsOf.2 ⟨d, hd, htask, rfl⟩) hr

/-- So it finds a payment of one ticket. -/
theorem found_unique (h : Lawful log) {i : Nat} {k' : TicketId} (hf : Found k (turnsOf i log))
    (hf' : Found k' (turnsOf i log)) : k = k' := by
  obtain ⟨encoded, p, hm, rfl⟩ := hf
  obtain ⟨encoded', p', hm', rfl⟩ := hf'
  obtain ⟨d, hd, hdtask, hdt⟩ := mem_turnsOf.1 hm
  obtain ⟨e, he, hetask, het⟩ := mem_turnsOf.1 hm'
  have hde : d = e := unique (fun _ hl hp _ hd => lookup_once hl hp hd) h hd he
    ⟨hdtask, encoded, by rw [hdt]⟩ ⟨hetask, encoded', by rw [het]⟩
  rw [hde, het] at hdt
  cases hdt
  rfl

/-- Who sends a notice made the payment paid. -/
theorem notice_pays (h : Lawful log) {e : Entry} (he : e ∈ log) (hn : e.IsNotice k log) :
    ∃ d ∈ log, d.task = e.task ∧ d.Pays k := by
  obtain ⟨⟨url, n, hr⟩, hfound⟩ := hn
  obtain ⟨later, earlier, hlog, hearlier, hl⟩ := h.of_mem he
  have hallowed := hl.allowed
  rw [hr] at hallowed
  obtain ⟨⟨k', hfound', happlied⟩, -⟩ := hallowed
  have hsub : ∀ t ∈ turnsOf e.task earlier, t ∈ turnsOf e.task log := by
    intro t ht
    obtain ⟨d, hd, htask, hturn⟩ := mem_turnsOf.1 ht
    exact mem_turnsOf.2 ⟨d, hlog ▸ List.mem_append_right _ (.tail _ hd), htask, hturn⟩
  obtain ⟨encoded, p, hm, hp⟩ := hfound'
  cases h.found_unique hfound ⟨encoded, p, hsub _ hm, hp⟩
  obtain ⟨time, hm⟩ := happlied
  exact applied_turnsOf ⟨time, hsub _ hm⟩

theorem notices (h : Lawful log) (k : TicketId) :
    log.Pairwise fun e d => ¬ (e.IsNotice k log ∧ d.IsNotice k log) := by
  suffices H : ∀ later earlier, log = later ++ earlier →
      earlier.Pairwise fun e d => ¬ (e.IsNotice k log ∧ d.IsNotice k log) from H [] log rfl
  intro later earlier hlog
  induction earlier generalizing later with
  | nil => exact .nil
  | cons e earlier ih =>
    refine .cons ?_ (ih (later ++ [e]) (by simpa using hlog))
    rintro d hd ⟨he, hd'⟩
    have hmem : ∀ a ∈ e :: earlier, a ∈ log := fun a ha => hlog ▸ List.mem_append_right _ ha
    obtain ⟨a, ha, hatask, hapays⟩ := h.notice_pays (hmem e List.mem_cons_self) he
    obtain ⟨b, hb, hbtask, hbpays⟩ := h.notice_pays (hmem d (.tail _ hd)) hd'
    cases h.pays_unique ha hb hapays hbpays
    -- so both are notices of one task, which sends no second one
    obtain ⟨⟨url, n, hr⟩, -⟩ := he
    obtain ⟨⟨url', n', hr'⟩, -⟩ := hd'
    have hlawful := (hlog ▸ h).suffix
    cases hlawful with
    | cons _ hl =>
      have hallowed := hl.allowed
      rw [hr] at hallowed
      exact hallowed.2.1 url' n' d.turn
        (mem_turnsOf.2 ⟨d, hd, hbtask.symm.trans hatask, rfl⟩) hr'

end Lawful

/-! ### Offices -/

namespace Office

theorem step_log (setup : Setup) (o : Office) (m : Move) : ∃ new, (o.step setup m).log = new ++ o.log := by
  cases m with
  | begin job => cases job <;> exact ⟨[], rfl⟩
  | go i outside =>
    simp only [step]
    split
    · split
      · exact ⟨[_], rfl⟩
      · exact ⟨[], rfl⟩
    · exact ⟨[], rfl⟩
  | reorder => exact ⟨[], rfl⟩

theorem run_append_log (setup : Setup) (moves later : List Move) :
    ∃ new, (run setup (moves ++ later)).log = new ++ (run setup moves).log := by
  rw [run, List.foldl_append]
  suffices H : ∀ o : Office, ∃ new, (later.foldl (step setup) o).log = new ++ o.log from H _
  induction later with
  | nil => exact fun o => ⟨[], rfl⟩
  | cons m later ih =>
    intro o
    obtain ⟨new, hnew⟩ := ih (o.step setup m)
    obtain ⟨first, hfirst⟩ := step_log setup o m
    exact ⟨new ++ first, by rw [List.foldl_cons, hnew, hfirst, List.append_assoc]⟩

theorem Sound.settled_pays {o : Office} (ho : o.Sound) {i : Nat} {t : Task}
    (ht : o.tasks[i]? = some t) {k : TicketId} (hk : t.settled? = some k) :
    ∃ e ∈ o.log, e.task = i ∧ e.Pays k := by
  have hc := ho.conforms ht
  unfold Task.settled? at hk
  split at hk
  · cases hk
    exact applied_turnsOf hc
  · cases hk

theorem Sound.settled_unique {o : Office} (ho : o.Sound) {i j : Nat} {t u : Task}
    (ht : o.tasks[i]? = some t) (hu : o.tasks[j]? = some u) {k : TicketId}
    (htk : t.settled? = some k) (huk : u.settled? = some k) : i = j := by
  obtain ⟨d, hd, rfl, hdp⟩ := ho.settled_pays ht htk
  obtain ⟨e, he, rfl, hep⟩ := ho.settled_pays hu huk
  rw [ho.lawful.pays_unique hd he hdp hep]

/-- What the calls of a run come to, in whatever order their turns are taken. -/
structure ExactlyOnce (setup : Setup) (moves : List Move) : Prop where
  /-- A payment is closed and opened again in turn. -/
  alternate (id : PaymentId) : Alternate (changesOf id (run setup moves).log)
  /-- A payment that is paid stays so whatever moves come later, and its ticket does. -/
  paid {id : PaymentId} {p : Payment} {t : Ticket} :
    (run setup moves).store.payments.find? id = some p → p.status = .paid →
    (run setup moves).store.tickets.find? p.ticketId = some t → ∀ later, ∃ p' t',
      (run setup (moves ++ later)).store.payments.find? id = some p' ∧ p'.status = p.status ∧
      p'.paidAt = p.paidAt ∧ p'.invoice = p.invoice ∧ p'.amount = p.amount ∧
      (run setup (moves ++ later)).store.tickets.find? p.ticketId = some t' ∧
      t'.status = t.status ∧ t'.paidAt = t.paidAt
  /-- No two tasks report a ticket as settled. -/
  settled (k : TicketId) {i j : Nat} {t u : Task} : (run setup moves).tasks[i]? = some t →
    (run setup moves).tasks[j]? = some u → t.settled? = some k → u.settled? = some k → i = j
  /-- No two notices are sent for a ticket. -/
  notices (k : TicketId) : (run setup moves).log.Pairwise fun e d =>
    ¬ (e.IsNotice k (run setup moves).log ∧ d.IsNotice k (run setup moves).log)

theorem exactlyOnce (setup : Setup) (moves : List Move) : ExactlyOnce setup moves := by
  have ho := sound_run setup moves
  constructor
  case alternate => exact fun id => (ho.lawful.tracked id).1
  case settled => exact fun k i j t u ht hu => ho.settled_unique ht hu
  case notices => exact ho.lawful.notices
  case paid =>
    intro id p t hp hpaid ht later
    have ho' := sound_run setup (moves ++ later)
    obtain ⟨new, hnew⟩ := run_append_log setup moves later
    have hlawful := ho'.lawful
    obtain ⟨t₁, i₁, ht₁, -, ha₁⟩ := ho.coherent.records hp
    cases ht.symm.trans ht₁
    rw [← ho.store.payments.find?] at hp
    rw [hnew] at hlawful
    obtain ⟨callback, hp'⟩ := hlawful.paid_stays hp hpaid
    rw [← hnew, ho'.store.payments.find?] at hp'
    obtain ⟨t', i', ht', -, ha'⟩ := ho'.coherent.records hp'
    exact ⟨_, t', hp', rfl, rfl, rfl, rfl, ht', ha'.status.trans ha₁.status.symm,
      ha'.paidAt.trans ha₁.paidAt.symm⟩

/-- The invoice of the sale is not delivered, so the sale gets another one, which is paid. -/
def sampleSettlement : List Move :=
  let body := Text.encodeUtf8 "[\"PAYMENT_FINISHED\",\"e\"]"
  let compliance := .object [("compliance", .object [("utxoCallback", .string "u")])]
  sampleSale ++ Move.turns 13 2 { delivers := false } ++
  .begin (.retry ⟨⟨0⟩⟩) :: Move.turns 13 3 { invoice := "b" } ++
  .begin (.payRequest ⟨⟨0⟩⟩ (.full ⟨1, "SAT", compliance, none⟩)) ::
    Move.turns 5 5 { now := .ofSeconds (-1) } ++
  .begin (.notification body (some (Signature.sign [] body))) ::
    Move.turns 15 6 { invoice := "b" }

theorem exactlyOnce_sampleSettlement :
    (let o := run sampleSetup sampleSettlement
     (o.store.payments.values.map fun p => (p.status, p.invoice)) = [(.paid, "b")] ∧
      (changesOf ⟨⟨0⟩⟩ o.log).length = 3 ∧ o.tasks.filterMap Task.settled? = [⟨⟨0⟩⟩]) ∧
      ExactlyOnce sampleSetup sampleSettlement :=
  ⟨by decide +kernel, exactlyOnce _ _⟩

end Office

end BoxOffice
