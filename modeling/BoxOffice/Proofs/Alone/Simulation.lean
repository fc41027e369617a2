import BoxOffice.Proofs.Alone.Running
import BoxOffice.Proofs.Lifecycle.Coherence
import BoxOffice.Proofs.Office.Basic
import BoxOffice.Proofs.Service.Chain
import BoxOffice.Proofs.Store.Invoices

/-! The records of a ticket and its payment follow the lifecycle that is run on them alone. They
show its status and its time of payment before and after each action that is taken: a decision that
leaves the status leaves both, and one that changes it is stored. A whole run is told by induction
along its chain of actions. -/

namespace BoxOffice

open Program

/-! ### Lifecycles but for their errors -/

namespace Lifecycle

variable {s : Lifecycle}

/-- No decision looks at the error. -/
theorem reduce_withoutError (env : Setting) (s : Lifecycle) (action : LifecycleAction) :
    (reduce env s.withoutError action).1.withoutError = (reduce env s action).1.withoutError := by
  cases action with
  | dispatch c =>
    by_cases hclosed : s.paymentStatus ≠ .pending ∨ s.stage ≠ .notStarted
    · simp only [reduce, withoutError, hclosed, if_true, reject]
    · simp only [reduce, withoutError, hclosed, if_false]
      split <;> rfl
  | _ =>
    simp only [reduce, withoutError, setStatus, reject]
    repeat' split
    all_goals first | rfl | simp_all

theorem after_withoutError (s : Lifecycle) (steps : List (Setting × LifecycleAction)) :
    (s.withoutError.after steps).withoutError = (s.after steps).withoutError := by
  induction steps generalizing s with
  | nil => rfl
  | cons step rest ih =>
    obtain ⟨env, action⟩ := step
    change ((reduce env s.withoutError action).1.after rest).withoutError =
      ((reduce env s action).1.after rest).withoutError
    rw [← ih, reduce_withoutError, ih]

theorem Coherent.withoutError (hs : s.Coherent) : s.withoutError.Coherent :=
  ⟨hs.ticket, hs.settled, hs.failed, hs.paid, hs.context, hs.reason⟩

/-- What leaves the status of the payment leaves that of the ticket and the time of payment. -/
theorem reduce_same {env : Setting} {action : LifecycleAction}
    (h : (reduce env s action).1.paymentStatus = s.paymentStatus) :
    (reduce env s action).1.ticketStatus = s.ticketStatus ∧
      (reduce env s action).1.paidAt = s.paidAt := by
  have hd := decides env s action
  generalize reduce env s action = decision at hd h
  obtain ⟨s', effects⟩ := decision
  cases hd with
  | reopen hclosed =>
    have hpending : s.paymentStatus = .pending := h.symm
    rw [hpending] at hclosed
    cases hclosed
  | _ => simp_all [setStatus]

end Lifecycle

/-! ### Records that show a lifecycle -/

namespace Store

/-- The store with the records of a payment and its ticket as a lifecycle says. -/
def showing (s : Store) (p : Payment) (t : Ticket) (st : Lifecycle) : Store :=
  { s with
    payments := s.payments.set p.id { p with status := st.paymentStatus, paidAt := st.paidAt }
    tickets := s.tickets.set t.id { t with status := st.ticketStatus, paidAt := st.paidAt } }

/-- The records under the ticket of a lifecycle say what it says. -/
structure Shows (s : Store) (p : Payment) (t : Ticket) (st : Lifecycle) : Prop where
  coherent : s.Coherent
  payment : s.paymentForTicket st.ticketId = some p
  ticket : s.tickets.find? st.ticketId = some t
  status : st.paymentStatus = p.status
  ticketStatus : st.ticketStatus = t.status
  paidAt : st.paidAt = p.paidAt
  agree : t.paidAt = p.paidAt

variable {s : Store} {p : Payment} {t : Ticket} {st st' : Lifecycle}

theorem Coherent.shows (hs : s.Coherent) {k : TicketId} (hp : s.paymentForTicket k = some p)
    (ht : s.tickets.find? k = some t) :
    s.Shows p t (.ofRecords t p) ∧ (Lifecycle.ofRecords t p).Coherent := by
  obtain ⟨hfind, hk⟩ := hs.paymentForTicket_iff.1 hp
  obtain ⟨t', i, ht', -, hagree⟩ := hs.records hfind
  rw [hk] at ht'
  cases ht.symm.trans ht'
  obtain rfl : t.id = k := hs.ticket_key ht
  exact ⟨⟨hs, hp, ht, rfl, rfl, rfl, hagree.paidAt⟩,
    .start (.records t p hagree.status hagree.paid)⟩

namespace Shows

theorem of_same (h : s.Shows p t st) (hid : st'.ticketId = st.ticketId)
    (hstatus : st'.paymentStatus = st.paymentStatus) (hticket : st'.ticketStatus = st.ticketStatus)
    (hpaid : st'.paidAt = st.paidAt) : s.Shows p t st' :=
  ⟨h.coherent, hid ▸ h.payment, hid ▸ h.ticket, hstatus.trans h.status,
    hticket.trans h.ticketStatus, hpaid.trans h.paidAt, h.agree⟩

/-- What says the same is shown already. -/
theorem showing_eq (h : s.Shows p t st) (hstatus : st'.paymentStatus = st.paymentStatus)
    (hticket : st'.ticketStatus = st.ticketStatus) (hpaid : st'.paidAt = st.paidAt) :
    s.showing p t st' = s := by
  have hk := h.coherent.ticket_key h.ticket
  have hfind := (h.coherent.paymentForTicket_iff.1 h.payment).1
  have ht : s.tickets.find? t.id = some t := hk ▸ h.ticket
  have hpayment : { p with status := st'.paymentStatus, paidAt := st'.paidAt } = p := by
    rw [hstatus, hpaid, h.status, h.paidAt]
  have hticket : { t with status := st'.ticketStatus, paidAt := st'.paidAt } = t := by
    rw [hticket, hpaid, h.ticketStatus, h.paidAt, ← h.agree]
  rw [showing, hpayment, hticket, Table.set_of_find hfind, Table.set_of_find ht]

/-- A change of status makes the records show a lifecycle that has that status, if it happens when
that was paid. -/
theorem moving_eq (h : s.Shows p t st) (hst' : st'.Coherent) {source : PaymentStatus}
    {time : Time.Instant} (htime : ∀ τ, st'.paidAt = some τ → time = τ) :
    s.moving p t ⟨source, st'.paymentStatus, time⟩ = s.showing p t st' := by
  have hk : p.ticketId = t.id :=
    (h.coherent.paymentForTicket_iff.1 h.payment).2.trans (h.coherent.ticket_key h.ticket).symm
  have hpaidAt : (⟨source, st'.paymentStatus, time⟩ : Transition).paidAt = st'.paidAt := by
    have hpaid := hst'.paid
    cases hτ : st'.paidAt <;> simp_all [Transition.paidAt]
  rw [moving, showing, moved, hpaidAt, hk, hst'.ticket]

end Shows

end Store

/-! ### Runs -/

namespace Service

open Lifecycle

theorem Loaded.gist {h : List Turn} (hl : Loaded [] h) : gist h.reverse = [] := by
  obtain ⟨new, rfl, hnew⟩ := hl
  refine List.filter_eq_nil_iff.2 fun t ht => ?_
  have hread : t.request.isRead := hnew t (by simpa using ht)
  cases hr : t.request <;> simp_all [Request.isRead, Request.isAside]

/-- Nothing is stored by the errands that a decision asks for. -/
theorem errands_keep (env : Setting) (st : Lifecycle) (action : LifecycleAction) (w : Surroundings)
    (s : Store) (h : List Turn) :
    Keeps w (fun _ _ => True) (performAll (reduce env st action).2) s h := by
  have hgives := performAll_gives fun e (he : e ∈ (reduce env st action).2) => reduce_effects he
  obtain ⟨produced, h', hrun, -⟩ := hgives.idle.keeps w s h
  exact ⟨produced, h', hrun, trivial⟩

variable {s : Store} {p : Payment} {t : Ticket}

section Steps

variable {o : Lifecycle.Outcome} (hst : o.state.Coherent) (hs : s.Shows p t o.state)

include hst hs

/-- The records show a decision that was stored. -/
theorem storeDecision_shows (w : Surroundings) (h : List Turn) (env : Setting)
    (action : LifecycleAction) :
    Ends w (fun x s' _ => s' = s.showing p t (reduce env o.state action).1 ∧
        x = .ok ⟨(reduce env o.state action).1,
          (reduce env o.state action).1.paymentStatus ≠ o.state.paymentStatus⟩)
      (storeDecision (reduce env o.state action).1 o.state.paymentStatus).run s h := by
  have hk : (reduce env o.state action).1.ticketId = o.state.ticketId := reduce_ticketId
  unfold storeDecision
  split
  · next hchange =>
    rw [hs.status]
    refine (persist_alone hs.coherent (hk ▸ hs.payment) (hk ▸ hs.ticket) w h).mono ?_
    rintro _ _ _ - ⟨rfl, -, time, rfl, htime⟩
    exact ⟨hs.moving_eq (hst.reduce env action) htime, by simp [← hs.status, hchange]⟩
  · next hsame =>
    have hsame := Decidable.of_not_not hsame
    obtain ⟨hticket, hpaid⟩ := reduce_same hsame
    exact ⟨_, s, h, rfl, (hs.showing_eq hsame hticket hpaid).symm, by simp [hsame]⟩

/-- The records show an action that was taken. The error of a decision is reported, not kept. -/
theorem takeOne_shows (setup : Setup) (w : Surroundings) (h : List Turn) (action : LifecycleAction)
    (taken : List (Setting × LifecycleAction)) :
    Ends w (fun v s' _ => ∃ now, v.taken = taken ++ [(setting setup now, action)] ∧
        s' = s.showing p t (reduce (setting setup now) o.state action).1 ∧
        v.result = .ok ⟨(reduce (setting setup now) o.state action).1.withoutError, o.persisted ||
          (reduce (setting setup now) o.state action).1.paymentStatus ≠ o.state.paymentStatus⟩)
      (takeOne setup ⟨.ok o, taken, [action]⟩) s h := by
  obtain ⟨_, h₁, hcount, -⟩ := countErrand_alone w s h action
  obtain ⟨_, _, h₂, hstored, rfl, rfl⟩ :=
    storeDecision_shows hst hs w (⟨.now, w h₁ .now⟩ :: h₁) (setting setup (w h₁ .now)) action
  obtain ⟨produced, h₃, hproduced, -⟩ :=
    errands_keep (setting setup (w h₁ .now)) o.state action w (s.showing p t _) h₂
  unfold takeOne
  refine .seq hcount (.seq rfl (.seq hstored (.seq hproduced ?_)))
  exact ⟨_, _, _, rfl, w h₁ .now, rfl, rfl, rfl⟩

end Steps

/-- The records show what a chain of actions makes of the lifecycle. -/
theorem watch_shows {n : Nat} {action : LifecycleAction} (hn : chainLength action ≤ n)
    {o : Lifecycle.Outcome} (hst : o.state.Coherent) (hs : s.Shows p t o.state) (setup : Setup)
    (w : Surroundings) (h : List Turn) (taken : List (Setting × LifecycleAction)) :
    Ends w (fun v s' _ => ∃ more st, v.taken = taken ++ more ∧ s' = s.showing p t st ∧
        st = (o.state.after more).withoutError ∧
        v.result = .ok ⟨st, o.persisted || st.paymentStatus ≠ p.status⟩)
      (watch setup n ⟨.ok o, taken, [action]⟩) s h := by
  induction n generalizing action o taken h with
  | zero => cases action <;> simp [chainLength] at hn
  | succ n ih =>
    obtain ⟨v, _, h₁, hrun, now, htaken, rfl, hresult⟩ :=
      takeOne_shows hst hs setup w h action taken
    obtain ⟨_, _, _, hrun', turns, -, htakes⟩ := (takeOne_takes setup o action taken).ends w s h
    cases hrun.symm.trans hrun'
    refine .seq hrun ?_
    generalize gist turns = essence at htakes
    cases htakes with
    | last =>
      rw [watch_of_takeOne (takeOne_nil ..)]
      refine ⟨_, _, _, rfl, [(setting setup now, action)],
        (reduce (setting setup now) o.state action).1.withoutError, htaken, rfl, rfl, ?_⟩
      rw [← hs.status]
      exact hresult
    | @more s' report now' errand _ decided done =>
      have hnow : setting setup now' = setting setup now := by
        simpa using List.append_cancel_left htaken
      rw [hnow] at decided
      have hreduce : (reduce (setting setup now) o.state action).1 = s' :=
        congrArg Prod.fst decided
      have hsends := (sends_of_reduce decided).2
      have hstatus := hsends.paymentStatus
      obtain ⟨hticket, hpaid⟩ := reduce_same (hreduce ▸ hstatus)
      rw [hreduce] at hticket hpaid ⊢
      -- nothing is stored for an errand, and the rest of the chain is shorter
      have hst' : s'.withoutError.Coherent := (hreduce ▸ hst.reduce _ _).withoutError
      have hs' : s.Shows p t s'.withoutError := hs.of_same hsends.ticketId hstatus hticket hpaid
      have hreport := done.chainLength_le
      have hless := hsends.chainLength_lt
      rw [hs.showing_eq hstatus hticket hpaid]
      refine (ih (by omega) hst' hs' h₁ _).mono ?_
      rintro v _ _ - ⟨more, st, hmore, rfl, hst, hv⟩
      have hafter : o.state.after ((setting setup now, action) :: more) = s'.after more := by
        rw [← hreduce]
        rfl
      refine ⟨(setting setup now, action) :: more, st, ?_, rfl, ?_, hv⟩
      · rw [hmore, hnow, List.append_assoc]
        rfl
      · rw [hafter, hst]
        exact after_withoutError s' more

/-- An action on the stored lifecycle of a ticket, run alone, comes to what its chain of actions
makes of the lifecycle, but for the error. The records of the ticket and its payment show that
afterwards, and all the rest of the store is as it was. A change counts as stored if the status is
not the one that was stored before. -/
theorem apply_simulates {k : TicketId} (hs : s.Coherent) (hp : s.paymentForTicket k = some p)
    (ht : s.tickets.find? k = some t) (setup : Setup) (action : LifecycleAction)
    (w : Surroundings) :
    ∃ o turns steps, (apply setup k action).run.alone w s [] =
        ⟨some (.ok o), s.showing p t o.state, turns.reverse⟩ ∧
      Chain setup (.ofRecords t p) action (gist turns) steps ∧
      o.state = ((Lifecycle.ofRecords t p).after steps).withoutError ∧
      (o.persisted ↔ o.state.paymentStatus ≠ p.status) := by
  obtain ⟨hshows, hcoherent⟩ := hs.shows hp ht
  have hlength := Nat.le_refl (chainLength action)
  have hends : Ends w (fun x s' h' => ∃ o turns steps, x = .ok o ∧ s' = s.showing p t o.state ∧
      h' = turns.reverse ∧ Chain setup (.ofRecords t p) action (gist turns) steps ∧
      o.state = ((Lifecycle.ofRecords t p).after steps).withoutError ∧
      (o.persisted ↔ o.state.paymentStatus ≠ p.status)) (apply setup k action).run s [] := by
    apply apply_ends
    case hmissing =>
      rintro (hnone | hnone)
      · cases ht.symm.trans hnone
      · cases hp.symm.trans hnone
    case hrun =>
      intro t' p' ht' hp' h₁ hloaded
      cases ht.symm.trans ht'
      cases hp.symm.trans hp'
      obtain ⟨v, _, h₂, hrun, steps, st, hsteps, rfl, hst, hresult⟩ :=
        watch_shows (o := ⟨.ofRecords t p, false⟩) hlength hcoherent hshows setup w h₁ []
      obtain ⟨_, _, _, hrun', turns, rfl, -, _, hsteps', hchain⟩ :=
        (watch_chain hlength ⟨.ofRecords t p, false⟩ []).ends w s h₁
      cases hrun.symm.trans hrun'
      cases hsteps.symm.trans hsteps'
      rw [run_eq_watch hlength]
      refine .seq hrun ⟨_, _, _, rfl, _, h₁.reverse ++ turns, steps, hresult, rfl, ?_, ?_, hst, ?_⟩
      · rw [List.reverse_append, List.reverse_reverse]
      · rw [gist_append, hloaded.gist, List.nil_append]
        exact hchain
      · simp
  obtain ⟨_, _, _, hrun, o, turns, steps, rfl, rfl, rfl, h⟩ := hends
  exact ⟨o, turns, steps, hrun, h⟩

/-- A payment is routed to a provider that does not take the request, and fails. -/
theorem apply_simulates_twoSales :
    let c : DispatchContext := ⟨⟨⟨2⟩⟩, ⟨"a", "b"⟩, "a", ⟨5⟩, default, "", "", none⟩
    let w : Surroundings := fun _ => Office.Outside.answer { delivers := false }
    ∃ p t o turns steps, Store.twoSales.Coherent ∧
      Store.twoSales.paymentForTicket c.ticketId = some p ∧
      Store.twoSales.tickets.find? c.ticketId = some t ∧
      (apply Office.sampleSetup c.ticketId (.dispatch c)).run.alone w Store.twoSales [] =
        ⟨some (.ok o), Store.twoSales.showing p t o.state, turns.reverse⟩ ∧
      Chain Office.sampleSetup (.ofRecords t p) (.dispatch c) (gist turns) steps ∧
      o.persisted ∧ o.state.paymentStatus = .failed ∧ p.status = .pending := by
  intro c w
  have hs := Store.twoSales_reachable.reachable.coherent
  obtain ⟨p, hp⟩ : ∃ p, Store.twoSales.paymentForTicket c.ticketId = some p :=
    Option.isSome_iff_exists.1 (by decide +kernel)
  obtain ⟨t, ht⟩ : ∃ t, Store.twoSales.tickets.find? c.ticketId = some t :=
    Option.isSome_iff_exists.1 (by decide +kernel)
  obtain ⟨o, turns, steps, hrun, hchain, -, hpersisted⟩ :=
    apply_simulates hs hp ht Office.sampleSetup (.dispatch c) w
  have hpending : (Store.twoSales.paymentForTicket c.ticketId).map (·.status) = some .pending := by
    decide +kernel
  have hfailed : ((apply Office.sampleSetup c.ticketId (.dispatch c)).run.alone w Store.twoSales
      []).result.bind (·.toOption.map (·.state.paymentStatus)) = some .failed := by
    decide +kernel
  rw [hp] at hpending
  rw [hrun] at hfailed
  have hpending : p.status = .pending := Option.some.inj hpending
  have hfailed : o.state.paymentStatus = .failed := Option.some.inj hfailed
  have hchanged : o.persisted := hpersisted.2 (by rw [hfailed, hpending]; decide)
  exact ⟨p, t, o, turns, steps, hs, hp, ht, hrun, hchain, hchanged, hfailed, hpending⟩

end Service

end BoxOffice
