import BoxOffice.Proofs.Alone.Simulation

/-! What a lifecycle comes to when another writer may come before it. A change of status that is not
stored gives way to the payment that is found stored: its status and its time of payment are
adopted. The stage and the reason are left as they were decided, so they agree with the status that
was found only if it is of the kind that was decided. -/

namespace BoxOffice

open Program

namespace Lifecycle

/-- The stage, the time of payment and the reason say what the status says. -/
structure Truthful (s : Lifecycle) : Prop where
  settled : s.stage = .settled ↔ s.paymentStatus = .paid
  failed : s.stage = .failed ↔ s.paymentStatus = .failed ∨ s.paymentStatus = .expired
  paid : s.paidAt.isSome ↔ s.paymentStatus = .paid
  reason : s.failureReason.isSome → s.paymentStatus = .failed ∨ s.paymentStatus = .expired

/-- The lifecycle with what a stored payment says of status and time of payment. -/
def adopting (s : Lifecycle) (p : Payment) : Lifecycle :=
  { s.setStatus p.status with paidAt := p.paidAt }

variable {s : Lifecycle} {p : Payment}

namespace Truthful

theorem withoutError (hs : s.Truthful) : s.withoutError.Truthful :=
  ⟨hs.settled, hs.failed, hs.paid, hs.reason⟩

/-- An action is decided on truthfully. -/
theorem reduce (hs : s.Truthful) (env : Setting) (action : LifecycleAction) :
    (reduce env s action).1.Truthful := by
  obtain ⟨hsettled, hfailed, hpaid, hreason⟩ := hs
  have hd := decides env s action
  generalize Lifecycle.reduce env s action = decision at hd ⊢
  obtain ⟨s', effects⟩ := decision
  cases hd with
  | refused => exact ⟨hsettled, hfailed, hpaid, hreason⟩
  | reopen hclosed =>
    have hunpaid : s.paymentStatus ≠ .paid := by
      intro h
      rw [h] at hclosed
      cases hclosed
    constructor <;> simp_all [setStatus]
  | _ => constructor <;> simp_all [setStatus]

theorem after (hs : s.Truthful) (steps : List (Setting × LifecycleAction)) :
    (s.after steps).Truthful := by
  induction steps generalizing s with
  | nil => exact hs
  | cons step rest ih => exact ih (hs.reduce step.1 step.2)

end Truthful

theorem after_ticketId (s : Lifecycle) (steps : List (Setting × LifecycleAction)) :
    (s.after steps).ticketId = s.ticketId := by
  induction steps generalizing s with
  | nil => rfl
  | cons step rest ih => exact (ih _).trans reduce_ticketId

/-- A change of status sets the stage to that of the new status. -/
theorem stage_of_changed {env : Setting} {action : LifecycleAction}
    (hchange : (reduce env s action).1.paymentStatus ≠ s.paymentStatus) :
    (reduce env s action).1.stage = .ofStatus (reduce env s action).1.paymentStatus := by
  have hd := decides env s action
  generalize reduce env s action = decision at hd hchange ⊢
  obtain ⟨s', effects⟩ := decision
  cases hd with
  | refused => exact absurd rfl hchange
  | wallet => exact absurd rfl hchange
  | push => exact absurd rfl hchange
  | fallBack => exact absurd rfl hchange
  | _ => rfl

/-- What is adopted is told truthfully if it is of the kind that was decided. -/
theorem truthful_adopting (hs : s.Truthful) (hstage : s.stage = .ofStatus s.paymentStatus) :
    (s.adopting p).Truthful ↔
      Stage.ofStatus p.status = s.stage ∧ (p.paidAt.isSome ↔ p.status = .paid) := by
  constructor
  · intro hp
    have hsettled : s.stage = .settled ↔ p.status = .paid := hp.settled
    have hfailed : s.stage = .failed ↔ p.status = .failed ∨ p.status = .expired := hp.failed
    refine ⟨?_, hp.paid⟩
    cases hstatus : s.paymentStatus <;> cases hfound : p.status <;>
      simp_all [Stage.ofStatus]
  · rintro ⟨hkind, hpaid⟩
    have hreason : s.failureReason.isSome → p.status = .failed ∨ p.status = .expired := by
      intro h
      have hclosed : s.stage = .failed := hs.failed.2 (hs.reason h)
      rw [hclosed] at hkind
      revert hkind
      cases p.status <;> simp [Stage.ofStatus]
    constructor
    case paid => exact hpaid
    case reason => exact hreason
    all_goals
      simp only [adopting, setStatus, ← hkind]
      cases p.status <;> simp [Stage.ofStatus]

end Lifecycle

/-- A change of status was refused: the payment was not in the status expected. -/
def Refused (turns : List Turn) : Prop :=
  ∃ k tr, .call (.applyTransition k tr) (.ok false) ∈ turns

/-- What was found stored as the payment of a ticket, if anything was. -/
def Finds (k : TicketId) (found : Option Payment) (turns : List Turn) : Prop :=
  .call (.paymentForTicket k) (.ok found) ∈ turns

theorem Refused.of_mem {turns turns' : List Turn} (h : Refused turns)
    (hm : ∀ t ∈ turns, t ∈ turns') : Refused turns' := by
  obtain ⟨k, tr, ht⟩ := h
  exact ⟨k, tr, hm _ ht⟩

theorem refused_append {turns turns' : List Turn} :
    Refused (turns ++ turns') ↔ Refused turns ∨ Refused turns' := by
  simp only [Refused, List.mem_append, exists_or]

theorem not_refused {turns : List Turn}
    (h : ∀ t ∈ turns, ∀ k tr, t.request ≠ .store (.applyTransition k tr)) : ¬ Refused turns := by
  rintro ⟨k, tr, ht⟩
  exact h _ ht k tr rfl

theorem refused_gist {turns : List Turn} : Refused (gist turns) ↔ Refused turns := by
  constructor
  · exact fun h => h.of_mem fun _ ht => (List.mem_filter.1 ht).1
  · rintro ⟨k, tr, ht⟩
    exact ⟨k, tr, List.mem_filter.2 ⟨ht, rfl⟩⟩

/-- Nobody but the store refuses a change. -/
theorem Errand.Goes.not_refused {errand : Errand} {turns : List Turn} {report : LifecycleAction}
    (hgoes : errand.Goes turns report) : ¬ Refused turns := by
  cases hgoes <;> exact BoxOffice.not_refused (by simp)

namespace Service

open Lifecycle

variable {setup : Setup} {s decided : Lifecycle} {turns : List Turn}

/-- What is left of a decision after the turns of storing it. -/
inductive Leaves (decided : Lifecycle) (turns : List Turn) : Lifecycle → Prop
  | kept (unrefused : ¬ Refused turns) : Leaves decided turns decided
  | unfound (refused : Refused turns) (found : Finds decided.ticketId none turns) :
      Leaves decided turns decided
  | adopted {p : Payment} (refused : Refused turns)
      (found : Finds decided.ticketId (some p) turns)
      (stage : decided.stage = .ofStatus decided.paymentStatus) :
      Leaves decided turns (decided.adopting p)

theorem Leaves.append {earlier : List Turn} {left : Lifecycle} (h : Leaves decided turns left)
    (hearlier : ¬ Refused earlier) : Leaves decided (earlier ++ turns) left := by
  have hrefused : Refused turns → Refused (earlier ++ turns) := fun h => refused_append.2 (.inr h)
  cases h with
  | kept hunrefused => exact .kept fun h => (refused_append.1 h).elim hearlier hunrefused
  | unfound h hfound => exact .unfound (hrefused h) (List.mem_append_right _ hfound)
  | adopted h hfound hstage => exact .adopted (hrefused h) (List.mem_append_right _ hfound) hstage

theorem Leaves.withoutError {left : Lifecycle} (h : Leaves decided turns left) :
    Leaves decided.withoutError turns left.withoutError := by
  cases h with
  | kept hunrefused => exact .kept hunrefused
  | unfound hrefused hfound => exact .unfound hrefused hfound
  | @adopted p hrefused hfound hstage =>
    have hleft : Leaves decided.withoutError turns (decided.withoutError.adopting p) :=
      .adopted hrefused hfound hstage
    exact hleft

theorem persist_leaves {before : PaymentStatus} (hstage : s.stage = .ofStatus s.paymentStatus) :
    (persist s before).run.Always fun turns x => ∀ o, x = .ok o → Leaves s turns o.state := by
  have htime : (changeTime s).Always fun turns _ => ¬ Refused turns := by
    unfold changeTime
    split
    · exact not_refused (by simp)
    · exact fun _ => not_refused (by simp)
  unfold persist
  rw [run_lift_bind]
  apply Always.bind htime
  rintro clock time hclock x
  cases x with
  | error e =>
    intro o ho
    cases ho
  | ok stored =>
    cases stored with
    | true =>
      rintro _ _ ⟨⟩
      refine .kept fun hrefused => ?_
      rcases refused_append.1 hrefused with h | ⟨k, tr, h⟩
      · exact hclock h
      · rcases List.mem_cons.1 h with h | h
        · cases h
        · cases List.mem_singleton.1 h
    | false =>
      have hrefused : ∀ more, Refused (clock ++ .call (.applyTransition s.ticketId
          ⟨before, s.paymentStatus, time⟩) (.ok false) :: more) :=
        fun more => ⟨_, _, List.mem_append_right _ List.mem_cons_self⟩
      intro found
      cases found with
      | error e =>
        intro o ho
        cases ho
      | ok p? =>
        cases p? with
        | none =>
          rintro _ ⟨⟩
          exact .unfound (hrefused _) (List.mem_append_right _ (.tail _ List.mem_cons_self))
        | some p =>
          rintro _ ⟨⟩
          exact .adopted (hrefused _) (List.mem_append_right _ (.tail _ List.mem_cons_self)) hstage

theorem storeDecision_leaves (env : Setting) (s : Lifecycle) (action : LifecycleAction) :
    (storeDecision (reduce env s action).1 s.paymentStatus).run.Always fun turns x =>
      ∀ o, x = .ok o → Leaves (reduce env s action).1 turns o.state := by
  unfold storeDecision
  split
  · next hchange => exact persist_leaves (stage_of_changed hchange)
  · rintro _ ⟨⟩
    exact .kept (not_refused (by simp))

/-- One turn of the loop. -/
theorem drain_singleton (setup : Setup) (n : Nat) (o : Lifecycle.Outcome)
    (action : LifecycleAction) :
    (drain setup (n + 1) o [action]).run =
      (countErrand action).bind fun _ => Program.now.bind fun now =>
        (storeDecision (reduce (setting setup now) o.state action).1
            o.state.paymentStatus).run.bind fun
          | .error e => .pure (.error e)
          | .ok stored => (performAll (reduce (setting setup now) o.state action).2).bind
              fun produced => (drain setup n
                ⟨stored.state.withoutError, o.persisted || stored.persisted⟩ produced).run := by
  rw [drain, run_lift_bind]
  congr 1
  funext _
  rw [run_lift_bind]
  congr 1
  funext now
  rw [run_bind]
  congr 1
  funext x
  cases x with
  | error e => rfl
  | ok stored => exact run_lift_bind ..

/-- Of all the decisions in a run only the last one may change the status, so at most one change is
refused, and nothing is decided after it. -/
theorem drain_leaves {n : Nat} {action : LifecycleAction} (hn : chainLength action ≤ n)
    (setup : Setup) (o : Lifecycle.Outcome) :
    (drain setup n o [action]).run.Always fun turns x => ∀ o', x = .ok o' →
      ∃ steps, Leaves (o.state.after steps).withoutError turns o'.state := by
  induction n generalizing action o with
  | zero => cases action <;> simp [chainLength] at hn
  | succ n ih =>
    rw [drain_singleton]
    apply Always.bind (countErrand_asks action)
    intro counts _ hcounts (now : Time.Instant)
    have hbefore : ¬ Refused (counts ++ [⟨.now, now⟩]) := by
      rw [← refused_gist, gist_append, hcounts]
      exact not_refused (by simp [gist])
    simp only [Program.bind]
    obtain ⟨s', hlast | ⟨errand, hmore⟩⟩ := reduce_errands (setting setup now) o.state action
    · have hdecision := storeDecision_leaves (setting setup now) o.state action
      rw [hlast] at hdecision ⊢
      apply Always.bind hdecision
      intro turns x hx
      cases x with
      | error e =>
        intro o' ho'
        cases ho'
      | ok stored =>
        have hleft := ((hx stored rfl).append hbefore).withoutError
        simp only [performAll, Program.bind, drain_nil]
        rintro _ ⟨⟩
        refine ⟨[(setting setup now, action)], ?_⟩
        rw [Lifecycle.after, List.foldl_cons, List.foldl_nil, hlast, List.append_nil]
        simpa using hleft
    · have hsame := (sends_of_reduce hmore).2.paymentStatus
      have hless := (sends_of_reduce hmore).2.chainLength_lt
      have hkept : storeDecision s' o.state.paymentStatus = Pure.pure ⟨s', false⟩ :=
        if_neg (not_not_intro hsame)
      rw [hmore, hkept]
      apply Always.bind (p := performAll [.future errand]) (performAll_errand errand)
      rintro turns _ ⟨report, rfl, hgoes⟩
      have hreport := hgoes.chainLength_le
      refine (ih (by omega) ⟨s'.withoutError, _⟩).mono ?_
      intro turns' x hx o' ho'
      obtain ⟨steps, hleaves⟩ := hx o' ho'
      have herrand : ¬ Refused turns := fun h => hgoes.not_refused (refused_gist.2 h)
      have hleft := (hleaves.append herrand).append hbefore
      rw [after_withoutError] at hleft
      have hafter : o.state.after ((setting setup now, action) :: steps) = s'.after steps := by
        rw [Lifecycle.after, List.foldl_cons, hmore]
        rfl
      refine ⟨(setting setup now, action) :: steps, ?_⟩
      rw [hafter]
      simpa using hleft

/-- From a truthful lifecycle a run comes to what its actions make of it, told truthfully, unless a
change of status was refused and a payment was found in its place. Then the status and the time of
payment are those of that payment, and the rest is as decided, which is told truthfully if the
status found is of the kind that was decided, and only then. -/
theorem run_adopts (hs : s.Truthful) (setup : Setup) (action : LifecycleAction) :
    (run setup s action).run.Always fun turns x => ∀ o, x = .ok o →
      ∃ steps decided, decided = (s.after steps).withoutError ∧ decided.Truthful ∧
        ((¬ Refused turns ∨ Finds s.ticketId none turns) ∧ o.state = decided ∨
          ∃ p, Refused turns ∧ Finds s.ticketId (some p) turns ∧ o.state = decided.adopting p ∧
            (o.state.Truthful ↔
              Stage.ofStatus p.status = decided.stage ∧ (p.paidAt.isSome ↔ p.status = .paid))) := by
  refine (drain_leaves (Nat.le_refl _) setup ⟨s, false⟩).mono ?_
  rintro turns x hx ⟨left, persisted⟩ ho
  obtain ⟨steps, hleaves⟩ := hx _ ho
  have htruthful := (hs.after steps).withoutError
  have hk : (s.after steps).withoutError.ticketId = s.ticketId := after_ticketId s steps
  refine ⟨steps, _, rfl, htruthful, ?_⟩
  rw [← hk]
  cases hleaves with
  | kept hunrefused => exact .inl ⟨.inl hunrefused, rfl⟩
  | unfound _ hfound => exact .inl ⟨.inr hfound, rfl⟩
  | adopted hrefused hfound hstage =>
    exact .inr ⟨_, hrefused, hfound, rfl, truthful_adopting htruthful hstage⟩

/-- The first of two sales is paid, and its payment is not pending any more. -/
def paidMeanwhile : Store :=
  (Store.twoSales.perform (.applyTransition ⟨⟨2⟩⟩ ⟨.pending, .paid, default⟩)).2

theorem paidMeanwhile_reachable : paidMeanwhile.Reachable :=
  Store.twoSales_reachable.reachable.call _ trivial

theorem pending_truthful (k : TicketId) : (Lifecycle.pending k).Truthful := by
  constructor <;> simp [Lifecycle.pending]

/-- The payment is taken to expire by somebody who loaded it before it was paid. -/
def expiredLate : Ran (Except StoreError Lifecycle.Outcome) :=
  (run Office.sampleSetup (.pending ⟨⟨2⟩⟩) (.invoiceExpired default)).run.alone
    (fun _ => Office.Outside.answer {}) paidMeanwhile []

theorem expiredLate_result : ∃ o, expiredLate.result = some (.ok o) ∧ o.state.stage = .failed ∧
    o.state.paymentStatus = .paid := by
  have hresult : (expiredLate.result.bind (·.toOption)).map
      (fun o => (o.state.stage, o.state.paymentStatus)) = some (.failed, .paid) := by
    decide +kernel
  obtain ⟨o, ho, hstate⟩ := Option.map_eq_some_iff.1 hresult
  obtain ⟨x, hx, hok⟩ := Option.bind_eq_some_iff.1 ho
  cases x with
  | error e => cases hok
  | ok o' =>
    cases hok
    exact ⟨_, hx, (Prod.mk.inj hstate).1, (Prod.mk.inj hstate).2⟩

/-- The status of the paid payment is adopted, and the stage is that of a payment that expired. -/
theorem run_adopts_expiredLate : ∃ o turns decided p, (Lifecycle.pending ⟨⟨2⟩⟩).Truthful ∧
    expiredLate.result = some (.ok o) ∧ expiredLate.turns = List.reverse turns ∧ Refused turns ∧
    Finds ⟨⟨2⟩⟩ (some p) turns ∧ o.state = Lifecycle.adopting decided p ∧
    ¬ o.state.Truthful := by
  have hs := pending_truthful ⟨⟨2⟩⟩
  obtain ⟨o, ho, hstage, hstatus⟩ := expiredLate_result
  have hfalse : ¬ o.state.Truthful := by
    intro h
    have hclosed := h.failed.1 hstage
    rw [hstatus] at hclosed
    exact hclosed.elim nofun nofun
  obtain ⟨x, s', h', hrun, turns, hturns, hx⟩ :=
    (run_adopts hs Office.sampleSetup (.invoiceExpired default)).ends
      (fun _ => Office.Outside.answer {}) paidMeanwhile []
  have hran : expiredLate = ⟨some x, s', h'⟩ := hrun
  rw [hran] at ho ⊢
  cases ho
  obtain ⟨steps, decided, -, hdecided, ⟨-, hkept⟩ | ⟨p, hrefused, hfound, hadopted, -⟩⟩ := hx o rfl
  · exact absurd (hkept ▸ hdecided) hfalse
  · refine ⟨o, turns, decided, p, hs, rfl, ?_, hrefused, hfound, hadopted, hfalse⟩
    rw [hturns, List.append_nil]

/-- A run may leave a lifecycle with the status of a payment that is paid and the stage of one that
expired. -/
theorem run_untruthful :
    ¬ ∀ (setup : Setup) (s : Lifecycle) (action : LifecycleAction) (w : Surroundings)
      (store : Store) (o : Lifecycle.Outcome), s.Truthful → store.Reachable →
      ((run setup s action).run.alone w store []).result = some (.ok o) → o.state.Truthful := by
  intro hclaim
  obtain ⟨o, ho, hstage, hstatus⟩ := expiredLate_result
  have htruthful := hclaim _ _ _ _ _ o (pending_truthful ⟨⟨2⟩⟩) paidMeanwhile_reachable ho
  have hclosed := htruthful.failed.1 hstage
  rw [hstatus] at hclosed
  exact hclosed.elim nofun nofun

end Service

end BoxOffice
