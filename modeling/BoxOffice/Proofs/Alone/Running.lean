import BoxOffice.Proofs.Program.Alone
import BoxOffice.Proofs.Service.Running
import BoxOffice.Proofs.Store.Outcome

/-! A lifecycle that is run alone. The records that are loaded are those that a change of status
finds, so the change is stored. -/

namespace BoxOffice

open Program

/-- The request reads the store. -/
def Request.isRead : Request → Bool
  | .store c => c.reads
  | _ => false

namespace Store

/-- The store after a change of status of a payment and its ticket. -/
def moving (s : Store) (p : Payment) (t : Ticket) (tr : Transition) : Store :=
  { s with
    payments := s.payments.set p.id (moved p tr)
    tickets := s.tickets.set p.ticketId
      { t with status := tr.target.ticketStatus, paidAt := tr.paidAt } }

theorem perform_applyTransition {s : Store} (hs : s.Coherent) {p : Payment} {t : Ticket}
    {k : TicketId} (hp : s.paymentForTicket k = some p) (ht : s.tickets.find? k = some t)
    (tr : Transition) (hsource : p.status = tr.source) :
    s.perform (.applyTransition k tr) = (.ok true, s.moving p t tr) := by
  obtain ⟨hfind, rfl⟩ := hs.paymentForTicket_iff.1 hp
  simp only [perform, applyTransition, hp, hsource, ne_eq, not_true, if_false, changed,
    Table.modify_of_find hfind, Table.modify_of_find ht]
  rfl

end Store

namespace Service

open Lifecycle

variable {setup : Setup} {w : Surroundings} {s : Store} {h : List Turn} {k : TicketId}
  {p : Payment} {t : Ticket} {st : Lifecycle} {action : LifecycleAction}

/-- Only requests that ask nobody outside come between the two histories. -/
abbrev Inner (h h' : List Turn) : Prop := Since (fun r => r.isInner) h h'

/-- Only reads of the store come between the two histories. -/
abbrev Loaded (h h' : List Turn) : Prop := Since (fun r => r.isRead) h h'

theorem Loaded.inner {h h' : List Turn} (hl : Loaded h h') : Inner h h' := by
  refine hl.mono fun r hr => ?_
  cases r <;> first | rfl | cases hr

theorem Loaded.idle {h h' : List Turn} (hl : Loaded h h') : Idle h h' := by
  refine hl.mono fun r hr => ?_
  cases r <;> first | exact hr | cases hr

theorem countErrand_alone (w : Surroundings) (s : Store) (h : List Turn)
    (action : LifecycleAction) : Keeps w (fun _ h' => Inner h h') (countErrand action) s h := by
  unfold countErrand
  split
  · exact ⟨_, _, rfl, (Since.refl h).cons rfl⟩
  · exact ⟨_, _, rfl, .refl h⟩

theorem changeTime_alone (w : Surroundings) (s : Store) (h : List Turn) (st : Lifecycle) :
    Keeps w (fun time h' => (∀ τ, st.paidAt = some τ → time = τ) ∧ Inner h h') (changeTime st)
      s h := by
  unfold changeTime
  split
  · next τ hτ => exact ⟨τ, h, rfl, fun _ hτ' => Option.some.inj (hτ.symm.trans hτ'), .refl h⟩
  · next hnone =>
    refine ⟨_, _, rfl, fun τ hτ => ?_, (Since.refl h).cons rfl⟩
    cases hnone.symm.trans hτ

/-- A change of status is stored when the payment has the status that it starts from. -/
theorem persist_alone (hs : s.Coherent) (hp : s.paymentForTicket st.ticketId = some p)
    (ht : s.tickets.find? st.ticketId = some t) (w : Surroundings) (h : List Turn) :
    Ends w (fun x s' h' => x = .ok ⟨st, true⟩ ∧ Inner h h' ∧ ∃ time,
      s' = s.moving p t ⟨p.status, st.paymentStatus, time⟩ ∧ ∀ τ, st.paidAt = some τ → time = τ)
      (persist st p.status).run s h := by
  obtain ⟨time, h₁, htime, hpaid, hinner⟩ := changeTime_alone w s h st
  have hstored := Store.perform_applyTransition hs hp ht ⟨p.status, st.paymentStatus, time⟩ rfl
  unfold persist
  refine .ok (alone_lift htime) (.ok (alone_store hstored) ?_)
  exact ⟨_, _, _, rfl, rfl, (hinner.cons rfl).cons rfl, time, rfl, hpaid⟩

/-- One turn of the loop. -/
theorem drain_cons_alone {fuel : Nat} {o stored : Lifecycle.Outcome}
    {rest produced : List LifecycleAction} {h₁ h₂ h₃ : List Turn} {s₁ : Store}
    {done : Except StoreError Lifecycle.Outcome → Store → List Turn → Prop}
    (hcount : (countErrand action).alone w s h = ⟨some (), s, h₁⟩)
    (hstored : (storeDecision (reduce ⟨w h₁ .now, setup.receiver, setup.versions⟩ o.state
      action).1 o.state.paymentStatus).run.alone w s (⟨.now, w h₁ .now⟩ :: h₁) =
      ⟨some (.ok stored), s₁, h₂⟩)
    (hproduced : (performAll (reduce ⟨w h₁ .now, setup.receiver, setup.versions⟩ o.state
      action).2).alone w s₁ h₂ = ⟨some produced, s₁, h₃⟩)
    (hrest : Ends w done (drain setup fuel ⟨{ stored.state with lastError := none },
      o.persisted || stored.persisted⟩ (rest ++ produced)).run s₁ h₃) :
    Ends w done (drain setup (fuel + 1) o (action :: rest)).run s h := by
  unfold drain
  exact .ok (alone_lift hcount) (.ok rfl (.ok hstored (.ok (alone_lift hproduced) hrest)))

theorem drain_nil (setup : Setup) (fuel : Nat) (o : Lifecycle.Outcome) :
    drain setup fuel o [] = pure o := by
  cases fuel <;> rfl

/-! ### Actions without an errand -/

theorem chainLength_eq_succ (action : LifecycleAction) : ∃ n, chainLength action = n + 1 := by
  cases action <;> exact ⟨_, rfl⟩

/-- After a decision that asks for no errand there is nothing to do but store it. -/
theorem run_alone (hreduce : ∀ env, (reduce env st action).2 = [])
    {done : Except StoreError Lifecycle.Outcome → Store → List Turn → Prop}
    (hstore : ∀ env h₁, Inner h h₁ → Ends w (fun x s' h' => ∃ o, x = .ok o ∧
        done (.ok ⟨{ o.state with lastError := none }, o.persisted⟩) s' h')
      (storeDecision (reduce env st action).1 st.paymentStatus).run s h₁) :
    Ends w done (run setup st action).run s h := by
  obtain ⟨n, hn⟩ := chainLength_eq_succ action
  obtain ⟨_, h₁, hcount, hinner⟩ := countErrand_alone w s h action
  obtain ⟨_, s', h', hstored, o, rfl, hdone⟩ :=
    hstore ⟨w h₁ .now, setup.receiver, setup.versions⟩ (⟨.now, w h₁ .now⟩ :: h₁) (hinner.cons rfl)
  rw [run, hn]
  refine drain_cons_alone hcount hstored (by rw [hreduce]; rfl) ?_
  rw [List.append_nil, drain_nil, Bool.false_or]
  exact ⟨_, _, _, rfl, hdone⟩

/-! ### Actions on stored records -/

/-- The records of a ticket are loaded. What is missing is told by an error. -/
theorem apply_ends {done : Except StoreError Lifecycle.Outcome → Store → List Turn → Prop}
    (hmissing : s.tickets.find? k = none ∨ s.paymentForTicket k = none →
      ∀ e h₁, Loaded h h₁ → done (.error e) s h₁)
    (hrun : ∀ t p, s.tickets.find? k = some t → s.paymentForTicket k = some p →
      ∀ h₁, Loaded h h₁ → Ends w done (run setup (.ofRecords t p) action).run s h₁) :
    Ends w done (apply setup k action).run s h := by
  have hticket : s.perform (.ticket k) = (.ok (s.tickets.find? k), s) := rfl
  have hpayment : s.perform (.paymentForTicket k) = (.ok (s.paymentForTicket k), s) := rfl
  have hloaded : Loaded h (.call (.ticket k) (.ok (s.tickets.find? k)) :: h) :=
    (Since.refl h).cons rfl
  have hloaded' : Loaded h (.call (.paymentForTicket k) (.ok (s.paymentForTicket k)) ::
      .call (.ticket k) (.ok (s.tickets.find? k)) :: h) := hloaded.cons rfl
  unfold apply
  refine .ok (alone_store hticket) ?_
  generalize s.tickets.find? k = found at hmissing hrun hloaded hloaded' ⊢
  cases found with
  | none => exact .error rfl (hmissing (.inl rfl) _ _ hloaded)
  | some t =>
    refine .ok rfl (.ok (alone_store hpayment) ?_)
    generalize s.paymentForTicket k = found at hmissing hrun hloaded' ⊢
    cases found with
    | none => exact .error rfl (hmissing (.inr rfl) _ _ hloaded')
    | some p => exact .ok rfl (hrun t p rfl rfl _ hloaded')

theorem apply_missing (hp : s.paymentForTicket k = none) (setup : Setup) (action : LifecycleAction)
    (w : Surroundings) (h : List Turn) :
    Keeps w (fun x h' => (∃ e, x = .error e) ∧ Inner h h') (apply setup k action).run s h := by
  refine Ends.keeps (apply_ends (fun _ e h₁ hloaded => ⟨rfl, ⟨e, rfl⟩, hloaded.inner⟩) ?_)
  intro t p _ hp'
  cases hp.symm.trans hp'

section Apply

variable (hs : s.Coherent) (hp : s.paymentForTicket k = some p) (ht : s.tickets.find? k = some t)

include hp ht

theorem apply_alone {done : Except StoreError Lifecycle.Outcome → Store → List Turn → Prop}
    (hrun : ∀ h₁, Inner h h₁ → Ends w done (run setup (.ofRecords t p) action).run s h₁) :
    Ends w done (apply setup k action).run s h := by
  refine apply_ends (fun hnone => ?_) fun t' p' ht' hp' h₁ hloaded => ?_
  · rcases hnone with hnone | hnone
    · cases ht.symm.trans hnone
    · cases hp.symm.trans hnone
  · cases ht.symm.trans ht'
    cases hp.symm.trans hp'
    exact hrun h₁ hloaded.inner

/-- An action that is refused, or changes nothing, is not stored. -/
theorem apply_kept (hreduce : ∀ env, ∃ error,
      reduce env (.ofRecords t p) action = ({ ofRecords t p with lastError := error }, []))
    (setup : Setup) (w : Surroundings) (h : List Turn) :
    Keeps w (fun x h' => x = .ok ⟨{ ofRecords t p with lastError := none }, false⟩ ∧ Inner h h')
      (apply setup k action).run s h := by
  refine Ends.keeps (apply_alone hp ht fun h₁ hloaded => run_alone (fun env => ?_)
    fun env h₂ hinner => ?_)
  · obtain ⟨error, hred⟩ := hreduce env
    rw [hred]
  · obtain ⟨error, hred⟩ := hreduce env
    rw [hred, storeDecision, if_neg (not_not_intro rfl)]
    exact ⟨_, _, _, rfl, _, rfl, rfl, rfl, hloaded.trans hinner⟩

include hs

/-- A change of status is stored, and no error is left. -/
theorem apply_changes {st' : Lifecycle}
    (hreduce : ∀ env, reduce env (.ofRecords t p) action = (st', []))
    (hchange : st'.paymentStatus ≠ p.status) (setup : Setup) (w : Surroundings) (h : List Turn) :
    Ends w (fun x s' h' => x = .ok ⟨{ st' with lastError := none }, true⟩ ∧ Inner h h' ∧
        ∃ time, s' = s.moving p t ⟨p.status, st'.paymentStatus, time⟩ ∧
          ∀ τ, st'.paidAt = some τ → time = τ)
      (apply setup k action).run s h := by
  have hid : st'.ticketId = k := by
    have hst := congrArg Prod.fst (hreduce ⟨default, setup.receiver, []⟩)
    exact (congrArg ticketId hst).symm.trans (reduce_ticketId.trans (hs.ticket_key ht))
  have hstatus : st'.paymentStatus ≠ (ofRecords t p).paymentStatus := hchange
  refine apply_alone hp ht fun h₁ hloaded => run_alone (fun env => by rw [hreduce])
    fun env h₂ hinner => ?_
  rw [hreduce, storeDecision, if_pos hstatus]
  obtain ⟨_, s', h', hstored, rfl, hinner', hmoved⟩ :=
    persist_alone hs (hid ▸ hp) (hid ▸ ht) w h₂
  exact ⟨_, s', h', hstored, _, rfl, rfl, (hloaded.trans hinner).trans hinner', hmoved⟩

end Apply

end Service

end BoxOffice
