import BoxOffice.Proofs.Alone.Running

/-! An action that closes a payment, run alone. It changes the status of one payment once at most,
and counts the change if it is stored. Whatever follows from its errands finds the payment
closed. -/

namespace BoxOffice

open Program

namespace Service

open Lifecycle

variable {setup : Setup} {w : Surroundings} {s s' : Store} {h h' h'' : List Turn} {k : TicketId}
  {target : PaymentStatus} {b : List Counter} {action : LifecycleAction}

/-- What a part of a run came to that closes the payment of a ticket; `b` are the books before. -/
inductive Closing (k : TicketId) (target : PaymentStatus) (s : Store) (b : List Counter) :
    Except StoreError Lifecycle.Outcome → Store → List Turn → Prop
  | kept {x : Except StoreError Lifecycle.Outcome} {h : List Turn}
      (unpersisted : ∀ o, x = .ok o → o.persisted = false) (unbooked : booked h = b) :
      Closing k target s b x s h
  | closed {o : Lifecycle.Outcome} {time : Time.Instant} {s' : Store} {h : List Turn}
      (performed : s.perform (.applyTransition k ⟨.pending, target, time⟩) = (.ok true, s'))
      (persisted : o.persisted = true) (booked : booked h = .payments target :: b) :
      Closing k target s b (.ok o) s' h

theorem Closing.of_error {e : StoreError} (hbooked : booked h = b) :
    Closing k target s b (.error e) s h := by
  refine .kept (fun o ho => ?_) hbooked
  cases ho

theorem Closing.of_unpersisted {o : Lifecycle.Outcome} (hp : o.persisted = false)
    (hbooked : booked h = b) : Closing k target s b (.ok o) s h := by
  refine .kept (fun o' ho => ?_) hbooked
  cases ho
  exact hp

/-- Idle turns may come after. -/
theorem Closing.idle {o o' : Lifecycle.Outcome} (hc : Closing k target s b (.ok o) s' h)
    (hi : Idle h h') (hp : o'.persisted = o.persisted) : Closing k target s b (.ok o') s' h' := by
  cases hc with
  | kept hkept hbooked =>
    refine .kept ?_ (hi.booked_eq.trans hbooked)
    rintro _ ⟨⟩
    exact hp.trans (hkept o rfl)
  | closed hperformed hpersisted hbooked =>
    exact .closed hperformed (hp.trans hpersisted) (hi.booked_eq.trans hbooked)

/-! ### One change -/

/-- A change from pending that is not made finds no pending payment. -/
theorem closed_of_overtaken {tr : Transition} (hsource : tr.source = .pending)
    (hperform : s.perform (.applyTransition k tr) = (.ok false, s')) :
    s' = s ∧ ∀ p, s.paymentForTicket k = some p → p.status ≠ .pending := by
  simp only [Store.perform, Store.applyTransition] at hperform
  cases hp : s.paymentForTicket k with
  | none =>
    rw [hp] at hperform
    cases hperform
  | some p =>
    simp only [hp, hsource] at hperform
    split at hperform
    · next hclosed =>
      cases hperform
      refine ⟨rfl, fun q hq => ?_⟩
      cases hq
      exact hclosed
    · cases hperform

/-- A change to `target` is stored and counted, or another came before it. The state that is gone on
with is not pending in either case. -/
theorem persist_closing {st : Lifecycle} (hk : st.ticketId = k) (ht : st.paymentStatus = target)
    (hopen : target ≠ .pending) (hbooked : booked h = b) (w : Surroundings) (s : Store) :
    Ends w (fun x s' h' => Closing k target s b x s' h' ∧
        ∀ o, x = .ok o → o.state.paymentStatus ≠ .pending)
      (persist st .pending).run s h := by
  subst hk ht
  unfold persist
  obtain ⟨time, h₁, htime, -, hi₁⟩ := (changeTime_gives st).idle.keeps w s h
  refine .ok (alone_lift htime) ?_
  obtain ⟨x, s', hperform⟩ : ∃ x s', s.perform
    (.applyTransition st.ticketId ⟨.pending, st.paymentStatus, time⟩) = (x, s') := ⟨_, _, rfl⟩
  have hbooked : booked (.call (.applyTransition st.ticketId
      ⟨.pending, st.paymentStatus, time⟩) x :: h₁) = b := hi₁.booked_eq.trans hbooked
  cases x with
  | error e =>
    cases Store.perform_error hperform
    refine .error (alone_store hperform) ⟨.of_error hbooked, fun o ho => ?_⟩
    cases ho
  | ok stored =>
    refine .ok (alone_store hperform) ?_
    cases stored with
    | true =>
      refine .ok (alone_lift rfl) ⟨_, _, _, rfl, .closed hperform rfl ?_, ?_⟩
      · exact (booked_cons_count rfl _).trans (congrArg _ hbooked)
      · rintro _ ⟨⟩
        exact hopen
    | false =>
      obtain ⟨rfl, hclosed⟩ := closed_of_overtaken rfl hperform
      have hfound : s'.perform (.paymentForTicket st.ticketId) =
          (.ok (s'.paymentForTicket st.ticketId), s') := rfl
      refine .ok (alone_store hfound) ?_
      generalize s'.paymentForTicket st.ticketId = found at hclosed
      cases found with
      | none =>
        refine ⟨_, _, _, rfl, .of_unpersisted rfl hbooked, ?_⟩
        rintro _ ⟨⟩
        exact hopen
      | some p =>
        refine ⟨_, _, _, rfl, .of_unpersisted rfl hbooked, ?_⟩
        rintro _ ⟨⟩
        exact hclosed p rfl

/-! ### Whole actions -/

/-- Nothing more is stored of a lifecycle that is not pending. -/
theorem drain_closed {fuel : Nat} {o : Lifecycle.Outcome} {actions : List LifecycleAction}
    {persisted : Bool} (hopen : target ≠ .pending) (hclosed : o.state.paymentStatus ≠ .pending)
    (hp : o.persisted = persisted) (ha : ∀ a ∈ actions, a.target = target) :
    (drain setup fuel o actions).run.Gives (fun r => r.isIdle) fun x =>
      ∃ o', x = .ok o' ∧ o'.persisted = persisted := by
  induction fuel generalizing o actions with
  | zero => exact ⟨o, rfl, hp⟩
  | succ fuel ih =>
    cases actions with
    | nil => exact ⟨o, rfl, hp⟩
    | cons action rest =>
      obtain ⟨rfl, hrest⟩ := List.forall_mem_cons.1 ha
      have hkept : ∀ env, (reduce env o.state action).1.paymentStatus = o.state.paymentStatus :=
        fun env => Decidable.not_not.1 fun hne => hclosed (reduce_paymentStatus hopen hne).1
      have hdecision : ∀ env, (storeDecision (reduce env o.state action).1
          o.state.paymentStatus).run.Gives (fun r => r.isIdle) fun x =>
            x = .ok ⟨(reduce env o.state action).1, false⟩ := by
        intro env
        rw [storeDecision, if_neg (not_not_intro (hkept env))]
        exact rfl
      unfold drain
      refine Gives.lift (countErrand_gives action).idle fun _ _ => ?_
      refine Gives.lift now_gives.idle fun now _ => ?_
      refine Gives.andThen (hdecision _) (fun stored hstored => ?_) fun e he => by cases he
      cases hstored
      refine Gives.lift (performAll_gives fun _ => reduce_effects).idle fun produced hproduced => ?_
      refine ih ?_ ((Bool.or_false _).trans hp) ?_
      · exact fun hpending => hclosed ((hkept _).symm.trans hpending)
      · exact fun a hm => (List.mem_append.1 hm).elim (hrest a) (hproduced a)

/-- One turn of the loop: all but storing the decision is idle. -/
theorem drain_cons_ends {fuel : Nat} {o : Lifecycle.Outcome} {rest : List LifecycleAction}
    {done : Except StoreError Lifecycle.Outcome → Store → List Turn → Prop}
    (hdecision : ∀ env h₁, Idle h h₁ → Ends w (fun x s₁ h₂ =>
        (∀ e, x = .error e → done (.error e) s₁ h₂) ∧
        ∀ stored, x = .ok stored → ∀ produced h₃, Idle h₂ h₃ →
          (∀ a ∈ produced, a.target = action.target) →
          Ends w done (drain setup fuel ⟨{ stored.state with lastError := none },
            o.persisted || stored.persisted⟩ (rest ++ produced)).run s₁ h₃)
      (storeDecision (reduce env o.state action).1 o.state.paymentStatus).run s h₁) :
    Ends w done (drain setup (fuel + 1) o (action :: rest)).run s h := by
  obtain ⟨_, h₁, hcount, -, hi₁⟩ := (countErrand_gives action).idle.keeps w s h
  obtain ⟨x, s₁, h₂, hstored, herror, hok⟩ :=
    hdecision ⟨w h₁ .now, setup.receiver, setup.versions⟩ (⟨.now, w h₁ .now⟩ :: h₁) (hi₁.cons rfl)
  unfold drain
  refine .ok (alone_lift hcount) (.ok rfl ?_)
  cases x with
  | error e => exact .error hstored (herror e rfl)
  | ok stored =>
    obtain ⟨produced, h₃, hproduced, htargets, hi₃⟩ :=
      (performAll_gives fun _ => reduce_effects).idle.keeps w s₁ h₂
    exact .ok hstored (.ok (alone_lift hproduced) (hok stored rfl produced h₃ hi₃ htargets))

/-- Actions that close a payment with one status change it once at most. -/
theorem drain_closing {fuel : Nat} {o : Lifecycle.Outcome} {actions : List LifecycleAction}
    (hopen : target ≠ .pending) (hk : o.state.ticketId = k) (hp : o.persisted = false)
    (ha : ∀ a ∈ actions, a.target = target) (hbooked : booked h = b) :
    Ends w (Closing k target s b) (drain setup fuel o actions).run s h := by
  induction fuel generalizing o actions h with
  | zero => exact ⟨_, _, _, rfl, .of_unpersisted hp hbooked⟩
  | succ fuel ih =>
    cases actions with
    | nil => exact ⟨_, _, _, rfl, .of_unpersisted hp hbooked⟩
    | cons action rest =>
      obtain ⟨rfl, hrest⟩ := List.forall_mem_cons.1 ha
      have hmore : ∀ produced : List LifecycleAction, (∀ a ∈ produced, a.target = action.target) →
          ∀ a ∈ rest ++ produced, a.target = action.target :=
        fun _ hproduced a hm => (List.mem_append.1 hm).elim (hrest a) (hproduced a)
      refine drain_cons_ends fun env h₁ hi₁ => ?_
      have hbooked₁ := hi₁.booked_eq.trans hbooked
      have hk' : (reduce env o.state action).1.ticketId = k := reduce_ticketId.trans hk
      rw [hp]
      unfold storeDecision
      split
      · next hchange =>
        obtain ⟨hsource, htarget⟩ := reduce_paymentStatus hopen hchange
        rw [hsource]
        obtain ⟨x, s', h₂, hstored, hclosing, hleft⟩ :=
          persist_closing hk' htarget hopen hbooked₁ w s
        refine ⟨x, s', h₂, hstored, fun e he => he ▸ hclosing, ?_⟩
        rintro stored rfl produced h₃ hi₃ hproduced
        -- the payment is closed by now, so what the errands bring changes nothing
        refine Gives.ends (drain_closed hopen (hleft stored rfl)
          (Bool.false_or stored.persisted) (hmore produced hproduced)) fun y h₄ hy hi₄ => ?_
        obtain ⟨o', rfl, ho'⟩ := hy
        exact hclosing.idle (hi₃.trans hi₄) ho'
      · refine ⟨_, _, _, rfl, nofun, ?_⟩
        rintro _ ⟨⟩ produced h₂ hi₂ hproduced
        exact ih hk' rfl (hmore produced hproduced) (hi₂.booked_eq.trans hbooked₁)

/-- An action that closes a payment changes the stored one once at most, and counts the change. -/
theorem apply_closing (hs : s.Coherent) (hopen : action.target ≠ .pending) (setup : Setup)
    (w : Surroundings) (h : List Turn) :
    Ends w (Closing k action.target s (booked h)) (apply setup k action).run s h := by
  refine apply_ends (fun _ e h₁ hloaded => .of_error hloaded.idle.booked_eq) ?_
  intro t p ht _ h₁ hloaded
  refine drain_closing hopen (hs.ticket_key ht) rfl (fun a ha => ?_) hloaded.idle.booked_eq
  rw [List.mem_singleton.1 ha]

end Service

end BoxOffice
