import BoxOffice.Proofs.Program.Idle
import BoxOffice.Service.Routing

/-! What running a lifecycle asks of the store. An action closes a pending payment with one status
if it changes it at all, and so do the actions that come of its errands; all the changes that are
stored are from pending to that status. -/

namespace BoxOffice

/-- The status that an action closes a pending payment with, if it changes the status at all. A
retry opens a closed one. -/
def LifecycleAction.target : LifecycleAction → PaymentStatus
  | .settlementMatched _ => .paid
  | .invoiceExpired _ => .expired
  | .retryRequested => .pending
  | _ => .failed

namespace Lifecycle

variable {env : Setting} {s : Lifecycle} {action : LifecycleAction}

theorem reduce_ticketId : (reduce env s action).1.ticketId = s.ticketId := by
  cases action <;> simp only [reduce] <;> repeat' split
  all_goals rfl

theorem reduce_paymentStatus (ha : action.target ≠ .pending)
    (hchange : (reduce env s action).1.paymentStatus ≠ s.paymentStatus) :
    s.paymentStatus = .pending ∧ (reduce env s action).1.paymentStatus = action.target := by
  revert hchange
  cases action <;> simp only [reduce] <;> repeat' split
  all_goals simp_all [reject, setStatus, LifecycleAction.target]

/-- An errand comes of a dispatch or of a wallet that failed. -/
theorem reduce_effects {e : Effect Errand LifecycleAction} (he : e ∈ (reduce env s action).2) :
    action.target = .failed ∧ ∃ errand, e = .future errand := by
  revert he
  cases action <;> simp only [reduce] <;> repeat' split
  all_goals simp_all [LifecycleAction.target]

end Lifecycle

open Program

/-! ### Errands -/

theorem Errand.push_gives (domain : String) (request : PaymentRequest) (versions : List UInt32) :
    (push domain request versions).run.Gives (fun r => r.isLight) fun _ => True := by
  have hdiscover : (Program.request (.discover domain)).Gives (fun r => r.isLight) fun _ => True :=
    ⟨rfl, fun _ => trivial⟩
  have hendpoint : ∀ o : Option String, (Program.orThrow (ProviderError.noRequestEndpoint domain)
      o).run.Gives (fun r => r.isLight) fun _ => True :=
    fun _ => gives_orThrow trivial fun _ _ => trivial
  unfold push
  refine Gives.andThen hdiscover (fun configuration _ => ?_) fun _ => id
  split
  · trivial
  · exact Gives.andThen (hendpoint _) (fun endpoint _ => ⟨rfl, fun _ => trivial⟩) fun _ => id

theorem Errand.perform_gives (errand : Errand) :
    errand.perform.Gives (fun r => r.isLight) fun a => a.target = .failed := by
  cases errand with
  | payInvoice credential invoice =>
    refine ⟨rfl, fun x => ?_⟩
    cases x <;> rfl
  | pushRequest domain request versions =>
    refine Gives.bind (push_gives domain request versions) fun x _ => ?_
    cases x <;> rfl

namespace Lifecycle

theorem performAll_gives {target : PaymentStatus} {effects : List (Effect Errand LifecycleAction)}
    (he : ∀ e ∈ effects, target = .failed ∧ ∃ errand, e = .future errand) :
    (performAll effects).Gives (fun r => r.isLight) fun as => ∀ a ∈ as, a.target = target := by
  induction effects with
  | nil =>
    intro a ha
    cases ha
  | cons e rest ih =>
    obtain ⟨rfl, errand, rfl⟩ := he _ List.mem_cons_self
    simp only [performAll, perform, bind_bind, Program.bind]
    refine Gives.bind errand.perform_gives fun a ha => ?_
    refine Gives.bind (ih fun e hm => he e (.tail _ hm)) fun as has => ?_
    exact List.forall_mem_cons.2 ⟨ha, has⟩

end Lifecycle

/-! ### Changes of status -/

/-- The requests of a run for a ticket. -/
def Works (k : TicketId) (r : Request) : Prop :=
  r.isPlain ∨ ∃ tr, r = .store (.applyTransition k tr)

/-- The payment of the ticket was changed from pending to the status. -/
def Applied (k : TicketId) (status : PaymentStatus) (h : List Turn) : Prop :=
  ∃ time, Turn.call (.applyTransition k ⟨.pending, status, time⟩) (.ok true) ∈ h

theorem Applied.cons {k : TicketId} {status : PaymentStatus} {t : Turn} {h : List Turn}
    (ha : Applied k status h) : Applied k status (t :: h) := by
  obtain ⟨time, hm⟩ := ha
  exact ⟨time, .tail _ hm⟩

theorem Applied.since {k : TicketId} {status : PaymentStatus} {kind : Request → Prop}
    {h h' : List Turn} (ha : Applied k status h) (hs : Since kind h h') : Applied k status h' := by
  obtain ⟨time, hm⟩ := ha
  exact ⟨time, hs.mem hm⟩

theorem Quiet.works {k : TicketId} {h h' : List Turn} (hs : Quiet h h') : Since (Works k) h h' :=
  hs.mono fun _ => .inl

namespace Service

open Lifecycle

theorem changeTime_gives (s : Lifecycle) :
    (changeTime s).Gives (fun r => r.isLight) fun _ => True := by
  unfold changeTime
  split
  · trivial
  · exact ⟨rfl, fun _ => trivial⟩

theorem dispatchCounter_onBooks {action : LifecycleAction} {c : Counter}
    (hc : dispatchCounter action = some c) : c.onBooks = false := by
  cases action <;> cases hc <;> rfl

theorem countErrand_gives (action : LifecycleAction) :
    (countErrand action).Gives (fun r => r.isLight) fun _ => True := by
  unfold countErrand
  split
  · next c hc =>
    have hlight : (Request.count c).isLight := by
      simp [Request.isLight, Request.isPlain, Request.isIdle, dispatchCounter_onBooks hc]
    exact ⟨hlight, fun _ => trivial⟩
  · trivial

section Run

variable {rule : Rule} {k : TicketId} {target : PaymentStatus} {h₀ h : List Turn}
  (hplain : ∀ h r, r.isPlain → rule h r)
  (hrule : ∀ h time, Since (Works k) h₀ h →
    rule h (.store (.applyTransition k ⟨.pending, target, time⟩)))

include hplain hrule

theorem persist_follows {s : Lifecycle} (hk : s.ticketId = k) (ht : s.paymentStatus = target)
    (hs : Since (Works k) h₀ h) :
    Follows rule (fun h' o => Since (Works k) h h' ∧ o.state.ticketId = k ∧
      (o.persisted → Applied k target h')) (persist s .pending) h := by
  subst hk ht
  unfold persist
  refine ((changeTime_gives s).light.plain.follows hplain).bind fun h₁ time hq => ?_
  refine (follows_store (hrule h₁ time (hs.trans hq.works))).bind fun h₂ stored hm => ?_
  obtain ⟨rfl, -⟩ := hm
  have hs₂ := hq.works.cons (.inr ⟨_, rfl⟩ : Works s.ticketId (Turn.call _ (.ok stored)).request)
  cases stored with
  | true =>
    refine ((plain_count _).follows hplain).bind fun h₃ _ hq => ?_
    exact follows_pure ⟨hs₂.trans hq.works, rfl, fun _ => ⟨time, hq.mem List.mem_cons_self⟩⟩
  | false =>
    refine (follows_store (hplain _ _ rfl)).bind fun h₃ found hm => ?_
    obtain ⟨rfl, -⟩ := hm
    have hs₃ := hs₂.cons (.inl rfl : Works s.ticketId (Turn.call _ (.ok found)).request)
    cases found with
    | none => exact follows_pure ⟨hs₃, rfl, by simp⟩
    | some p => exact follows_pure ⟨hs₃, rfl, by simp⟩

theorem storeDecision_follows {env : Setting} {s : Lifecycle} {action : LifecycleAction}
    (htarget : action.target = target) (hopen : target ≠ .pending) (hk : s.ticketId = k)
    (hs : Since (Works k) h₀ h) :
    Follows rule (fun h' o => Since (Works k) h h' ∧ o.state.ticketId = k ∧
      (o.persisted → Applied k target h'))
      (storeDecision (reduce env s action).1 s.paymentStatus) h := by
  have hk' : (reduce env s action).1.ticketId = k := reduce_ticketId.trans hk
  unfold storeDecision
  split
  · next hchange =>
    obtain ⟨hsource, htarget'⟩ := reduce_paymentStatus (htarget ▸ hopen) hchange
    rw [hsource]
    exact persist_follows hplain hrule hk' (htarget'.trans htarget) hs
  · exact follows_pure ⟨.refl h, hk', by simp⟩

theorem drain_follows (htarget : target ≠ .pending) {setup : Setup} {fuel : Nat}
    {outcome : Lifecycle.Outcome} {actions : List LifecycleAction} (hk : outcome.state.ticketId = k)
    (ha : ∀ a ∈ actions, a.target = target) (hs : Since (Works k) h₀ h)
    (hdone : outcome.persisted → Applied k target h) :
    Follows rule (fun h' o => Since (Works k) h₀ h' ∧ (o.persisted → Applied k target h'))
      (drain setup fuel outcome actions) h := by
  induction fuel generalizing outcome actions h with
  | zero => exact follows_pure ⟨hs, hdone⟩
  | succ fuel ih =>
    cases actions with
    | nil => exact follows_pure ⟨hs, hdone⟩
    | cons action rest =>
      obtain ⟨rfl, hrest⟩ := List.forall_mem_cons.1 ha
      unfold drain
      refine ((countErrand_gives action).light.plain.follows hplain).bind fun h₁ _ hq₁ => ?_
      refine (plain_now.follows hplain).bind fun h₂ now hq₂ => ?_
      have hs₂ := (hs.trans hq₁.works).trans hq₂.works
      have hdone₂ := fun hp => ((hdone hp).since hq₁).since hq₂
      refine (storeDecision_follows hplain hrule rfl htarget hk hs₂).bind fun h₃ stored hstored => ?_
      obtain ⟨hs₃, hk₃, hdone₃⟩ := hstored
      refine (follows_lift ((performAll_gives fun _ => reduce_effects).quiet hplain)).bind
        fun h₄ produced hmore => ?_
      obtain ⟨hq₄, hmore⟩ := hmore
      refine ih hk₃ ?_ ((hs₂.trans hs₃).trans hq₄.works) ?_
      · exact fun a hm => (List.mem_append.1 hm).elim (hrest a) (hmore a)
      · intro hp
        rcases Bool.or_eq_true_iff.1 hp with hp | hp
        · exact ((hdone₂ hp).since hs₃).since hq₄
        · exact (hdone₃ hp).since hq₄

end Run

/-- An action on the stored lifecycle of a ticket asks for changes of that ticket's payment only,
from pending to the status that the action closes it with. -/
theorem apply_follows {rule : Rule} {k : TicketId} {action : LifecycleAction} {h : List Turn}
    (hopen : action.target ≠ .pending) (hplain : ∀ h r, r.isPlain → rule h r)
    (hrule : ∀ h' time, Since (Works k) h h' →
      rule h' (.store (.applyTransition k ⟨.pending, action.target, time⟩)))
    (setup : Setup) :
    Follows rule
      (fun h' o => Since (Works k) h h' ∧ (o.persisted → Applied k action.target h'))
      (apply setup k action) h := by
  unfold apply
  refine (follows_store (hplain _ _ rfl)).bind fun h₁ found hfound => ?_
  obtain ⟨rfl, hfits⟩ := hfound
  refine (follows_orThrow _ _).bind fun h₂ t ht => ?_
  obtain ⟨rfl, rfl⟩ := ht
  refine (follows_store (hplain _ _ rfl)).bind fun h₃ found hfound => ?_
  obtain ⟨rfl, -⟩ := hfound
  refine (follows_orThrow _ _).bind fun h₄ p hp => ?_
  obtain ⟨rfl, rfl⟩ := hp
  refine drain_follows hplain hrule hopen hfits.ticket_id (by simp) ?_ (by simp)
  exact ((Since.refl h).cons (.inl rfl)).cons (.inl rfl)

end Service

end BoxOffice
