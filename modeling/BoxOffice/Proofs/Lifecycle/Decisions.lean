import BoxOffice.Proofs.Lifecycle.Coherence

/-! What an action does to a lifecycle, told once. An action that is accepted changes the lifecycle,
and may ask for one errand; one that is refused leaves all but the error as it is. What is paid
accepts nothing more, and what failed or expired accepts a retry only, so by induction any list of
other actions is lost on them. -/

namespace BoxOffice.Lifecycle

/-- The action makes a change. -/
def accepts (s : Lifecycle) : LifecycleAction → Bool
  | .dispatch _ => s.paymentStatus = .pending && s.stage = .notStarted
  | .walletFailed _ =>
    s.paymentStatus = .pending && s.stage = .walletAttempted && s.context.isSome
  | .pushFailed _ | .settlementMatched _ | .invoiceExpired _ => s.paymentStatus = .pending
  | .retryRequested => s.paymentStatus.isRetryable
  | .walletPaid | .pushDelivered => false

/-- On an action in a setting, the lifecycle becomes another and asks for effects. -/
inductive Decides (env : Setting) (s : Lifecycle) :
    LifecycleAction → Lifecycle → Effects → Prop
  | refused {action : LifecycleAction} (refused : s.accepts action = false)
      (error : Option String) : Decides env s action { s with lastError := error } []
  | wallet {c : DispatchContext} {credential : WalletCredential}
      (pending : s.paymentStatus = .pending) (fresh : s.stage = .notStarted)
      (usable : c.credential.filter (·.isUsable env.now) = some credential) :
      Decides env s (.dispatch c) { s with stage := .walletAttempted, context := some c }
        [.future (.payInvoice credential c.invoice)]
  | push {c : DispatchContext} (pending : s.paymentStatus = .pending)
      (fresh : s.stage = .notStarted)
      (unusable : c.credential.filter (·.isUsable env.now) = none) :
      Decides env s (.dispatch c) { s with stage := .requestPushed, context := some c }
        [.future (pushErrand env c)]
  | fallBack {reason : String} {c : DispatchContext} (pending : s.paymentStatus = .pending)
      (routing : s.stage = .walletAttempted) (context : s.context = some c) :
      Decides env s (.walletFailed reason)
        { s with stage := .requestPushed, lastError := some reason } [.future (pushErrand env c)]
  | fail {reason : String} (pending : s.paymentStatus = .pending) :
      Decides env s (.pushFailed reason)
        { s.setStatus .failed with stage := .failed, failureReason := some reason } []
  | settle {time : Time.Instant} (pending : s.paymentStatus = .pending) :
      Decides env s (.settlementMatched time)
        { s.setStatus .paid with stage := .settled, paidAt := some time } []
  | expire {t : Time.Instant} (pending : s.paymentStatus = .pending) :
      Decides env s (.invoiceExpired t) { s.setStatus .expired with
        stage := .failed, failureReason := some ("invoice expired at " ++ t.inMessage) } []
  | reopen (closed : s.paymentStatus.isRetryable) :
      Decides env s .retryRequested { s.setStatus .pending with
        stage := .notStarted, failureReason := none, lastError := none, context := none } []

variable {env : Setting} {s : Lifecycle} {action : LifecycleAction}

/-- Every decision is one of those. -/
theorem decides (env : Setting) (s : Lifecycle) (action : LifecycleAction) :
    Decides env s action (reduce env s action).1 (reduce env s action).2 := by
  have kept : s.accepts action = false → Decides env s action s [] :=
    fun hrefused => .refused hrefused s.lastError
  cases action with
  | dispatch c =>
    simp only [reduce]
    split
    · next hclosed => exact .refused (by simp [accepts]; grind) _
    · next hopen =>
      have hpending : s.paymentStatus = .pending := by simp_all
      have hfresh : s.stage = .notStarted := by simp_all
      split
      · next husable => exact .wallet hpending hfresh husable
      · next hunusable => exact .push hpending hfresh hunusable
  | walletPaid => exact kept rfl
  | walletFailed reason =>
    simp only [reduce]
    split
    · next hclosed => exact kept (by simp [accepts]; grind)
    · next hrouting =>
      split
      · next hcontext => exact .refused (by simp [accepts, hcontext]) _
      · next c hcontext => exact .fallBack (by simp_all) (by simp_all) hcontext
  | pushDelivered => exact kept rfl
  | pushFailed reason =>
    simp only [reduce]
    split
    · next hclosed => exact .refused (by simpa [accepts] using hclosed) _
    · next hpending => exact .fail (Decidable.of_not_not hpending)
  | settlementMatched time =>
    simp only [reduce]
    split
    · next hpending => exact .settle hpending
    · next hpaid => exact kept (by simp [accepts, hpaid])
    · next hfailed => exact .refused (by simp [accepts, hfailed]) _
    · next hexpired => exact .refused (by simp [accepts, hexpired]) _
  | invoiceExpired t =>
    simp only [reduce]
    split
    · next hclosed => exact kept (by simpa [accepts] using hclosed)
    · next hpending => exact .expire (Decidable.of_not_not hpending)
  | retryRequested =>
    simp only [reduce]
    split
    · next hclosed => exact .reopen hclosed
    · next hopen => exact .refused (by simpa [accepts] using hopen) _

/-- Whatever is refused changes the error at most. -/
theorem Decides.of_refused {s' : Lifecycle} {effects : Effects}
    (hd : Decides env s action s' effects) (hrefused : s.accepts action = false) :
    (∃ error, s' = { s with lastError := error }) ∧ effects = [] := by
  cases hd with
  | refused _ error => exact ⟨⟨error, rfl⟩, rfl⟩
  | _ => simp_all [accepts]

/-! ### Lists of actions -/

/-- An action, and the setting and the lifecycle that it was taken in. -/
structure Taken where
  env : Setting
  state : Lifecycle
  action : LifecycleAction

namespace Taken

/-- What the lifecycle becomes. -/
def next (d : Taken) : Lifecycle := (reduce d.env d.state d.action).1

def effects (d : Taken) : Effects := (reduce d.env d.state d.action).2

end Taken

/-- The actions one after another, each taken on what the ones before have made of the lifecycle. -/
def course (s : Lifecycle) : List (Setting × LifecycleAction) → List Taken
  | [] => []
  | (env, action) :: rest => ⟨env, s, action⟩ :: course (reduce env s action).1 rest

/-- What a list of actions asks for. -/
def emitted (s : Lifecycle) (steps : List (Setting × LifecycleAction)) : Effects :=
  (course s steps).flatMap (·.effects)

/-! ### Actions that are lost -/

/-- The actions change nothing but the error, and ask for nothing. -/
structure Absorbs (s : Lifecycle) (steps : List (Setting × LifecycleAction)) : Prop where
  state : { s.after steps with lastError := s.lastError } = s
  emitted : emitted s steps = []

/-- A list of actions is lost if each of them is refused: the error does not count. -/
theorem absorbs_of_refused {steps : List (Setting × LifecycleAction)}
    (hrefused : ∀ step ∈ steps, s.accepts step.2 = false) : s.Absorbs steps := by
  induction steps generalizing s with
  | nil => exact ⟨rfl, rfl⟩
  | cons step rest ih =>
    obtain ⟨env, action⟩ := step
    obtain ⟨hfirst, hrest⟩ := List.forall_mem_cons.1 hrefused
    obtain ⟨⟨error, hstate⟩, heffects⟩ := (decides env s action).of_refused hfirst
    have hsame : ∀ a, { s with lastError := error }.accepts a = s.accepts a := by
      intro a
      cases a <;> rfl
    have hlost : { s with lastError := error }.Absorbs rest :=
      ih fun step hm => (hsame step.2).trans (hrest step hm)
    constructor
    case state =>
      have hafter : s.after ((env, action) :: rest) = { s with lastError := error }.after rest :=
        congrArg (fun s => after s rest) hstate
      rw [hafter]
      exact congrArg (fun s' => { s' with lastError := s.lastError }) hlost.state
    case emitted =>
      have hemitted : emitted s ((env, action) :: rest) =
          (reduce env s action).2 ++ emitted (reduce env s action).1 rest := rfl
      rw [hemitted, heffects, hstate, hlost.emitted]
      rfl

theorem accepts_of_paid (hpaid : s.paymentStatus = .paid) (action : LifecycleAction) :
    s.accepts action = false := by
  cases action <;> simp [accepts, hpaid, PaymentStatus.isRetryable]

theorem accepts_of_closed (hclosed : s.paymentStatus = .failed ∨ s.paymentStatus = .expired)
    (haction : action ≠ .retryRequested) : s.accepts action = false := by
  cases action <;> rcases hclosed with hstatus | hstatus <;> simp_all [accepts]

/-- A retry begins again. -/
theorem reduce_retry (hclosed : s.paymentStatus = .failed ∨ s.paymentStatus = .expired)
    (env : Setting) :
    reduce env s .retryRequested = ({ s with
      ticketStatus := .pending, paymentStatus := .pending, stage := .notStarted,
      failureReason := none, lastError := none, context := none }, []) := by
  have hretryable : s.paymentStatus.isRetryable := by
    rcases hclosed with hstatus | hstatus <;> simp [hstatus, PaymentStatus.isRetryable]
  simp [reduce, hretryable, setStatus, PaymentStatus.ticketStatus]

/-- Whatever stage a lifecycle is at, and whatever it was dispatched with: once it is paid, all
actions are lost on it. Once it failed or expired all are but a retry, which alone makes it leave
that status, and begin again. -/
theorem closed_absorbs (s : Lifecycle) :
    (s.paymentStatus = .paid → ∀ steps, s.Absorbs steps) ∧
      (s.paymentStatus = .failed ∨ s.paymentStatus = .expired →
        (∀ steps : List (Setting × LifecycleAction), (∀ step ∈ steps, step.2 ≠ .retryRequested) →
          s.Absorbs steps) ∧
        (∀ env action, (reduce env s action).1.paymentStatus ≠ s.paymentStatus ↔
          action = .retryRequested) ∧
        ∀ env, reduce env s .retryRequested = ({ s with
          ticketStatus := .pending, paymentStatus := .pending, stage := .notStarted,
          failureReason := none, lastError := none, context := none }, [])) := by
  refine ⟨fun hpaid steps => ?_, fun hclosed => ⟨fun steps hsteps => ?_, fun env action => ?_,
    reduce_retry hclosed⟩⟩
  · exact absorbs_of_refused fun step _ => accepts_of_paid hpaid step.2
  · exact absorbs_of_refused fun step hm => accepts_of_closed hclosed (hsteps step hm)
  · by_cases haction : action = .retryRequested
    · have hleft : PaymentStatus.pending ≠ s.paymentStatus := by
        rcases hclosed with hstatus | hstatus <;> simp [hstatus]
      rw [haction, reduce_retry hclosed]
      exact iff_of_true hleft rfl
    · obtain ⟨⟨error, hstate⟩, -⟩ :=
        (decides env s action).of_refused (accepts_of_closed hclosed haction)
      rw [hstate]
      exact iff_of_false (not_not_intro rfl) haction

/-- A wallet that fails late, when the payment is paid already or has expired. -/
theorem closed_absorbs_late :
    let routing (status : PaymentStatus) : Lifecycle :=
      { (Lifecycle.pending ⟨⟨1⟩⟩).setStatus status with
        stage := .walletAttempted, context := some sampleDispatch }
    let late := [(sampleSetting, .walletFailed "g"), (sampleSetting, .dispatch sampleDispatch)]
    (routing .paid).paymentStatus = .paid ∧
      (routing .paid).Absorbs (late ++ [(sampleSetting, .retryRequested)]) ∧
      (routing .expired).paymentStatus = .expired ∧ (∀ step ∈ late, step.2 ≠ .retryRequested) ∧
      (routing .expired).Absorbs late ∧
      (reduce sampleSetting (routing .expired) .retryRequested).1.stage = .notStarted := by
  intro routing late
  have hlate : ∀ step ∈ late, step.2 ≠ .retryRequested := by simp [late]
  obtain ⟨hlost, -, hretry⟩ := (closed_absorbs (routing .expired)).2 (.inr rfl)
  refine ⟨rfl, (closed_absorbs (routing .paid)).1 rfl _, rfl, hlate, hlost late hlate, ?_⟩
  rw [hretry]

end BoxOffice.Lifecycle
