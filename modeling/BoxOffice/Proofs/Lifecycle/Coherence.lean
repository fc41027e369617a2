import BoxOffice.Lifecycle.Reduce

/-! The fields of a lifecycle stay in step under any actions in any order, late and repeated ones
among them. One action preserves the agreement, form by form; a list of actions preserves it by
induction. Each action has a setting of its own: the clock may show anything at each of them. -/

namespace BoxOffice.Lifecycle

/-- What a lifecycle starts as: a purchase just made, or a ticket and a payment that agree. -/
inductive Starts : Lifecycle → Prop
  | pending (ticketId : TicketId) : Starts (.pending ticketId)
  | records (t : Ticket) (p : Payment) (hstatus : t.status = p.status.ticketStatus)
      (hpaid : p.paidAt.isSome ↔ p.status = .paid) : Starts (.ofRecords t p)

/-- The state after a list of actions. -/
def after (s : Lifecycle) (steps : List (Setting × LifecycleAction)) : Lifecycle :=
  steps.foldl (fun s step => (reduce step.1 s step.2).1) s

/-- The fields agree with one another. -/
structure Coherent (s : Lifecycle) : Prop where
  ticket : s.ticketStatus = s.paymentStatus.ticketStatus
  settled : s.stage = .settled ↔ s.paymentStatus = .paid
  failed : s.stage = .failed ↔ s.paymentStatus = .failed ∨ s.paymentStatus = .expired
  paid : s.paidAt.isSome ↔ s.paymentStatus = .paid
  /-- What is on its way is known. -/
  context : s.stage = .walletAttempted ∨ s.stage = .requestPushed → s.context.isSome
  reason : s.failureReason.isSome → s.paymentStatus = .failed ∨ s.paymentStatus = .expired

namespace Coherent

variable {s : Lifecycle}

theorem start (hs : Starts s) : s.Coherent := by
  cases hs with
  | pending => constructor <;> simp [Lifecycle.pending, PaymentStatus.ticketStatus]
  | records t p hstatus hpaid =>
    constructor
    case ticket => exact hstatus
    case paid => exact hpaid
    all_goals cases h : p.status <;> simp [ofRecords, Stage.ofStatus, h]

/-! ### One action -/

/-- What is on its way is pending. -/
theorem pending_of_routing (hs : s.Coherent)
    (hstage : s.stage = .walletAttempted ∨ s.stage = .requestPushed) :
    s.paymentStatus = .pending := by
  have hpaid := hs.settled
  have hclosed := hs.failed
  cases h : s.paymentStatus <;> simp_all

theorem reject (hs : s.Coherent) (error : String) : (s.reject error).Coherent :=
  ⟨hs.ticket, hs.settled, hs.failed, hs.paid, hs.context, hs.reason⟩

/-- A pending payment is sent on its way. -/
theorem route (hs : s.Coherent) (hpending : s.paymentStatus = .pending) {stage : Stage}
    (hstage : stage = .walletAttempted ∨ stage = .requestPushed) (context : DispatchContext)
    (error : Option String) :
    { s with stage := stage, context := some context, lastError := error }.Coherent := by
  constructor
  case ticket => exact hs.ticket
  case settled => rcases hstage with rfl | rfl <;> simp [hpending]
  case failed => rcases hstage with rfl | rfl <;> simp [hpending]
  case paid => exact hs.paid
  case context => simp
  case reason => exact hs.reason

/-- A pending payment is closed without being paid. -/
theorem close (hs : s.Coherent) (hpending : s.paymentStatus = .pending) {status : PaymentStatus}
    (hstatus : status = .failed ∨ status = .expired) (reason : String) :
    { s.setStatus status with stage := .failed, failureReason := some reason }.Coherent := by
  have hunpaid := hs.paid
  constructor
  case ticket => rfl
  case paid => rcases hstatus with rfl | rfl <;> simpa [setStatus, hpending] using hunpaid
  all_goals rcases hstatus with rfl | rfl <;> simp [setStatus]

/-- A pending payment is settled: it was given no reason for failing before. -/
theorem settle (hs : s.Coherent) (hpending : s.paymentStatus = .pending) (time : Time.Instant) :
    { s.setStatus .paid with stage := .settled, paidAt := some time }.Coherent := by
  have hreason := hs.reason
  constructor
  case ticket => rfl
  case reason => simpa [setStatus, hpending] using hreason
  all_goals simp [setStatus]

/-- A closed payment is opened again: it was not paid before. -/
theorem reopen (hs : s.Coherent) (hclosed : s.paymentStatus.isRetryable) :
    { s.setStatus .pending with
        stage := .notStarted, failureReason := none, lastError := none, context := none
      }.Coherent := by
  have hunpaid := hs.paid
  constructor
  case ticket => rfl
  case paid => cases h : s.paymentStatus <;> simp_all [setStatus, PaymentStatus.isRetryable]
  all_goals simp [setStatus]

/-- An action leaves the fields in agreement. -/
theorem reduce (hs : s.Coherent) (env : Setting) (action : LifecycleAction) :
    (reduce env s action).1.Coherent := by
  cases action with
  | dispatch context =>
    simp only [Lifecycle.reduce]
    split
    · exact hs.reject _
    · next hopen =>
      have hpending : s.paymentStatus = .pending := by simp_all
      split
      · exact hs.route hpending (.inl rfl) context s.lastError
      · exact hs.route hpending (.inr rfl) context s.lastError
  | walletPaid => exact hs
  | walletFailed reason =>
    simp only [Lifecycle.reduce]
    split
    · exact hs
    · next hrouting =>
      have hpending : s.paymentStatus = .pending := by simp_all
      split
      · exact hs.reject _
      · next context hcontext =>
        simpa only [← hcontext] using hs.route hpending (.inr rfl) context (some reason)
  | pushDelivered => exact hs
  | pushFailed reason =>
    simp only [Lifecycle.reduce]
    split
    · exact hs.reject _
    · next hpending => exact hs.close (Decidable.of_not_not hpending) (.inl rfl) reason
  | settlementMatched time =>
    simp only [Lifecycle.reduce]
    split
    · next hpending => exact hs.settle hpending time
    · exact hs
    · exact hs.reject _
    · exact hs.reject _
  | invoiceExpired t =>
    simp only [Lifecycle.reduce]
    split
    · exact hs
    · next hpending => exact hs.close (Decidable.of_not_not hpending) (.inr rfl) _
  | retryRequested =>
    simp only [Lifecycle.reduce]
    split
    · next hclosed => exact hs.reopen hclosed
    · exact hs.reject _

/-- A wallet that fails is always followed by a push: what it should have paid is known. -/
theorem walletFailed (hs : s.Coherent) (hstage : s.stage = .walletAttempted) (env : Setting)
    (reason : String) :
    ∃ context, s.context = some context ∧
      Lifecycle.reduce env s (.walletFailed reason) =
        ({ s with stage := .requestPushed, lastError := some reason },
          [.future (pushErrand env context)]) := by
  have hpending := hs.pending_of_routing (.inl hstage)
  obtain ⟨context, hcontext⟩ := Option.isSome_iff_exists.1 (hs.context (.inl hstage))
  exact ⟨context, hcontext, by simp [Lifecycle.reduce, hstage, hpending, hcontext]⟩

/-! ### Any actions -/

theorem after (hs : s.Coherent) (steps : List (Setting × LifecycleAction)) :
    (s.after steps).Coherent := by
  induction steps generalizing s with
  | nil => exact hs
  | cons step rest ih => exact ih (hs.reduce step.1 step.2)

end Coherent

/-- Whatever actions are taken from a start, and whatever the clock shows at each of them: the
ticket follows its payment, the stage and the time of payment say what the status says, what is on
its way is known, so that a wallet that fails is never left without a push, and only what failed or
expired has a reason. -/
theorem after_start {s : Lifecycle} (hs : Starts s) (steps : List (Setting × LifecycleAction)) :
    (s.after steps).Coherent ∧
      ∀ env reason, (s.after steps).stage = .walletAttempted →
        ∃ context, (s.after steps).context = some context ∧
          reduce env (s.after steps) (.walletFailed reason) =
            ({ s.after steps with stage := .requestPushed, lastError := some reason },
              [.future (pushErrand env context)]) := by
  have hcoherent := (Coherent.start hs).after steps
  exact ⟨hcoherent, fun env reason hstage => hcoherent.walletFailed hstage env reason⟩

/-- Where an action is taken by an office that speaks one version. -/
def sampleSetting : Setting := ⟨default, ⟨"a", "b"⟩, [1]⟩

/-- A ticket sold to somebody who has a wallet. -/
def sampleDispatch : DispatchContext :=
  ⟨⟨⟨1⟩⟩, ⟨"c", "d"⟩, "e", ⟨5⟩, default, "", "", some ⟨default, "f", none, default⟩⟩

/-- The wallet is told to pay, and fails. -/
theorem after_start_dispatch :
    let s := (Lifecycle.pending ⟨⟨1⟩⟩).after [(sampleSetting, .dispatch sampleDispatch)]
    s.stage = .walletAttempted ∧ s.Coherent ∧
      (reduce sampleSetting s (.walletFailed "g")).2 =
        [.future (pushErrand sampleSetting sampleDispatch)] := by
  have hstage : ((Lifecycle.pending ⟨⟨1⟩⟩).after
      [(sampleSetting, .dispatch sampleDispatch)]).stage = .walletAttempted := by decide
  obtain ⟨hcoherent, hpushed⟩ := after_start (.pending ⟨⟨1⟩⟩)
    [(sampleSetting, .dispatch sampleDispatch)]
  obtain ⟨context, hcontext, hreduced⟩ := hpushed sampleSetting "g" hstage
  obtain rfl : sampleDispatch = context := by
    have hdispatched : ((Lifecycle.pending ⟨⟨1⟩⟩).after
      [(sampleSetting, .dispatch sampleDispatch)]).context = some sampleDispatch := by decide
    exact Option.some.inj (hdispatched.symm.trans hcontext)
  exact ⟨hstage, hcoherent, congrArg Prod.snd hreduced⟩

end BoxOffice.Lifecycle
