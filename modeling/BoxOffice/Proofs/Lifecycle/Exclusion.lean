import BoxOffice.Proofs.Lifecycle.Decisions

/-! Between two retries a payment takes one way: the wallet is told to pay once at most, and one
request is pushed at most. The stage only moves on, so it bounds what may still be asked for. A list
of actions is cut at the retries, and the bound is carried along each part by induction. -/

namespace BoxOffice.Lifecycle

/-- The effect tells the buyer's wallet to pay. -/
def asksWallet : Effect Errand LifecycleAction → Bool
  | .future (.payInvoice _ _) => true
  | _ => false

/-- The effect pushes a request to the buyer's provider. -/
def asksPush : Effect Errand LifecycleAction → Bool
  | .future (.pushRequest _ _ _) => true
  | _ => false

/-- How many times the wallet may still be told to pay. -/
def walletsLeft : Stage → Nat
  | .notStarted => 1
  | _ => 0

/-- How many requests may still be pushed. -/
def pushesLeft : Stage → Nat
  | .notStarted | .walletAttempted => 1
  | _ => 0

/-! ### One action -/

/-- The action is a retry that is accepted. -/
def Taken.reopens (d : Taken) : Bool := d.action = .retryRequested && d.state.accepts d.action

/-- One errand at most is asked for, and only for a pending payment. -/
structure Taken.Sparing (d : Taken) : Prop where
  one : d.effects.length ≤ 1
  kind : ∀ e ∈ d.effects, asksWallet e ∨ asksPush e
  pending : d.effects ≠ [] → d.state.paymentStatus = .pending

namespace Decides

variable {env : Setting} {s s' : Lifecycle} {action : LifecycleAction} {effects : Effects}

theorem length_effects (hd : Decides env s action s' effects) : effects.length ≤ 1 := by
  cases hd <;> simp

theorem kind (hd : Decides env s action s' effects) : ∀ e ∈ effects, asksWallet e ∨ asksPush e := by
  cases hd <;> simp [asksWallet, asksPush, pushErrand]

theorem pending (hd : Decides env s action s' effects) (hne : effects ≠ []) :
    s.paymentStatus = .pending := by
  cases hd with
  | wallet hpending => exact hpending
  | push hpending => exact hpending
  | fallBack hpending => exact hpending
  | _ => exact absurd rfl hne

/-- What is asked for is paid for by the stage, unless the lifecycle begins again. -/
theorem wallets (hd : Decides env s action s' effects)
    (hclosed : action = .retryRequested → s.accepts action = false) :
    effects.countP asksWallet + walletsLeft s'.stage ≤ walletsLeft s.stage := by
  cases hd with
  | reopen hretryable => simp_all [accepts]
  | _ => simp_all [walletsLeft, asksWallet, pushErrand]

theorem pushes (hd : Decides env s action s' effects)
    (hclosed : action = .retryRequested → s.accepts action = false) :
    effects.countP asksPush + pushesLeft s'.stage ≤ pushesLeft s.stage := by
  cases hd with
  | reopen hretryable => simp_all [accepts]
  | _ => simp_all [pushesLeft, asksPush, pushErrand]

/-- What is pushed once the wallet may not be told any more is pushed because it failed. -/
theorem fellBack (hd : Decides env s action s' effects) (hstage : walletsLeft s.stage = 0)
    (hpush : ∃ e ∈ effects, asksPush e) : ∃ reason, action = .walletFailed reason := by
  cases hd with
  | push _ hfresh => simp [hfresh, walletsLeft] at hstage
  | fallBack => exact ⟨_, rfl⟩
  | _ => simp [asksPush] at hpush

end Decides

namespace Taken

theorem decided (d : Taken) : Decides d.env d.state d.action d.next d.effects :=
  decides d.env d.state d.action

theorem sparing (d : Taken) : d.Sparing :=
  ⟨d.decided.length_effects, d.decided.kind, d.decided.pending⟩

end Taken

/-! ### The part between two retries -/

/-- How many effects of a kind some actions ask for. -/
def countEffects (kind : Effect Errand LifecycleAction → Bool) (part : List Taken) : Nat :=
  (part.flatMap (·.effects)).countP kind

/-- The wallet is told to pay once at most and one request is pushed at most, after the wallet only
because that failed. -/
structure Exclusive (part : List Taken) : Prop where
  wallet : countEffects asksWallet part ≤ 1
  push : countEffects asksPush part ≤ 1
  fallBack : part.Pairwise fun d d' => (∃ e ∈ d.effects, asksWallet e) →
    (∃ e ∈ d'.effects, asksPush e) → ∃ reason, d'.action = .walletFailed reason

/-- As `Exclusive`, for actions that begin at a stage. -/
structure Within (stage : Stage) (part : List Taken) : Prop where
  wallet : countEffects asksWallet part ≤ walletsLeft stage
  push : countEffects asksPush part ≤ pushesLeft stage
  late : walletsLeft stage = 0 → ∀ d ∈ part, (∃ e ∈ d.effects, asksPush e) →
    ∃ reason, d.action = .walletFailed reason
  fallBack : part.Pairwise fun d d' => (∃ e ∈ d.effects, asksWallet e) →
    (∃ e ∈ d'.effects, asksPush e) → ∃ reason, d'.action = .walletFailed reason

theorem within_nil (stage : Stage) : Within stage [] := by
  constructor <;> simp [countEffects]

theorem Within.exclusive {stage : Stage} {part : List Taken} (h : Within stage part) :
    Exclusive part := by
  have hwallet : walletsLeft stage ≤ 1 := by cases stage <;> decide
  have hpush : pushesLeft stage ≤ 1 := by cases stage <;> decide
  exact ⟨Nat.le_trans h.wallet hwallet, Nat.le_trans h.push hpush, h.fallBack⟩

theorem countEffects_cons (kind : Effect Errand LifecycleAction → Bool) (d : Taken)
    (part : List Taken) :
    countEffects kind (d :: part) = d.effects.countP kind + countEffects kind part := by
  simp [countEffects]

/-- An action that is no retry may come before, from the stage that it was taken at. -/
theorem Within.cons {d : Taken} {part : List Taken} (h : Within d.next.stage part)
    (hd : d.reopens = false) : Within d.state.stage (d :: part) := by
  have hclosed : d.action = .retryRequested → d.state.accepts d.action = false := by
    simpa [Taken.reopens] using hd
  have hwallets := d.decided.wallets hclosed
  have hpushes := d.decided.pushes hclosed
  constructor
  case wallet =>
    have := h.wallet
    rw [countEffects_cons]
    omega
  case push =>
    have := h.push
    rw [countEffects_cons]
    omega
  case late =>
    intro hstage
    refine List.forall_mem_cons.2 ⟨d.decided.fellBack hstage, h.late ?_⟩
    omega
  case fallBack =>
    refine List.pairwise_cons.2 ⟨fun d' hd' hwallet => h.late ?_ d' hd', h.fallBack⟩
    -- the wallet was told just now, so it may not be told again
    have hone : walletsLeft d.state.stage ≤ 1 := by cases d.state.stage <;> decide
    have htold : 0 < d.effects.countP asksWallet := List.countP_pos_iff.2 hwallet
    omega

/-! ### Any actions -/

/-- The first part goes on from the state that the actions are taken in, the others begin again. -/
theorem course_within (s : Lifecycle) (steps : List (Setting × LifecycleAction)) :
    ∃ part rest, (course s steps).splitOnP (·.reopens) = part :: rest ∧ Within s.stage part ∧
      ∀ part ∈ rest, Exclusive part := by
  induction steps generalizing s with
  | nil => exact ⟨[], [], List.splitOnP_nil, within_nil s.stage, nofun⟩
  | cons step steps ih =>
    obtain ⟨env, action⟩ := step
    obtain ⟨part, rest, hsplit, hpart, hrest⟩ := ih (reduce env s action).1
    rw [course, List.splitOnP_cons_eq_if_modifyHead, hsplit]
    by_cases hreopens : (⟨env, s, action⟩ : Taken).reopens
    · rw [if_pos hreopens]
      exact ⟨[], part :: rest, rfl, within_nil s.stage,
        List.forall_mem_cons.2 ⟨hpart.exclusive, hrest⟩⟩
    · rw [if_neg hreopens]
      have hcons : Within s.stage (⟨env, s, action⟩ :: part) :=
        Within.cons (d := ⟨env, s, action⟩) hpart (by simpa using hreopens)
      exact ⟨_ :: part, rest, rfl, hcons, hrest⟩

/-- Whatever actions are taken on a purchase just made, late and repeated ones among them: in each
part between two accepted retries the wallet is told to pay once at most and one request is pushed
at most, and this after the wallet only because the wallet failed. Each action asks for one errand
at most, and for none unless the payment is pending. -/
theorem path_exclusive (ticketId : TicketId) (steps : List (Setting × LifecycleAction)) :
    (∀ part ∈ (course (.pending ticketId) steps).splitOnP (·.reopens), Exclusive part) ∧
      ∀ d ∈ course (.pending ticketId) steps, d.Sparing := by
  obtain ⟨part, rest, hsplit, hpart, hrest⟩ := course_within (.pending ticketId) steps
  rw [hsplit]
  exact ⟨List.forall_mem_cons.2 ⟨hpart.exclusive, hrest⟩, fun d _ => d.sparing⟩

/-- A wallet that fails twice, and again after a retry. -/
example :
    let steps : List LifecycleAction := [.dispatch sampleDispatch, .walletFailed "g",
      .walletFailed "g", .pushFailed "h", .retryRequested, .walletFailed "g",
      .dispatch sampleDispatch]
    (((course (.pending ⟨⟨1⟩⟩) (steps.map (sampleSetting, ·))).splitOnP (·.reopens)).map fun part =>
      (countEffects asksWallet part, countEffects asksPush part)) = [(1, 1), (1, 0)] := by
  decide +kernel

end BoxOffice.Lifecycle
