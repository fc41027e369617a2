import BoxOffice.Proofs.Program.Always
import BoxOffice.Proofs.Program.Idle
import BoxOffice.Service.Routing

/-! The loop of a lifecycle that runs, watched: which actions it takes, in what settings, and what
is left in its queue. The watched loop takes as many actions as it is let. The loop that runs is the
watched one, with what it took forgotten. -/

namespace BoxOffice

open Program

/-! ### The loop -/

/-- The lifecycle but for its error. -/
def Lifecycle.withoutError (s : Lifecycle) : Lifecycle := { s with lastError := none }

namespace Service

open Lifecycle

/-- Where the actions of a run are decided. -/
abbrev setting (setup : Setup) (now : Time.Instant) : Setting :=
  ⟨now, setup.receiver, setup.versions⟩

/-- A loop under way. -/
structure Watched where
  /-- What it has come to so far. -/
  result : Except StoreError Lifecycle.Outcome
  /-- The actions it has taken, each with the setting that it was decided in. -/
  taken : List (Setting × LifecycleAction)
  /-- Those that are still to be taken. -/
  queue : List LifecycleAction

/-- Take one action, if there is one left and nothing failed. -/
def takeOne (setup : Setup) : Watched → Program Watched
  | ⟨.ok o, taken, action :: rest⟩ =>
    (countErrand action).bind fun _ => Program.now.bind fun now =>
      let env := setting setup now
      let (s, effects) := reduce env o.state action
      (storeDecision s o.state.paymentStatus).run.bind fun
        | .error e => .pure ⟨.error e, taken ++ [(env, action)], rest⟩
        | .ok stored => (performAll effects).bind fun produced =>
          .pure ⟨.ok ⟨stored.state.withoutError, o.persisted || stored.persisted⟩,
            taken ++ [(env, action)], rest ++ produced⟩
  | v => .pure v

/-- Take a number of actions, or less if there are not as many. -/
def watch (setup : Setup) : Nat → Watched → Program Watched
  | 0, v => .pure v
  | n + 1, v => (takeOne setup v).bind (watch setup n)

variable {setup : Setup}

theorem watch_add (n m : Nat) (v : Watched) :
    watch setup (n + m) v = (watch setup n v).bind (watch setup m) := by
  induction n generalizing v with
  | zero => rw [Nat.zero_add, watch, Program.bind]
  | succ n ih =>
    rw [Nat.succ_add, watch, watch, bind_bind]
    exact congrArg _ (funext ih)

/-- Nothing follows once nothing is to be done. -/
theorem watch_of_takeOne {v : Watched} (hv : takeOne setup v = .pure v) (n : Nat) :
    watch setup n v = .pure v := by
  induction n with
  | zero => rfl
  | succ n ih => rw [watch, hv, Program.bind, ih]

theorem takeOne_nil (result : Except StoreError Lifecycle.Outcome)
    (taken : List (Setting × LifecycleAction)) :
    takeOne setup ⟨result, taken, []⟩ = .pure ⟨result, taken, []⟩ := by
  cases result <;> rfl

theorem drain_eq_watch (n : Nat) (o : Lifecycle.Outcome)
    (taken : List (Setting × LifecycleAction)) (queue : List LifecycleAction) :
    (drain setup n o queue).run =
      (watch setup n ⟨.ok o, taken, queue⟩).bind fun v => .pure v.result := by
  induction n generalizing o taken queue with
  | zero => rfl
  | succ n ih =>
    cases queue with
    | nil =>
      rw [watch_of_takeOne (takeOne_nil ..)]
      rfl
    | cons action rest =>
      rw [drain, watch, takeOne, run_lift_bind, bind_bind, bind_bind]
      congr 1
      funext _
      rw [run_lift_bind, bind_bind]
      congr 1
      funext now
      rw [run_bind]
      dsimp only
      rw [bind_bind]
      congr 1
      funext x
      cases x with
      | error e =>
        dsimp only
        rw [Program.bind, watch_of_takeOne rfl]
        rfl
      | ok stored =>
        dsimp only
        rw [run_lift_bind, bind_bind]
        congr 1
        funext produced
        exact ih ..

end Service

end BoxOffice
