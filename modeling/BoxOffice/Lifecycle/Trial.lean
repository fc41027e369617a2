import BoxOffice.Effect.Check

/-! Trials of a reducer: given a state, when actions are taken, then checks hold of the state that
results and of the effects of the last action. -/

namespace BoxOffice

structure Trial (σ α : Type) where
  state : Option σ
  /-- Whether surroundings are given. -/
  hasSetting : Bool
  actions : List α
  /-- How many times the final state is looked at. -/
  looks : Nat
  checks : List Effect.Check

namespace Trial

variable {σ α φ : Type}

/-- The last state and the effects of the last action. -/
def play (reduce : σ → α → σ × List (Effect φ α)) (s : σ) (actions : List α) :
    σ × List (Effect φ α) :=
  actions.foldl (fun (s, _) a => reduce s a) (s, [])

/-- The message of the first thing that is wrong, if any, and the states that were looked at. -/
def run (reduce : σ → α → σ × List (Effect φ α)) (describe : α → String) (t : Trial σ α) :
    Option String × List σ :=
  match t.state with
  | none => (some "Initial state must be set with given_state()", [])
  | some s =>
    if !t.hasSetting then (some "Environment must be set with with_env()", [])
    else if t.actions.isEmpty then
      (some "At least one action must be set with when_action()", [])
    else
      let (final, effects) := play reduce s t.actions
      (t.checks.findSome? fun c => c.failure? describe effects, List.replicate t.looks final)

end Trial

end BoxOffice
