import BoxOffice.Effect.Basic

/-! Checks on the effects that a decision asks for, for use in trials of reducers. -/

namespace BoxOffice.Effect

variable {φ α : Type}

inductive Check where
  /-- No effect, or a single empty one. -/
  | nothing
  | count (expected : Nat)
  /-- At least one piece of outside work on the top level. -/
  | future
deriving DecidableEq

def isFuture : Effect φ α → Bool
  | .future _ => true
  | _ => false

/-- The message of a check that fails. -/
def Check.failure? (action : α → String) (check : Check) (effects : List (Effect φ α)) :
    Option String :=
  let found := effects.length.repr
  match check with
  | .nothing =>
    match effects with
    | [] => none
    | [.idle] => none
    | _ => some ("Expected no effects, but found " ++ found ++ ": " ++ describeAll action effects)
  | .count expected =>
    if effects.length = expected then none
    else some ("assertion \x60left == right\x60 failed: Expected " ++ expected.repr ++
      " effects, but found " ++ found ++ "\n  left: " ++ found ++ "\n right: " ++ expected.repr)
  | .future =>
    if effects.any isFuture then none
    else some "Expected at least one Future effect, but none found"

end BoxOffice.Effect
