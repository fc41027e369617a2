import BoxOffice.Time.Duration

/-! Effects: descriptions of work that a decision asks for, such as paying an invoice. Carrying
one out gives actions, which are decided on in turn. -/

namespace BoxOffice

/-- A description of work. `φ` describes one piece of outside work, `α` is what it may give. -/
inductive Effect (φ α : Type) where
  | idle
  /-- All at once. -/
  | parallel (effects : List (Effect φ α))
  /-- One after another. -/
  | sequential (effects : List (Effect φ α))
  /-- Give the action after some time. -/
  | delay (duration : Time.Duration) (action : α)
  | future (task : φ)
deriving Inhabited

namespace Effect

variable {φ α : Type}

mutual

/-- Text for diagnostics; outside work shows nothing of itself. -/
def describe (action : α → String) : Effect φ α → String
  | .idle => "Effect::None"
  | .parallel es => "Effect::Parallel([" ++ describeList action es ++ "])"
  | .sequential es => "Effect::Sequential([" ++ describeList action es ++ "])"
  | .delay d a =>
    "Effect::Delay \x7b duration: " ++ d.toString ++ ", action: " ++ action a ++ " \x7d"
  | .future _ => "Effect::Future(<future>)"
termination_by structural e => e

def describeList (action : α → String) : List (Effect φ α) → String
  | [] => ""
  | [e] => e.describe action
  | e :: rest => e.describe action ++ ", " ++ describeList action rest
termination_by structural es => es

end

/-- Text of a list of effects. -/
def describeAll (action : α → String) (es : List (Effect φ α)) : String :=
  "[" ++ describeList action es ++ "]"

mutual

/-- The actions of the leaves from left to right, where `out` says what a piece of work gives. -/
def leaves (out : φ → Option α) : Effect φ α → List α
  | .idle => []
  | .parallel es => leavesOfList out es
  | .sequential es => leavesOfList out es
  | .delay _ a => [a]
  | .future t => (out t).toList
termination_by structural e => e

def leavesOfList (out : φ → Option α) : List (Effect φ α) → List α
  | [] => []
  | e :: rest => e.leaves out ++ leavesOfList out rest
termination_by structural es => es

end

mutual

/-- The number of waits: delays and pieces of work. -/
def waits : Effect φ α → Nat
  | .idle => 0
  | .parallel es => waitsOfList es
  | .sequential es => waitsOfList es
  | .delay _ _ => 1
  | .future _ => 1
termination_by structural e => e

def waitsOfList : List (Effect φ α) → Nat
  | [] => 0
  | e :: rest => e.waits + waitsOfList rest
termination_by structural es => es

end

end Effect

end BoxOffice
