import BoxOffice.Effect.Basic

/-! Carrying out an effect. What is in flight at a moment are the waits that have begun; they may
end in any order, and the actions are put together by place, not by time. -/

namespace BoxOffice

/-- An effect under way. -/
inductive Execution (φ α : Type) where
  | finished (produced : List α)
  | timer (duration : Time.Duration) (action : α)
  | task (task : φ)
  /-- All begun; done when every part is. -/
  | joined (parts : List (Execution φ α))
  /-- What is produced so far, the part under way, and those not begun. -/
  | chained (produced : List α) (current : Execution φ α) (rest : List (Effect φ α))
deriving Inhabited

namespace Execution

variable {φ α : Type}

/-- The actions of a list of parts that are all finished. -/
def collect? : List (Execution φ α) → Option (List α)
  | [] => some []
  | .finished p :: rest => (collect? rest).map (p ++ ·)
  | _ :: _ => none

def join (parts : List (Execution φ α)) : Execution φ α :=
  match collect? parts with
  | some produced => .finished produced
  | none => .joined parts

mutual

/-- Begin an effect. -/
def start : Effect φ α → Execution φ α
  | .idle => .finished []
  | .parallel es => join (startAll es)
  | .sequential es => startChain [] es
  | .delay d a => .timer d a
  | .future t => .task t
termination_by structural e => e

def startAll : List (Effect φ α) → List (Execution φ α)
  | [] => []
  | e :: rest => start e :: startAll rest
termination_by structural es => es

/-- Begin a chain, going on at once past parts that wait for nothing. -/
def startChain (produced : List α) : List (Effect φ α) → Execution φ α
  | [] => .finished produced
  | e :: rest =>
    match start e with
    | .finished p => startChain (produced ++ p) rest
    | x => .chained produced x rest
termination_by structural es => es

end

mutual

/-- The number of waits in flight. -/
def inFlight : Execution φ α → Nat
  | .finished _ => 0
  | .timer _ _ => 1
  | .task _ => 1
  | .joined parts => inFlightOfList parts
  | .chained _ x _ => x.inFlight
termination_by structural x => x

def inFlightOfList : List (Execution φ α) → Nat
  | [] => 0
  | x :: rest => x.inFlight + inFlightOfList rest
termination_by structural xs => xs

end

mutual

/-- End the wait at place `i` of those in flight; nothing happens if there is none. -/
def complete (out : φ → Option α) (i : Nat) : Execution φ α → Execution φ α
  | .finished p => .finished p
  | .timer d a => if i = 0 then .finished [a] else .timer d a
  | .task t => if i = 0 then .finished (out t).toList else .task t
  | .joined parts => join (completeIn out i parts)
  | .chained produced x rest =>
    match complete out i x with
    | .finished p => startChain (produced ++ p) rest
    | y => .chained produced y rest
termination_by structural x => x

def completeIn (out : φ → Option α) (i : Nat) : List (Execution φ α) → List (Execution φ α)
  | [] => []
  | x :: rest =>
    if i < x.inFlight then complete out i x :: rest
    else x :: completeIn out (i - x.inFlight) rest
termination_by structural xs => xs

end

/-- What was produced, once all is done. -/
def result? : Execution φ α → Option (List α)
  | .finished p => some p
  | _ => none

/-- End one wait after another, each given by its place among those in flight. -/
def run (out : φ → Option α) (order : List Nat) (x : Execution φ α) : Execution φ α :=
  order.foldl (fun x i => x.complete out i) x

end Execution

/-- Carry out an effect, ending the first wait in flight each time. -/
def Effect.execute {φ α : Type} (out : φ → Option α) (e : Effect φ α) : List α :=
  (((Execution.start e).run out (List.replicate e.waits 0)).result?).getD []

end BoxOffice
