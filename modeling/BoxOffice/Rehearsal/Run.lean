import BoxOffice.Rehearsal.World
import BoxOffice.Service.Sweeping

/-! Running programs in a world. What is called from outside runs to its end at once; dispatches
run beside it, one after another, until they end or wait at a barrier that is shut. Time passes only
when it is told to. -/

namespace BoxOffice.Rehearsal.World

variable {α : Type}

/-- Run a program to its end. No result means that it broke off. -/
def call (w : World) : Program α → Option α × World
  | .pure a => (some a, w)
  | .abort => (none, w)
  | .ask r next => let (x, w) := (w.note r).answer r; call w (next x)

/-! ### Dispatches -/

/-- How far a program has come. -/
inductive Progress (α : Type) where
  | ended (a : α)
  | brokenOff
  | waiting (rest : Program α)

/-- Run a program until it ends or comes to a barrier that is shut. -/
def advance (w : World) : Program α → Progress α × World
  | .pure a => (.ended a, w)
  | .abort => (.brokenOff, w)
  | .ask r next =>
    let w := w.note r
    if w.isShut r then (.waiting (.ask r next), w)
    else let (x, w) := w.answer r; advance w (next x)

/-- Go on with a program whose first request was made before. -/
def resume (w : World) : Program α → Progress α × World
  | .ask r next => let (x, w) := w.answer r; advance w (next x)
  | p => advance w p

/-- Whether a task waits at a barrier that is shut. -/
def isStuck (w : World) (t : Task) : Bool :=
  t.asked && match t.program with
    | .ask r _ => w.isShut r
    | _ => false

def runTask (w : World) (t : Task) : World :=
  match if t.asked then w.resume t.program else w.advance t.program with
  | (.ended s, w) => { w with ended := w.ended ++ [(t.number, s)] }
  | (.brokenOff, w) => { w with ended := w.ended ++ [(t.number, none)] }
  | (.waiting rest, w) => { w with tasks := w.tasks ++ [⟨t.number, true, rest⟩] }

/-- Run every dispatch that can run. -/
def settle (w : World) : World :=
  let (stuck, able) := w.tasks.partition w.isStuck
  able.foldl runTask { w with tasks := stuck }

/-- Begin a dispatch; gives its number. -/
def dispatch (w : World) (context : DispatchContext) : Nat × World :=
  let w := (w.answer (.dispatch context)).2
  (w.dispatched, w)

/-- What a dispatch came to, if it has ended. -/
def dispatchResult? (w : World) (number : Nat) : Option (Option Lifecycle) :=
  w.ended.lookup number

/-- Cancel the dispatches that have not ended. -/
def shutDown (w : World) : World :=
  { w with tasks := [], ended := w.ended ++ w.tasks.map fun t => (t.number, none) }

def close (w : World) (g : Barrier) : World := { w with shut := g :: w.shut }

/-- Open a barrier; what waits there goes on with the next `settle`. -/
def release (w : World) (g : Barrier) : World := { w with shut := w.shut.filter (· ≠ g) }

/-! ### Time and sweeping -/

/-- Milliseconds between two sweeps. -/
def sweepPeriod (w : World) : Nat := max w.setup.sweepSecs.toNat 1 * 1000

/-- How late a sweep may be, in milliseconds, for the next one to keep to the timetable. -/
def sweepTolerance : Nat := 5

def sweepNow (w : World) : World := (w.call (Service.sweep w.setup).run).2

/-- Start the sweeper. It sweeps at once, unless it was told to stop before. -/
def startSweeper (w : World) : World :=
  match w.sweeper.status with
  | .idle =>
    if w.sweeper.stopping then { w with sweeper := { w.sweeper with status := .finished } }
    else { w.sweepNow with sweeper := ⟨.running, false, w.elapsed + w.sweepPeriod⟩ }
  | _ => w

/-- Tell the sweeper whether to stop. Gives whether it could be told, and whether it is finished. -/
def stopSweeper (w : World) (stop : Bool) : (Bool × Bool) × World :=
  match w.sweeper.status with
  | .finished => ((false, true), w)
  | .idle => ((true, false), { w with sweeper := { w.sweeper with stopping := stop } })
  | .running =>
    ((true, stop), if stop then { w with sweeper := { w.sweeper with status := .finished } } else w)

/-- Let time pass. However long it is, at most one sweep is done; after a late one the next is a
full period away. -/
def pass (w : World) (millis : Nat) : World :=
  let w := { w with now := w.now.addMillis millis, elapsed := w.elapsed + millis }
  if w.sweeper.status = .running ∧ w.sweeper.due ≤ w.elapsed then
    let next :=
      if w.sweeper.due + sweepTolerance < w.elapsed then w.elapsed + w.sweepPeriod
      else w.sweeper.due + w.sweepPeriod
    { w.sweepNow with sweeper := { w.sweeper with due := next } }
  else w

end BoxOffice.Rehearsal.World
