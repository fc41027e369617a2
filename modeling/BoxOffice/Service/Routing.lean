import BoxOffice.Lifecycle.Reduce
import BoxOffice.Program
import BoxOffice.Protocol.Version
import BoxOffice.Setup

/-! Running a lifecycle: an action is decided on, a change of status is stored, the errands are
done and their outcomes are decided on in turn. A change that another writer came before is not
stored; the status found in its place is adopted. -/

namespace BoxOffice

/-- The agreement with a provider failed, or the push itself. -/
def Errand.push (domain : String) (request : PaymentRequest) (versions : List UInt32) :
    ExceptT ProviderError Program Unit := do
  let configuration ← ExceptT.mk (Program.request (.discover domain))
  if (Protocol.negotiate versions configuration.versions).isNone then
    throw (.unsupportedVersion configuration.versions)
  let endpoint ← Program.orThrow (.noRequestEndpoint domain) configuration.requestEndpoint
  ExceptT.mk (Program.request (.push endpoint request))

/-- Do an errand; the action says what became of it. -/
def Errand.perform : Errand → Program LifecycleAction
  | .payInvoice credential invoice =>
    (Program.request (.payInvoice credential invoice)).bind fun
      | .ok _ => .pure .walletPaid
      | .error e => .pure (.walletFailed e.message)
  | .pushRequest domain request versions =>
    (push domain request versions).run.bind fun
      | .ok () => .pure .pushDelivered
      | .error e => .pure (.pushFailed e.message)

namespace Lifecycle

mutual

/-- Carry out an effect in order; a delay costs nothing here. -/
def perform : Effect Errand LifecycleAction → Program (List LifecycleAction)
  | .idle => .pure []
  | .parallel es => performAll es
  | .sequential es => performAll es
  | .delay _ a => .pure [a]
  | .future errand => errand.perform.bind fun a => .pure [a]
termination_by structural e => e

def performAll : List (Effect Errand LifecycleAction) → Program (List LifecycleAction)
  | [] => .pure []
  | e :: rest => (perform e).bind fun first => (performAll rest).bind fun more =>
    .pure (first ++ more)
termination_by structural es => es

end

/-- What running a lifecycle came to. -/
structure Outcome where
  state : Lifecycle
  /-- Whether a change of status was stored. -/
  persisted : Bool
deriving DecidableEq

/-- The counter of an errand's outcome. -/
def dispatchCounter : LifecycleAction → Option Counter
  | .walletPaid => some (.dispatches .wallet true)
  | .walletFailed _ => some (.dispatches .wallet false)
  | .pushDelivered => some (.dispatches .push true)
  | .pushFailed _ => some (.dispatches .push false)
  | _ => none

/-- How many actions may follow from one, itself included. -/
def chainLength : LifecycleAction → Nat
  | .dispatch _ => 3
  | .walletFailed _ => 2
  | _ => 1

end Lifecycle

namespace Service

open Lifecycle

/-- When a change of status happens: at the settlement, or now. -/
def changeTime (s : Lifecycle) : Program Time.Instant :=
  match s.paidAt with
  | some t => .pure t
  | none => Program.now

/-- Store the change to the state's status from another one. -/
def persist (s : Lifecycle) (source : PaymentStatus) :
    ExceptT StoreError Program Lifecycle.Outcome := do
  let time ← changeTime s
  let stored : Bool ← Program.store (.applyTransition s.ticketId ⟨source, s.paymentStatus, time⟩)
  if stored then
    Program.count (.payments s.paymentStatus)
    return ⟨s, true⟩
  match ← Program.store (.paymentForTicket s.ticketId) with
  | some p => return ⟨{ s.setStatus p.status with paidAt := p.paidAt }, false⟩
  | none => return ⟨s, false⟩

/-- Store a decision, if it is one on the status. -/
def storeDecision (s : Lifecycle) (before : PaymentStatus) :
    ExceptT StoreError Program Lifecycle.Outcome :=
  if s.paymentStatus ≠ before then persist s before else pure ⟨s, false⟩

/-- Count what became of an errand. -/
def countErrand (action : LifecycleAction) : Program Unit :=
  match dispatchCounter action with
  | some c => Program.count c
  | none => .pure ()

/-- Decide on the actions in order, `fuel` of them at most, and on what follows from them. -/
def drain (setup : Setup) :
    (fuel : Nat) → Lifecycle.Outcome → List LifecycleAction →
      ExceptT StoreError Program Lifecycle.Outcome
  | 0, outcome, _ => pure outcome
  | _, outcome, [] => pure outcome
  | fuel + 1, outcome, action :: rest => do
    countErrand action
    let now ← Program.now
    let (s, effects) := reduce ⟨now, setup.receiver, setup.versions⟩ outcome.state action
    let stored ← storeDecision s outcome.state.paymentStatus
    let produced ← performAll effects
    drain setup fuel
      ⟨{ stored.state with lastError := none }, outcome.persisted || stored.persisted⟩
      (rest ++ produced)

/-- Take an action on a state and go on until nothing is left to do. -/
def run (setup : Setup) (s : Lifecycle) (action : LifecycleAction) :
    ExceptT StoreError Program Lifecycle.Outcome :=
  drain setup (chainLength action) ⟨s, false⟩ [action]

/-- Take an action on the stored lifecycle of a ticket. -/
def apply (setup : Setup) (ticket : TicketId) (action : LifecycleAction) :
    ExceptT StoreError Program Lifecycle.Outcome := do
  let t ← Program.orThrow (.notFound ("ticket " ++ ticket.toString))
    (← Program.store (.ticket ticket))
  let p ← Program.orThrow (.notFound ("payment for ticket " ++ ticket.toString))
    (← Program.store (.paymentForTicket ticket))
  run setup (.ofRecords t p) action

/-- Route a payment; nothing is reported when storing fails. -/
def route (setup : Setup) (context : DispatchContext) : Program (Option Lifecycle) :=
  (apply setup context.ticketId (.dispatch context)).run.bind fun
    | .ok outcome => .pure (some outcome.state)
    | .error _ => .pure none

end Service

end BoxOffice
