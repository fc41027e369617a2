import BoxOffice.Rehearsal.Counterpart
import BoxOffice.Rehearsal.Processor
import BoxOffice.Service.Routing
import BoxOffice.Store.Method

/-! A box office over stand-ins: its records, its clock, and all that it deals with. `answer` says
what one request of a program is answered with and how the world changes by it. -/

namespace BoxOffice.Rehearsal

/-- A kind of request that can be made to wait. -/
inductive Barrier where
  | wallet
  | discover
  | push
deriving DecidableEq

/-- The barrier that a request passes through. -/
def barrier? : Request → Option Barrier
  | .payInvoice _ _ => some .wallet
  | .discover _ => some .discover
  | .push _ _ => some .push
  | _ => none

/-- Whether a request leaves the box office, so that it is noted down. -/
def isOutside : Request → Bool
  | .createInvoice _ | .fetchSettlement _ | .fetchInvoice _ | .payInvoice _ _ | .discover _
  | .push _ _ | .notify _ _ => true
  | _ => false

/-- A dispatch under way. -/
structure Task where
  number : Nat
  /-- Whether its next request is made already and waits for an answer. -/
  asked : Bool
  program : Program (Option Lifecycle)

inductive SweeperStatus where
  | idle
  | running
  | finished
deriving DecidableEq

structure Sweeper where
  status : SweeperStatus
  /-- Whether it was told to stop. -/
  stopping : Bool
  /-- When the next sweep is due, in milliseconds from the beginning. -/
  due : Nat

structure World where
  setup : Setup
  now : Time.Instant
  /-- Milliseconds since the beginning. -/
  elapsed : Nat
  store : Store
  /-- Errors that the store is to give, each once, to calls of the given kind. -/
  storeFaults : List (Store.Method × StoreError)
  processor : Processor
  /-- What the next requests for an invoice are answered with, before the stand-in is asked. -/
  nextInvoices : List (Except ProcessorError ProcessorInvoice)
  entities : Table String (Except ProcessorError SettlementEntity)
  invoices : Table String (Except ProcessorError ProcessorInvoice)
  wallet : Wallet
  provider : Provider
  notifier : Notifier
  /-- The barriers that are shut. -/
  shut : List Barrier
  /-- The dispatches that have not ended, in the order in which they last came to wait. -/
  tasks : List Task
  /-- The dispatches that have ended, with the state that each came to. -/
  ended : List (Nat × Option Lifecycle)
  dispatched : Nat
  sweeper : Sweeper
  counters : Table Counter Nat
  /-- The requests that left the box office, the latest last. -/
  log : List Request
  /-- How many names of each kind were given out. -/
  ticketNames : Nat
  paymentNames : Nat
  codes : Nat

namespace World

/-- A world in which nothing has happened. -/
def fresh (setup : Setup) (now : Time.Instant) (wallet : Wallet) (provider : Provider)
    (notifier : Notifier) : World where
  setup
  now
  elapsed := 0
  store := .empty
  storeFaults := []
  processor := .fresh
  nextInvoices := []
  entities := .empty
  invoices := .empty
  wallet
  provider
  notifier
  shut := []
  tasks := []
  ended := []
  dispatched := 0
  sweeper := ⟨.idle, false, 0⟩
  counters := .empty
  log := []
  ticketNames := 0
  paymentNames := 0
  codes := 0

/-! ### Names -/

/-- The `n`-th name of the given series. -/
def nthUuid (series n : Nat) : Uuid :=
  ⟨BitVec.ofNat 128 (((0xd1f7c2a86b3e4c59 * 4 + series) <<< 62) + 0x2e90b47f_00000000 + n)⟩

def nthTicket (n : Nat) : TicketId := ⟨nthUuid 1 n⟩

def nthPayment (n : Nat) : PaymentId := ⟨nthUuid 2 n⟩

/-- The `n`-th code. -/
def nthCode (n : Nat) : TicketCode :=
  let number := 0x5a3c7e91d2 + n
  .ofLetters ((List.range 8).reverse.map fun i => Fin.ofNat 32 (number >>> (5 * i)))

/-! ### Answers -/

/-- Take the first fault for a kind of call out of the list. -/
def takeFault (m : Store.Method) :
    List (Store.Method × StoreError) → Option StoreError × List (Store.Method × StoreError)
  | [] => (none, [])
  | (m', e) :: rest =>
    if m' = m then (some e, rest)
    else let (found, rest') := takeFault m rest; (found, (m', e) :: rest')

def callStore (w : World) (call : Store.Call) : Except StoreError call.Reply × World :=
  match takeFault call.method w.storeFaults with
  | (some e, rest) => (.error e, { w with storeFaults := rest })
  | (none, _) => let (reply, s) := w.store.perform call; (reply, { w with store := s })

def increment (counters : Table Counter Nat) (c : Counter) : Table Counter Nat :=
  counters.set c ((counters.find? c).getD 0 + 1)

def answer (w : World) : (r : Request) → r.Answer × World
  | .now => (w.now, w)
  | .freshTicket => (nthTicket w.ticketNames, { w with ticketNames := w.ticketNames + 1 })
  | .freshPayment => (nthPayment w.paymentNames, { w with paymentNames := w.paymentNames + 1 })
  | .freshCode => (nthCode w.codes, { w with codes := w.codes + 1 })
  | .store call => w.callStore call
  | .createInvoice spec => match w.nextInvoices with
    | given :: rest => (given, { w with nextInvoices := rest })
    | [] => let (a, p) := w.processor.createInvoice spec; (a, { w with processor := p })
  | .fetchSettlement id => ((w.entities.find? id).getD (w.processor.fetchSettlement id), w)
  | .fetchInvoice id => ((w.invoices.find? id).getD (w.processor.fetchInvoice id), w)
  | .payInvoice _ invoice => let (a, x) := w.wallet.pay invoice; (a, { w with wallet := x })
  | .discover domain => let (a, p) := w.provider.discover domain; (a, { w with provider := p })
  | .push _ request => let (a, p) := w.provider.push request; (a, { w with provider := p })
  | .notify url notice => let (a, n) := w.notifier.notify url notice; (a, { w with notifier := n })
  | .dispatch context => ((), { w with
      dispatched := w.dispatched + 1
      tasks := w.tasks ++ [⟨w.dispatched + 1, false, Service.route w.setup context⟩] })
  | .count c => ((), { w with counters := increment w.counters c })

/-- Note a request down if it leaves the box office. -/
def note (w : World) (r : Request) : World :=
  if isOutside r then { w with log := w.log ++ [r] } else w

def isShut (w : World) (r : Request) : Bool := (barrier? r).any w.shut.contains

end World

end BoxOffice.Rehearsal
