import BoxOffice.Proofs.Service.Job
import BoxOffice.Proofs.Store.Rows

/-! Service calls at the same time, over one store. A move begins a call or takes one turn of one
that has begun; which call moves next is open, and so is what anybody but the store answers. Names
that are made up are new. Between two turns the rows of the store may come to stand in another
order. -/

namespace BoxOffice

/-- What is made up to name something. -/
inductive Name where
  | ticket (id : TicketId)
  | payment (id : PaymentId)
deriving DecidableEq

/-- The name that was made up in a turn. -/
def Turn.name? : Turn → Option Name
  | ⟨.freshTicket, k⟩ => some (.ticket k)
  | ⟨.freshPayment, id⟩ => some (.payment id)
  | _ => none

/-- A service call under way. -/
structure Task where
  job : Job
  program : Program job.Result

def Task.ofJob (setup : Setup) (job : Job) : Task := ⟨job, job.program setup⟩

/-- A turn that a task took, and the store before it. -/
structure Entry where
  task : Nat
  job : Job
  before : Store
  turn : Turn

def Entry.after (e : Entry) : Store :=
  match e.turn.request with
  | .store c => (e.before.perform c).2
  | _ => e.before

structure Office where
  store : Store
  /-- Those that begin later stand later; none is taken out. -/
  tasks : List Task
  /-- The turns taken, latest first. -/
  log : List Entry

namespace Office

def empty : Office := ⟨.empty, [], []⟩

inductive Move where
  /-- A call from outside. -/
  | begin (job : Job)
  /-- A turn of a task, where `outside` answers for all but the store. -/
  | go (task : Nat) (outside : (r : Request) → r.Answer)
  /-- The rows come to stand as in the other store. -/
  | reorder (order : Store)

/-- The jobs that a request begins. -/
def spawned : Request → List Job
  | .dispatch c => [.route c]
  | _ => []

/-- The office after jobs have begun. -/
def beginning (o : Office) (setup : Setup) (jobs : List Job) : Office :=
  { o with tasks := o.tasks ++ jobs.map (.ofJob setup) }

/-- There is no answer that would be a name made up before. -/
def answer? (o : Office) (outside : (r : Request) → r.Answer) (r : Request) : Option r.Answer :=
  let x := match r with
    | .store c => (o.store.perform c).1
    | r => outside r
  match Turn.name? ⟨r, x⟩ with
  | some n => if o.log.any (·.turn.name? = some n) then none else some x
  | none => some x

/-- The office after a turn that leaves the task as given. -/
def advanced (o : Office) (e : Entry) (t : Task) : Office :=
  ⟨e.after, o.tasks.set e.task t, e :: o.log⟩

/-- A move that cannot be made changes nothing; routing is not called from outside. -/
def step (setup : Setup) (o : Office) : Move → Office
  | .begin (.route _) => o
  | .begin job => o.beginning setup [job]
  | .go i outside =>
    match o.tasks[i]? with
    | some ⟨job, .ask r next⟩ =>
      match o.answer? outside r with
      | some x =>
        (o.advanced ⟨i, job, o.store, ⟨r, x⟩⟩ ⟨job, next x⟩).beginning setup (spawned r)
      | none => o
    | _ => o
  | .reorder order => { o with store := o.store.reordered order }

def run (setup : Setup) (moves : List Move) : Office := moves.foldl (step setup) empty

/-! ### Runs to look at -/

/-- What those but the store answer during some turns. -/
structure Outside where
  ticket : TicketId := ⟨⟨0⟩⟩
  payment : PaymentId := ⟨⟨0⟩⟩
  now : Time.Instant := default
  /-- The invoice that the processor issues or reports as paid. -/
  invoice : String := ""
  expiresAt : Time.Instant := default
  /-- Whether the counterparty takes what is sent to it. -/
  delivers : Bool := true

def Outside.answer (o : Outside) : (r : Request) → r.Answer
  | .now => o.now
  | .freshTicket => o.ticket
  | .freshPayment => o.payment
  | .freshCode => ⟨""⟩
  | .store _ => .error (.database "")
  | .createInvoice _ => .ok ⟨"", "", o.invoice, 0, some o.expiresAt⟩
  | .fetchSettlement _ => .ok (.outgoing "" (some (.encoded o.invoice)))
  | .fetchInvoice _ => .error (.notFound "")
  | .payInvoice _ _ => .error (.unreachable "")
  | .discover _ => .ok ⟨[1], some ""⟩
  | .push _ _ => if o.delivers then .ok () else .error (.unreachable "")
  | .notify _ _ => .ok ()
  | .dispatch _ => ()
  | .count _ => ()

/-- Turns of one task; those it has no use for change nothing. -/
def Move.turns (n task : Nat) (o : Outside) : List Move := List.replicate n (.go task o.answer)

def sampleSetup : Setup := ⟨"", ⟨"a", "b"⟩, 0, 0, [1], [], 600, 60⟩

/-- An event with one place. -/
def sampleEvent : Event := ⟨⟨⟨1⟩⟩, "", default, default, 1, ⟨5⟩, true⟩

/-- Somebody buys a ticket. -/
def samplePurchase : Move := .begin (.purchase sampleEvent.id default (some "$a@b"))

/-- The place is sold to somebody who is sent an invoice `a`. -/
def sampleSale : List Move :=
  .begin (.putEvent sampleEvent) :: Move.turns 1 0 {} ++
  samplePurchase :: Move.turns 11 1 { invoice := "a" }

end Office

end BoxOffice
