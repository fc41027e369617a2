import BoxOffice.Api.Handler
import BoxOffice.Rehearsal.Run
import BoxOffice.Script.Label
import BoxOffice.Script.Lifecycle
import BoxOffice.Script.World

/-! Sessions: operations on one world, one after another. After each, the dispatches run as far as
they can; then its result is shown, with the requests that left the box office and the statuses of
all tickets that results have shown so far. -/

namespace BoxOffice.Script

open Rehearsal

structure Session where
  world : World
  /-- The dispatches begun by operations, by their numbers in the world. -/
  dispatches : List Nat
  labels : Labels
  /-- The tickets that results have shown. -/
  tickets : List String

abbrev Op := StateT Session Reads

namespace Session

/-! ### Running in the world -/

def onWorld {α : Type} (f : World → α × World) : Op α :=
  modifyGet fun s => let (a, w) := f s.world; (a, { s with world := w })

def changeWorld (f : World → World) : Op Json := do
  modify fun s => { s with world := f s.world }
  return .string "ok"

def withSetup {α : Type} (f : Setup → α) : Op α := do return f (← get).world.setup

/-- Run a program and show what it gives. -/
def running {α : Type} (p : Setup → Program α) (shown : α → Json) : Op Json := do
  match ← onWorld fun w => w.call (p w.setup) with
  | some a => return shown a
  | none => return bareFailure "panic"

def fallible {ε α : Type} (p : Setup → ExceptT ε Program α) (shown : α → Json)
    (failed : ε → Json) : Op Json :=
  running (fun setup => (p setup).run) fun
    | .ok a => shown a
    | .error e => failed e

/-- Make one call to the store. -/
def calling (call : Store.Call) (shown : call.Reply → Json) : Op Json :=
  fallible (fun _ => Program.store call) shown storeFailure

def answering (p : Setup → ExceptT Protocol.ErrorEnvelope Program Protocol.PayResponse) : Op Json :=
  fallible p Protocol.PayResponse.toJson Protocol.ErrorEnvelope.toJson

/-! ### Selling -/

/-- When events of scripts take place unless another time is given. -/
def usualEventTime : Time.Instant :=
  .ofSeconds ((Time.Date.toDays ⟨2025, 2, 1⟩ * 24 + 18) * 3600)

def event (j : Json) : Reads Event := do
  return {
    id := ⟨← uuid j "id"⟩
    title := ← textOr j "title" "Lightning Summit"
    startsAt := ← wantOr Json.asInstant j "starts_at" usualEventTime
    endsAt := ← wantOr Json.asInstant j "ends_at" usualEventTime
    capacity := ← want Json.asU32 j "capacity"
    price := ⟨← number j "price"⟩
    active := ← flagOr j "active" true }

/-- The places of an event: taken, left, and whether a purchase finds one. -/
def places (id : EventId) :
    ExceptT StoreError Program (Option (UInt32 × UInt32 × Except StoreError UInt32)) := do
  match ← Program.store (.event id) with
  | none => return none
  | some event =>
    let held ← Program.store (.heldCount event.id)
    let left ← Service.remainingPlaces event
    let found ← ExceptT.lift (Service.ensureAvailable event).run
    return some (held, left, found)

def placesJson : Option (UInt32 × UInt32 × Except StoreError UInt32) → Json
  | none => .null
  | some (held, left, found) => .object [
      ("held", .ofNat held.toNat),
      ("remaining", .ofNat left.toNat),
      ("ensure", match found with
        | .ok n => .ofNat n.toNat
        | .error e => storeFailure e)]

def newPurchase (j : Json) : Reads NewPurchase := do
  return {
    ticketId := ⟨← uuid j "ticket"⟩
    eventId := ⟨← uuid j "event"⟩
    userId := ⟨← uuid j "user"⟩
    code := ⟨← text j "code"⟩
    buyerAddress := ← textOption j "address"
    invoice := ← wantOption Invoice.ofJson j "invoice"
    createdAt := ← instant j "created_at" }

/-- Store a purchase as it is given. -/
def create (p : NewPurchase) : ExceptT StoreError Program Snapshot := do
  let id ← Program.request .freshPayment
  let (ticket, payment) ← Program.store (.createPurchase p id)
  return ⟨ticket, payment⟩

/-! ### Settling -/

def settlementJson : ReconcileOutcome → Json
  | .settled t => .object [("outcome", .string "Settled"), ("ticket_id", .string t.toString)]
  | .alreadySettled t =>
    .object [("outcome", .string "AlreadySettled"), ("ticket_id", .string t.toString)]
  | .rejected t s => .object [("outcome", .string "Rejected"), ("ticket_id", .string t.toString),
      ("status", .string s.name)]
  | .unmatched invoice => .object [("outcome", .string "Unmatched"), ("invoice", .string invoice)]
  | .ignored type => .object [("outcome", .string "Ignored"), ("event_type", .string type)]

/-- The body of the notification that a payment finished. -/
def notification (entity : String) : Bytes :=
  Text.encodeUtf8 (Json.object [("entity_id", .string entity),
    ("event_type", .string WebhookEvent.paymentFinished)]).compress

/-- Hand in a notification, signed as the script says. -/
def notify (j : Json) (body : Bytes) : Op Json := do
  let signature ← match ← textOption j "sign_with" with
    | some secret => pure (some (Signature.sign (Text.encodeUtf8 secret) body))
    | none => textOption j "signature"
  fallible (fun setup => Service.onNotification setup body signature) settlementJson
    reconcileFailure

/-- Have an invoice paid, by somebody or by us; gives the name of the payment. -/
def pay (shape encoded : String) : Op (Option String) := do
  match shape with
  | "incoming" => onWorld fun w =>
    let (id, p) := w.processor.settleIncoming encoded
    (id, { w with processor := p })
  | "outgoing" => onWorld fun w =>
    let (id, p) := w.processor.settleOutgoing encoded
    (some id, { w with processor := p })
  | _ => throw "shape"

/-- Have the current invoice of a ticket paid, and hand in the notification. -/
def payAndNotify (j : Json) (ticket : TicketId) : Op Json := do
  match (← get).world.store.invoices.find? ticket with
  | none => return .null
  | some invoice => match ← pay (← text j "shape") invoice.encoded with
    | none => return .null
    | some entity => notify j (notification entity)

/-! ### Dispatching -/

/-- The `n`-th dispatch, counted from zero: whether it runs, and else what it came to. -/
def dispatchJson (s : Session) (n : Nat) : Json :=
  .object <| ("dispatch", .ofNat n) ::
    match (s.dispatches[n]?).bind s.world.dispatchResult? with
    | some state => [("running", .bool false), ("state", .ofOption lifecycleJson state)]
    | none => [("running", .bool true)]

def dispatch (context : DispatchContext) : Op Json := do
  let number ← onWorld (·.dispatch context)
  let n := (← get).dispatches.length
  modify fun s => { s with world := s.world.settle, dispatches := s.dispatches ++ [number] }
  return (← get).dispatchJson n

def barrier (j : Json) : Reads Barrier := do
  match ← text j "what" with
  | "wallet" => return .wallet
  | "discover" => return .discover
  | "push" => return .push
  | _ => throw "what"

/-! ### The store -/

/-- The kinds of calls, by name. -/
def storeMethod? : String → Option Store.Method
  | "put_event" => some .putEvent
  | "event" => some .event
  | "held_count" => some .heldCount
  | "ticket" => some .ticket
  | "payment" => some .payment
  | "payment_for_ticket" => some .paymentForTicket
  | "invoice_for_ticket" => some .invoiceForTicket
  | "payment_by_invoice" => some .paymentByInvoice
  | "oldest_pending_payment_with_amount" | "oldest_pending" => some .oldestPending
  | "expired_pending_payments" | "expired_pending" => some .expiredPending
  | "create_purchase" => some .createPurchase
  | "apply_transition" | "transition" => some .applyTransition
  | "reissue" => some .reissue
  | "record_counterparty_callback" | "record_callback" => some .recordCallback
  | "wallet_credential" => some .credential
  | "upsert_wallet_credential" | "upsert_credential" => some .putCredential
  | _ => none

/-- The name of a record, which is given as that or under its kind. -/
def recordName (j : Json) (kind : String) : Reads Uuid :=
  if (given? j "id").isSome then uuid j "id" else uuid j kind

def transition (j : Json) : Reads Transition := do
  let status (name : String) := want (Json.asParsed PaymentStatus.ofName?) j name
  return ⟨← status "from", ← status "to", ← instant j "at"⟩

/-! ### HTTP -/

def httpRequest (j : Json) : Reads Api.HttpRequest := do
  let body := (← bytesOption j "body").getD []
  let headers ← match given? j "headers" with
    | some (.object ms) => ms.mapM fun (k, v) => (k, ·) <$> readAs Json.asString "headers" v
    | some _ => throw "headers"
    | none => pure []
  let signature := (← textOption j "sign_with").map fun secret =>
    (Api.signatureHeader, Signature.sign (Text.encodeUtf8 secret) body)
  return ⟨← text j "method", ← text j "uri", headers ++ signature.toList, body⟩

def responseJson (r : Api.Response) : Json := .object [
  ("status", .ofNat r.status),
  ("body", match r.body with
    | .empty => .null
    | .json j => j
    | .text => .string "<text>")]

/-! ### Operations -/

def perform (j : Json) : Op Json := do
  match ← text j "do" with
  | "put_event" => let e ← event j; calling (.putEvent e) fun _ => .string "ok"
  | "event" => let id ← uuid j "id"; calling (.event ⟨id⟩) (.ofOption Event.toJson)
  | "availability" =>
    let id ← uuid j "event"
    fallible (fun _ => places ⟨id⟩) placesJson storeFailure
  | "purchase" =>
    let event ← uuid j "event"
    let user ← uuid j "user"
    let buyer ← textOption j "address"
    fallible (fun s => Service.purchase s ⟨event⟩ ⟨user⟩ buyer) Receipt.toJson purchaseFailure
  | "ticket_status" =>
    let id ← uuid j "ticket"
    fallible (fun _ => Service.ticketStatus ⟨id⟩) Snapshot.toJson purchaseFailure
  | "retry" =>
    let id ← uuid j "payment"
    fallible (fun s => Service.retry s ⟨id⟩) Receipt.toJson purchaseFailure
  | "issue" =>
    let ticket ← uuid j "ticket"
    let buyer ← text j "address"
    let amount ← number j "amount"
    let description ← text j "description"
    fallible (fun s => Service.issue s ⟨ticket⟩ buyer ⟨amount⟩ description) Invoice.toJson
      issueFailure
  | "payable_parameters" =>
    let username ← text j "username"
    withSetup fun s => .ofOption (·.toJson) (Service.payableParameters s username)
  | "uma_configuration" => withSetup fun s => (Service.ownConfiguration s).toJson
  | "payreq_url" =>
    let ticket ← uuid j "ticket"
    withSetup fun s => .string (Service.pullUrl s ⟨ticket⟩)
  | "pay_request" =>
    let ticket ← uuid j "ticket"
    match (Json.parse (← bytes j "body")).bind fun b => (Protocol.PayRequest.ofJson b).toOption with
    | none => return bareFailure "InvalidJson"
    | some request => answering fun s => Service.payRequest s ⟨ticket⟩ request
  | "pay_by_amount" =>
    let msats ← wantOption Json.asU64 j "msats"
    answering fun _ => Service.payByAmount msats
  | "settle_incoming" => return .ofOption .string (← pay "incoming" (← text j "encoded"))
  | "settle_outgoing" => return .ofOption .string (← pay "outgoing" (← text j "encoded"))
  | "notify" =>
    let body ← match ← textOption j "entity" with
      | some entity => pure (notification entity)
      | none => bytes j "body"
    notify j body
  | "settle" => payAndNotify j ⟨← uuid j "ticket"⟩
  | "verify" =>
    let body ← bytes j "body"
    let signature ← text j "signature"
    withSetup fun s =>
      if Signature.verify s.secret body signature then .string "ok"
      else reconcileFailure .invalidSignature
  | "apply" =>
    let ticket ← uuid j "ticket"
    let action ← lifecycleAction (← given j "action")
    fallible (fun s => Service.apply s ⟨ticket⟩ action) outcomeJson storeFailure
  | "run" =>
    let state ← lifecycle (← given j "state")
    let action ← lifecycleAction (← given j "action")
    fallible (fun s => Service.run s state action) outcomeJson storeFailure
  | "dispatch" => dispatch (← dispatchContext (← given j "context"))
  | "join" => let n ← number j "n"; return (← get).dispatchJson n.toNat
  | "shutdown" => changeWorld (·.shutDown)
  | "sweep" => fallible Service.sweep .ofNat storeFailure
  | "start_sweeper" => changeWorld (·.startSweeper)
  | "stop_sweeper" =>
    let stop ← flagOr j "value" true
    let (sent, stopped) ← onWorld (·.stopSweeper stop)
    return .object [("sent", .bool sent), ("stopped", .bool stopped)]
  | "advance" =>
    let ms ← number j "ms"
    onWorld fun w => let w := w.pass ms.toNat; (.string w.now.toString, w)
  | "set_wallet" =>
    let wallet ← wallet ((given? j "wallet").getD j)
    changeWorld fun w => { w with wallet }
  | "set_uma" =>
    let provider ← provider ((given? j "uma").getD j)
    changeWorld fun w => { w with provider }
  | "hold" => let g ← barrier j; changeWorld (·.close g)
  | "release" => let g ← barrier j; changeWorld (·.release g)
  | "fail_next_invoice" =>
    changeWorld fun w => { w with processor := w.processor.failNext }
  | "next_invoice" =>
    let answer ← processorAnswer ProcessorInvoice.ofJson j "invoice"
    changeWorld fun w => { w with nextInvoices := w.nextInvoices ++ [answer] }
  | "entity" =>
    let id ← text j "id"
    let answer ← processorAnswer SettlementEntity.ofJson j "entity"
    changeWorld fun w => { w with entities := w.entities.set id answer }
  | "processor_invoice" =>
    let id ← text j "id"
    let answer ← processorAnswer ProcessorInvoice.ofJson j "invoice"
    changeWorld fun w => { w with invoices := w.invoices.set id answer }
  | "mock_counts" => return standInJson (← get).world
  | "fail_store" =>
    let method ← want (Json.asParsed storeMethod?) j "method"
    let error ← storeError (← given j "error")
    changeWorld fun w => { w with storeFaults := w.storeFaults ++ [(method, error)] }
  | "create_purchase" =>
    let p ← newPurchase j
    fallible (fun _ => create p) Snapshot.toJson storeFailure
  | "transition" =>
    let ticket ← uuid j "ticket"
    let t ← transition j
    calling (.applyTransition ⟨ticket⟩ t) Json.bool
  | "reissue" =>
    let payment ← uuid j "payment"
    let invoice ← want Invoice.ofJson j "invoice"
    calling (.reissue ⟨payment⟩ invoice) Payment.toJson
  | "ticket" =>
    let id ← recordName j "ticket"
    calling (.ticket ⟨id⟩) (.ofOption Ticket.toJson)
  | "payment" =>
    let id ← recordName j "payment"
    calling (.payment ⟨id⟩) (.ofOption Payment.toJson)
  | "payment_for_ticket" =>
    let id ← uuid j "ticket"
    calling (.paymentForTicket ⟨id⟩) (.ofOption Payment.toJson)
  | "invoice_for_ticket" =>
    let id ← uuid j "ticket"
    calling (.invoiceForTicket ⟨id⟩) (.ofOption Invoice.toJson)
  | "payment_by_invoice" =>
    let encoded ← text j "encoded"
    calling (.paymentByInvoice encoded) (.ofOption Payment.toJson)
  | "oldest_pending" =>
    let amount ← number j "amount"
    calling (.oldestPending ⟨amount⟩) (.ofOption Payment.toJson)
  | "wallet_credential" =>
    let user ← uuid j "user"
    calling (.credential ⟨user⟩) (.ofOption WalletCredential.toJson)
  | "expired_pending" =>
    let now ← instant j "now"
    calling (.expiredPending now) fun (ps : List Payment) => .array (ps.map (·.toJson))
  | "record_callback" =>
    let payment ← uuid j "payment"
    let url ← text j "url"
    calling (.recordCallback ⟨payment⟩ url) fun _ => .string "ok"
  | "upsert_credential" =>
    let credential ← want WalletCredential.ofJson j "credential"
    calling (.putCredential credential) fun _ => .string "ok"
  | "http" => let r ← httpRequest j; running (fun s => Api.handle s r) responseJson
  | "metrics" =>
    let help ← flagOr j "help" false
    return metricsJson (← get).world help
  | _ => throw "do"

/-! ### What is shown -/

mutual

/-- The tickets that a value shows. A ticket is a record with a code; what only names one, as an
invoice does, shows none. -/
def ticketsIn : Json → List String
  | .array items => ticketsInItems items
  | .object members => ticketsInMembers (members.any (·.1 == "code")) members
  | _ => []
termination_by structural j => j

def ticketsInItems : List Json → List String
  | [] => []
  | j :: rest => ticketsIn j ++ ticketsInItems rest
termination_by structural js => js

def ticketsInMembers (isTicket : Bool) : List (String × Json) → List String
  | [] => []
  | (name, j) :: rest =>
    let own := match j with
      | .string s => if isTicket && name == "id" then [s] else []
      | _ => []
    own ++ ticketsIn j ++ ticketsInMembers isTicket rest
termination_by structural ms => ms

end

/-- Add what is not there yet. -/
private def addNew (known found : List String) : List String :=
  found.foldl (fun known t => if known.contains t then known else known ++ [t]) known

/-- One operation, and what is seen after it. -/
def step (j : Json) : Op Json := do
  modify fun s => { s with world := { s.world with log := [] } }
  let result ← perform ((← get).labels.reveal j)
  modify fun s =>
    let world := s.world.settle
    { s with
      world
      labels := s.labels.see world result
      tickets := addNew s.tickets (ticketsIn result) }
  let s ← get
  let calls := s.world.log.map callJson
  let tickets := s.tickets.map fun t => Json.string (ticketLine s.world t)
  return s.labels.hide <| .object <| ("result", result) ::
    (if calls.isEmpty then [] else [("calls", .array calls)]) ++
    (if tickets.isEmpty then [] else [("tickets", .array tickets)])

/-- A whole session: its settings, and the operations in order. -/
def play (settings : Json) (ops : List Json) : Reads Json := do
  match ← Script.world settings with
  | .error e => return failure "assemble" e.message
  | .ok w =>
    let (steps, s) ← (ops.mapM step).run ⟨w, [], .empty, []⟩
    return .object [("steps", .array steps), ("metrics", metricsJson s.world false)]

end Session

end BoxOffice.Script
