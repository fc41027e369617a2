import BoxOffice.Api.Message
import BoxOffice.Api.Route
import BoxOffice.Service.Responding

/-! Answering HTTP requests. A path that leads nowhere is answered first, then a method that the
path does not take, then what cannot be taken out of the request, then the services. -/

namespace BoxOffice.Api

/-! ### Bodies -/

/-- What a buyer sends to buy a ticket. -/
structure Order where
  user : UserId
  buyerAddress : Option String

namespace Order

def fields : List Field := [
  ⟨"user_id", true, fun j => (Json.asUuid j).map fun _ => ()⟩,
  ⟨"buyer_address", false, fun j => (Json.nullable Json.asString j).map fun _ => ()⟩]

def ofJson (j : Json) : Json.Decoded Order := do
  let r ← Json.Record.ofJson ["user_id", "buyer_address"] j
  return {
    user := ⟨← r.required "user_id" Json.asUuid⟩
    buyerAddress := ← r.defaulted "buyer_address" none (Json.nullable Json.asString) }

end Order

/-- What a buyer sends to connect a wallet. -/
structure WalletConnection where
  uri : String
  expiresAt : Option Time.Instant

namespace WalletConnection

def fields : List Field := [
  ⟨"connection_uri", true, fun j => (Json.asString j).map fun _ => ()⟩,
  ⟨"expires_at", false, fun j => (Json.nullable Json.asInstant j).map fun _ => ()⟩]

def ofJson (j : Json) : Json.Decoded WalletConnection := do
  let r ← Json.Record.ofJson ["connection_uri", "expires_at"] j
  return {
    uri := ← r.required "connection_uri" Json.asString
    expiresAt := ← r.defaulted "expires_at" none (Json.nullable Json.asInstant) }

end WalletConnection

/-- White space between the tokens of a text, in ASCII. -/
def isAsciiBlank (b : UInt8) : Bool :=
  b == 0x20 || b == 0x09 || b == 0x0A || b == 0x0C || b == 0x0D

/-- The pay request in a body. An empty one asks for the invoice and nothing else. -/
def payRequestOf? (body : Bytes) : Option Protocol.PayRequest :=
  if body.all isAsciiBlank then some (.amount ⟨none⟩)
  else (Json.parse body).bind fun j => (Protocol.PayRequest.ofJson j).toOption

/-! ### Answers -/

/-- Go on with what was taken out of a request, or say why it could not be. -/
def extracting {α : Type} (e : Extracted α) (f : α → Program Response) : Program Response :=
  match e with
  | .ok a => f a
  | .error r => .pure r

/-- The answer of a service whose failures are problems. -/
def answering {ε α : Type} (toProblem : ε → Problem) (toResponse : α → Response)
    (p : ExceptT ε Program α) : Program Response :=
  p.run.bind fun
    | .ok a => .pure (toResponse a)
    | .error e => .pure (.ofProblem (toProblem e))

/-- The answer to a counterparty: a failure of the protocol is sent like a success. -/
def answeringCounterparty (p : ExceptT Protocol.ErrorEnvelope Program Protocol.PayResponse) :
    Program Response :=
  p.run.bind fun
    | .ok r => .pure (.ofJson 200 r.toJson)
    | .error e => .pure (.ofJson 200 e.toJson)

/-- Keep a wallet connection. -/
def connectWallet (user : UserId) (c : WalletConnection) : Program Response :=
  if (Text.trim c.uri.toList).isEmpty then
    .pure (.ofProblem (.invalid "connection_uri must not be empty"))
  else Program.now.bind fun now =>
    if c.expiresAt.any (· ≤ now) then .pure (.ofProblem (.invalid "expires_at is in the past"))
    else answering Problem.ofStore (fun _ => .nothing 204)
      (Program.store (.putCredential ⟨user, c.uri, c.expiresAt, now⟩))

/-- The header with the signature of a notification. -/
def signatureHeader : String := "x-lightning-signature"

/-- Only a bad signature is answered with an error. -/
def acknowledge : Except ReconcileError ReconcileOutcome → Response
  | .error .invalidSignature => .ofProblem (.ofReconcile .invalidSignature)
  | _ => .ofJson 200 (.object [("status", .string "ok")])

/-- The version of the interface. -/
def version : String := "0.1.0"

/-- Answer a request on a route that takes its method. -/
def serve (setup : Setup) (method : Method) (r : HttpRequest) : Route → Program Response
  | .purchase event =>
    extracting (do return (← pathUuid event, ← jsonBody Order.fields Order.ofJson r))
      fun (id, order) =>
        answering Problem.ofPurchase (fun receipt => .ofJson 201 receipt.toJson)
          (Service.purchase setup ⟨id⟩ order.user order.buyerAddress)
  | .ticket ticket =>
    extracting (pathUuid ticket) fun id =>
      answering Problem.ofPurchase (fun snapshot => .ofJson 200 snapshot.toJson)
        (Service.ticketStatus ⟨id⟩)
  | .retry payment =>
    extracting (pathUuid payment) fun id =>
      answering Problem.ofPurchase (fun receipt => .ofJson 200 receipt.toJson)
        (Service.retry setup ⟨id⟩)
  | .wallet user =>
    extracting
      (do return (← pathUuid user, ← jsonBody WalletConnection.fields WalletConnection.ofJson r))
      fun (id, connection) => connectWallet ⟨id⟩ connection
  | .payRequest ticket =>
    if method = .post then
      extracting (do return (← pathUuid ticket, ← r.limitedBody)) fun (id, body) =>
        answeringCounterparty <| match payRequestOf? body with
          | some request => Service.payRequest setup ⟨id⟩ request
          | none => throw (.ofReason "malformed pay request")
    else
      extracting (do return (← pathUuid ticket, ← queryAmount r.query)) fun (id, query) =>
        answeringCounterparty (Service.payRequest setup ⟨id⟩ (.amount query))
  | .amountCallback =>
    extracting (queryAmount r.query) fun query =>
      answeringCounterparty (Service.payByAmount query.amount)
  | .discovery username =>
    extracting (pathText username) fun name =>
      .pure <| match Service.payableParameters setup name with
        | some p => .ofJson 200 p.toJson
        | none => .ofProblem (.unknown "User" name)
  | .configuration => .pure (.ofJson 200 (Service.ownConfiguration setup).toJson)
  | .notification =>
    extracting r.limitedBody fun body =>
      (Service.onNotification setup body (r.header? signatureHeader)).run.bind fun result =>
        .pure (acknowledge result)
  | .health =>
    .pure (.ofJson 200 (.object [("status", .string "ok"), ("version", .string version)]))

/-- Answer a request. -/
def handle (setup : Setup) (r : HttpRequest) : Program Response :=
  match Route.ofPath? r.path with
  | none => .pure (.nothing 404)
  | some route =>
    match (Method.ofName? r.method).filter route.allows with
    | none => .pure (.nothing 405)
    | some .head => (serve setup .head r route).bind fun response => .pure response.withoutBody
    | some method => serve setup method r route

end BoxOffice.Api
