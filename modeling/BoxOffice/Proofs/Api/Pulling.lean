import BoxOffice.Api.Handler
import BoxOffice.Proofs.Office.Basic
import BoxOffice.Proofs.Program.Idle
import BoxOffice.Proofs.Store.Invoices

/-! Counterparties that pull an invoice. Whatever the store and the others answer, the services give
a quote or an envelope with a reason, and both are sent with status 200. What cannot be taken out of
a body is told in an envelope too. An amount that cannot be taken out of a query never gets to the
services: it is refused with status 400. -/

namespace BoxOffice

open Program Protocol

namespace Service

/-! ### Failures are told in an envelope -/

/-- The program has a result, and its failures are told by a reason, whatever it is answered. -/
def Explains {α : Type} (p : ExceptT ErrorEnvelope Program α) : Prop :=
  p.run.Gives (fun _ => True) fun x => ∀ e, x = .error e → ∃ reason, e = .ofReason reason

variable {α β : Type}

theorem explains_pure (a : α) : Explains (pure a) := failsWith_pure a

theorem explains_throw (reason : String) :
    Explains (throw (.ofReason reason) : ExceptT ErrorEnvelope Program α) :=
  failsWith_throw ⟨reason, rfl⟩

/-- Nothing follows a failure. -/
theorem explains_throw_bind (reason : String) (f : α → ExceptT ErrorEnvelope Program β) :
    Explains (throw (.ofReason reason) >>= f) :=
  explains_throw (α := β) reason

theorem Explains.bind {p : ExceptT ErrorEnvelope Program α}
    {f : α → ExceptT ErrorEnvelope Program β} (hp : Explains p) (hf : ∀ a, Explains (f a)) :
    Explains (p >>= f) :=
  FailsWith.bind hp hf

theorem explains_orThrow (reason : String) (o : Option α) :
    Explains (Program.orThrow (.ofReason reason) o) :=
  failsWith_orThrow ⟨reason, rfl⟩ o

theorem explains_request (r : Request) :
    Explains (liftM (Program.request r) : ExceptT ErrorEnvelope Program r.Answer) :=
  ⟨trivial, fun _ => nofun⟩

theorem responderStore_explains (c : Store.Call) : Explains (responderStore c) := by
  refine ⟨trivial, fun x => ?_⟩
  cases x with
  | ok reply => exact explains_pure reply
  | error e => exact explains_throw (α := c.Reply) "temporarily unavailable"

theorem currentInvoice_explains (payment : Payment) : Explains (currentInvoice payment) := by
  unfold currentInvoice
  refine (responderStore_explains _).bind fun found => ?_
  cases found with
  | none => exact explains_pure _
  | some invoice =>
    refine (explains_request .now).bind fun now => ?_
    dsimp only
    split
    · exact explains_throw_bind _ _
    · exact explains_pure _

theorem payRequest_explains (setup : Setup) (ticket : TicketId) (body : PayRequest) :
    Explains (payRequest setup ticket body) := by
  unfold payRequest
  refine (responderStore_explains _).bind fun found => ?_
  refine (explains_orThrow _ _).bind fun payment => ?_
  dsimp only
  split
  · exact explains_throw_bind _ _
  · refine (currentInvoice_explains payment).bind fun encoded => ?_
    cases body with
    | amount query => exact explains_pure _
    | full request =>
      dsimp only
      split
      · exact (explains_request _).bind fun _ => explains_pure _
      · exact explains_pure _

theorem payByAmount_explains (amount : Option UInt64) : Explains (payByAmount amount) := by
  unfold payByAmount
  refine (explains_orThrow _ _).bind fun msats => ?_
  refine (explains_orThrow _ _).bind fun amount => ?_
  refine (responderStore_explains _).bind fun found => ?_
  refine (explains_orThrow _ _).bind fun payment => ?_
  exact (currentInvoice_explains payment).bind fun encoded => explains_pure _

end Service

namespace Api

/-! ### Answers -/

/-- An invoice with its routes, or an envelope with the reason why there is none. -/
inductive Response.AnswersPull : Response → Prop
  | invoice (encoded : String) (routes : List Json) (quote : List (String × Json)) :
      AnswersPull ⟨200, .json (.object
        (("pr", .string encoded) :: ("routes", .array routes) :: quote))⟩
  | envelope (reason : String) :
      AnswersPull ⟨200, .json (.object
        [("status", .string "ERROR"), ("reason", .string reason)])⟩

theorem answeringCounterparty_gives {p : ExceptT ErrorEnvelope Program PayResponse}
    (hp : Service.Explains p) :
    (answeringCounterparty p).Gives (fun _ => True) Response.AnswersPull := by
  refine Gives.bind hp fun x hx => ?_
  cases x with
  | ok quote => exact .invoice quote.invoice quote.routes _
  | error e =>
    obtain ⟨reason, rfl⟩ := hx e rfl
    exact .envelope reason

theorem queryAmount_eq (query : List Char) :
    (∃ q, queryAmount query = .ok q) ∨ queryAmount query = .error (.refusal 400) := by
  unfold queryAmount
  split
  · exact .inl ⟨_, rfl⟩
  · split
    · exact .inl ⟨_, rfl⟩
    · exact .inr rfl
  · exact .inr rfl

variable {setup : Setup} {r : HttpRequest} {segment : List Char} {id : Uuid}

/-- A route is served if it takes the method. -/
theorem handle_of_route {route : Route} {method : Method}
    (hroute : Route.ofPath? r.path = some route) (hmethod : Method.ofName? r.method = some method)
    (hallows : route.allows method) (hhead : method ≠ .head) :
    handle setup r = serve setup method r route := by
  have hfilter : (some method).filter route.allows = some method :=
    Option.filter_eq_some_iff.2 ⟨rfl, hallows⟩
  simp only [handle, hroute, hmethod, hfilter]

/-- A body may hold anything. -/
theorem serve_post_gives (hticket : pathUuid segment = .ok id)
    (hsize : r.body.length ≤ HttpRequest.bodyLimit) :
    (serve setup .post r (.payRequest segment)).Gives (fun _ => True) Response.AnswersPull := by
  have hbody : r.limitedBody = .ok r.body := if_pos hsize
  simp only [serve, if_true, hticket, hbody, Bind.bind, Except.bind, Pure.pure, Except.pure,
    extracting]
  refine answeringCounterparty_gives ?_
  cases payRequestOf? r.body with
  | some request => exact Service.payRequest_explains setup ⟨id⟩ request
  | none => exact Service.explains_throw _

theorem serve_get_eq (hticket : pathUuid segment = .ok id) :
    serve setup .get r (.payRequest segment) = extracting (queryAmount r.query) fun query =>
      answeringCounterparty (Service.payRequest setup ⟨id⟩ (.amount query)) := by
  simp only [serve, reduceCtorEq, if_false, hticket, Bind.bind, Except.bind, Pure.pure, Except.pure]
  cases queryAmount r.query <;> rfl

/-! ### Pulls -/

/-- The request asks for an invoice: that of a ticket, by a body or by a query, or that of an
amount. -/
inductive HttpRequest.Pulls (r : HttpRequest) : Prop
  | body {segment : List Char} {id : Uuid}
      (path : Route.ofPath? r.path = some (.payRequest segment))
      (ticket : pathUuid segment = .ok id) (method : r.method = "POST")
      (size : r.body.length ≤ HttpRequest.bodyLimit)
  | query {segment : List Char} {id : Uuid}
      (path : Route.ofPath? r.path = some (.payRequest segment))
      (ticket : pathUuid segment = .ok id) (method : r.method = "GET")
  | amount (path : Route.ofPath? r.path = some .amountCallback) (method : r.method = "GET")

/-- What a pull comes to that runs alone from a store. -/
structure Pulled (r : HttpRequest) (s : Store) (run : Ran Response) : Prop where
  /-- The amount of a query is none or one number. Anything else is refused, and nobody is asked. -/
  refused : r.method = "GET" → (∀ q, queryAmount r.query ≠ .ok q) →
    run = ⟨some (.refusal 400), s, []⟩
  answered : (r.method = "GET" → ∃ q, queryAmount r.query = .ok q) →
    ∃ response, run.result = some response ∧ response.AnswersPull

theorem Pulled.of_gives {p : Program Response} (w : Surroundings) (s : Store)
    (hp : p.Gives (fun _ => True) Response.AnswersPull)
    (hread : r.method = "GET" → ∃ q, queryAmount r.query = .ok q) :
    Pulled r s (p.alone w s []) := by
  constructor
  case refused =>
    intro hmethod hnone
    obtain ⟨q, hq⟩ := hread hmethod
    exact absurd hq (hnone q)
  case answered =>
    intro _
    obtain ⟨response, s', h', hrun, hanswer, -⟩ := hp.alone w s []
    exact ⟨response, by rw [hrun], hanswer⟩

/-- An amount that can be read is passed on. -/
theorem Pulled.of_query {f : AmountQuery → ExceptT ErrorEnvelope Program PayResponse}
    (hf : ∀ q, Service.Explains (f q)) (hmethod : r.method = "GET") (w : Surroundings) (s : Store) :
    Pulled r s
      ((extracting (queryAmount r.query) fun q => answeringCounterparty (f q)).alone w s []) := by
  rcases queryAmount_eq r.query with ⟨q, hq⟩ | hnone
  · rw [hq]
    exact .of_gives w s (answeringCounterparty_gives (hf q)) fun _ => ⟨q, hq⟩
  · constructor
    case refused =>
      intro _ _
      rw [hnone]
      rfl
    case answered =>
      intro hread
      obtain ⟨q, hq⟩ := hread hmethod
      cases hnone.symm.trans hq

theorem pulled_alone (setup : Setup) (hr : r.Pulls) (w : Surroundings) (s : Store) :
    Pulled r s ((handle setup r).alone w s []) := by
  cases hr with
  | body hpath hticket hmethod hsize =>
    have hpost : Method.ofName? r.method = some .post := by
      rw [hmethod]
      rfl
    rw [handle_of_route hpath hpost rfl nofun]
    refine .of_gives w s (serve_post_gives hticket hsize) fun hget => ?_
    rw [hmethod] at hget
    exact absurd hget (by decide)
  | query hpath hticket hmethod =>
    have hget : Method.ofName? r.method = some .get := by
      rw [hmethod]
      rfl
    rw [handle_of_route hpath hget rfl nofun, serve_get_eq hticket]
    exact .of_query (fun q => Service.payRequest_explains setup _ (.amount q)) hmethod w s
  | amount hpath hmethod =>
    have hget : Method.ofName? r.method = some .get := by
      rw [hmethod]
      rfl
    rw [handle_of_route hpath hget rfl nofun]
    exact .of_query (fun q => Service.payByAmount_explains q.amount) hmethod w s

/-- The invoice of the pending payment of five satoshis is pulled before it expires. -/
theorem pulled_twoSales :
    let r : HttpRequest := ⟨"GET", "/api/uma/callback?amount=5000", [], []⟩
    let w : Surroundings := fun _ => Office.Outside.answer { now := .ofSeconds (-1) }
    let run := (handle Office.sampleSetup r).alone w Store.twoSales []
    r.Pulls ∧ (run.result.map (·.status)) = some 200 ∧ Pulled r Store.twoSales run :=
  have hpulls : HttpRequest.Pulls ⟨"GET", "/api/uma/callback?amount=5000", [], []⟩ :=
    .amount (by decide +kernel) rfl
  ⟨hpulls, by decide +kernel, pulled_alone _ hpulls _ _⟩

/-- A query with an amount that is no number is refused without an envelope. -/
theorem pull_without_envelope :
    ¬ ∀ (setup : Setup) (r : HttpRequest) (w : Surroundings) (s : Store), r.Pulls →
      ∃ response, ((handle setup r).alone w s []).result = some response ∧
        response.AnswersPull := by
  intro hclaim
  let r : HttpRequest :=
    ⟨"GET", "/api/uma/payreq/00000000-0000-0000-0000-000000000002?amount=x", [], []⟩
  let w : Surroundings := fun _ => Office.Outside.answer {}
  have hpath : Route.ofPath? r.path =
      some (.payRequest "00000000-0000-0000-0000-000000000002".toList) := by
    decide +kernel
  have hticket : pathUuid "00000000-0000-0000-0000-000000000002".toList = .ok ⟨2⟩ := by
    rfl
  have hpulls : r.Pulls := .query hpath hticket rfl
  have hstatus : ((handle Office.sampleSetup r).alone w .empty []).result.map (·.status) =
      some 400 := by
    decide +kernel
  obtain ⟨response, hresult, hanswer⟩ := hclaim Office.sampleSetup r w .empty hpulls
  rw [hresult] at hstatus
  cases hanswer <;> cases hstatus

end Api

end BoxOffice
