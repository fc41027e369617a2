import BoxOffice.Api.Handler
import BoxOffice.Proofs.Alone.Selling
import BoxOffice.Proofs.Alone.Settling
import BoxOffice.Proofs.Store.Reachable

/-! Requests that fail leave no trace. Some write to the store after several steps that may fail,
but nothing that can fail comes after the writing. -/

namespace BoxOffice

open Program

/-! ### Services -/

section Atomic

variable {α ε : Type} {w : Surroundings} {s : Store} {h : List Turn}

/-- The program, run alone, succeeds or leaves the store as it was. -/
def Atomic (w : Surroundings) (s : Store) (h : List Turn) (p : ExceptT ε Program α) : Prop :=
  Comes w (fun x s' _ => (∀ a, x ≠ some (.ok a)) → s' = s) p.run s h

theorem Atomic.of_light (hs : s.Coherent) {p : ExceptT ε Program α} (hp : Light p) :
    Atomic w s h p :=
  (Conforms.comes (hp.idle h) hs w).mono fun _ _ _ hx _ => hx.1

end Atomic

namespace Service

variable {w : Surroundings} {s : Store} (hs : s.Coherent)

include hs

theorem purchase_atomic (setup : Setup) (event : EventId) (user : UserId)
    (address : Option String) : Atomic w s [] (purchase setup event user address) := by
  refine Comes.bind (tryPurchase_comes hs setup event user address w) ?_ ?_
  · intro x s' h' hsale hne
    cases hsale with
    | refused => rfl
    | sold => exact absurd rfl (hne _)
  · intro s' h' hsale _
    cases hsale
    rfl

theorem retry_atomic (setup : Setup) (payment : PaymentId) :
    Atomic w s [] (retry setup payment) := by
  refine (retry_comes hs setup payment w).mono fun x s' h' hreopening hne => ?_
  cases hreopening with
  | refused => rfl
  | reopened => exact absurd rfl (hne _)

/-- The callback is recorded when nothing can fail any more. -/
theorem payRequest_atomic (setup : Setup) (ticket : TicketId) (body : Protocol.PayRequest) :
    Atomic w s [] (payRequest setup ticket body) := by
  refine (payRequest_comes hs setup ticket body w).mono fun x s' h' hquoting hne => ?_
  cases hquoting with
  | kept => rfl
  | recorded => exact absurd rfl (hne _)

end Service

namespace Api

/-! ### Responses -/

/-- An object whose status is that of an error envelope. -/
def Body.isErrorEnvelope : Body → Bool
  | .json (.object members) =>
    match Json.member? members "status" with
    | some (.string status) => status = "ERROR"
    | _ => false
  | _ => false

/-- The response tells of a failure, by its status or by an error envelope. -/
def Response.isFailure (r : Response) : Bool :=
  r.status < 200 || 300 ≤ r.status || r.body.isErrorEnvelope

variable {w : Surroundings} {s : Store} {h : List Turn}

/-- Run alone, the program gives a response that tells of no failure, or leaves the store as it
was. -/
def Traceless (w : Surroundings) (s : Store) (h : List Turn) (p : Program Response) : Prop :=
  Comes w (fun x s' _ => (∀ response, x = some response → response.isFailure) → s' = s) p s h

theorem traceless_pure (response : Response) : Traceless w s h (.pure response) := fun _ => rfl

theorem extracting_traceless {α : Type} {f : α → Program Response}
    (hf : ∀ a, Traceless w s h (f a)) (e : Extracted α) : Traceless w s h (extracting e f) := by
  cases e with
  | ok a => exact hf a
  | error r => exact traceless_pure r

/-- What a service comes to is told by a response; that to a success tells of no failure. -/
theorem Traceless.of_atomic {ε α : Type} {p : ExceptT ε Program α} (hp : Atomic w s h p)
    {f : Except ε α → Program Response} (hf : ∀ x, ∃ response, f x = .pure response ∧
      ∀ a, x = .ok a → response.isFailure = false) : Traceless w s h (p.run.bind f) := by
  refine Comes.bind hp ?_ ?_
  · intro x s' h' hx
    obtain ⟨response, hresponse, hsuccess⟩ := hf x
    rw [hresponse]
    intro hfailure
    refine hx fun a ha => ?_
    have htells := hfailure response rfl
    rw [hsuccess a (Option.some.inj ha)] at htells
    cases htells
  · exact fun s' h' hx _ => hx nofun

theorem answering_traceless {ε α : Type} {p : ExceptT ε Program α} (hp : Atomic w s h p)
    {toProblem : ε → Problem} {toResponse : α → Response}
    (hsuccess : ∀ a, (toResponse a).isFailure = false) :
    Traceless w s h (answering toProblem toResponse p) := by
  refine .of_atomic hp fun x => ?_
  cases x with
  | ok a =>
    refine ⟨_, rfl, fun b hb => ?_⟩
    cases hb
    exact hsuccess a
  | error e => exact ⟨_, rfl, nofun⟩

theorem isFailure_quote (quote : Protocol.PayResponse) :
    (Response.ofJson 200 quote.toJson).isFailure = false := by
  cases quote with
  | mk invoice routes envelope => cases envelope <;> rfl

theorem answeringCounterparty_traceless
    {p : ExceptT Protocol.ErrorEnvelope Program Protocol.PayResponse} (hp : Atomic w s h p) :
    Traceless w s h (answeringCounterparty p) := by
  refine .of_atomic hp fun x => ?_
  cases x with
  | ok quote =>
    refine ⟨_, rfl, fun b hb => ?_⟩
    cases hb
    exact isFailure_quote quote
  | error e => exact ⟨_, rfl, nofun⟩

theorem connectWallet_traceless (user : UserId) (c : WalletConnection) :
    Traceless w s h (connectWallet user c) := by
  unfold connectWallet
  split
  · exact traceless_pure _
  · show Traceless w s (⟨.now, w h .now⟩ :: h) (if _ then _ else _)
    split
    · exact traceless_pure _
    · exact answering_traceless (fun hne => absurd rfl (hne ())) fun _ => rfl

/-- Without its body a response tells of less. -/
theorem isFailure_of_withoutBody {response : Response} (h : response.withoutBody.isFailure) :
    response.isFailure := by
  have hstatus : (response.status < 200 || 300 ≤ response.status || false) = true := h
  rw [Bool.or_false] at hstatus
  rw [Response.isFailure, hstatus, Bool.true_or]

section Serve

variable (hs : s.Coherent) (setup : Setup)

include hs

theorem notification_traceless (body : Bytes) (signature : Option String) : Traceless w s []
    ((Service.onNotification setup body signature).run.bind fun result =>
      .pure (acknowledge result)) := by
  obtain ⟨x, s', h', hrun, hx⟩ := Service.onNotification_alone hs setup w body signature
  rw [Traceless, Comes, alone_bind hrun]
  intro hfailure
  by_cases hsettled : ∃ k, x = .ok (.settled k)
  · obtain ⟨k, rfl⟩ := hsettled
    have htells : (acknowledge (.ok (.settled k))).isFailure := hfailure _ rfl
    cases htells
  · exact (hx.handling.kept (not_exists.1 hsettled)).1

theorem serve_traceless (method : Method) (r : HttpRequest) (route : Route) :
    Traceless w s [] (serve setup method r route) := by
  cases route with
  | purchase event =>
    refine extracting_traceless (fun taken => ?_) _
    exact answering_traceless (Service.purchase_atomic hs setup _ _ _) fun _ => rfl
  | ticket ticket =>
    refine extracting_traceless (fun id => ?_) _
    exact answering_traceless (.of_light hs (Service.ticketStatus_light _)) fun _ => rfl
  | retry payment =>
    refine extracting_traceless (fun id => ?_) _
    exact answering_traceless (Service.retry_atomic hs setup _) fun _ => rfl
  | wallet user => exact extracting_traceless (fun taken => connectWallet_traceless _ _) _
  | payRequest ticket =>
    show Traceless w s [] (if method = .post then _ else _)
    split
    · refine extracting_traceless (fun taken => answeringCounterparty_traceless ?_) _
      split
      · exact Service.payRequest_atomic hs setup _ _
      · exact fun _ => rfl
    · refine extracting_traceless (fun taken => answeringCounterparty_traceless ?_) _
      exact Service.payRequest_atomic hs setup _ _
  | amountCallback =>
    refine extracting_traceless (fun query => answeringCounterparty_traceless ?_) _
    exact .of_light hs (Service.payByAmount_light _)
  | discovery username => exact extracting_traceless (fun name => traceless_pure _) _
  | configuration => exact traceless_pure _
  | notification =>
    exact extracting_traceless (fun body => notification_traceless hs setup body _) _
  | health => exact traceless_pure _

theorem handle_traceless (r : HttpRequest) : Traceless w s [] (handle setup r) := by
  unfold handle
  split
  · exact traceless_pure _
  · next route _ =>
    split
    · exact traceless_pure _
    · refine Comes.bind (serve_traceless hs setup .head r route) ?_ fun _ _ hx _ => hx nofun
      intro response s' h' hx hfailure
      refine hx fun response' he => ?_
      cases he
      exact isFailure_of_withoutBody (hfailure _ rfl)
    · next method _ _ => exact serve_traceless hs setup method r route

end Serve

end Api

/-- A request that is answered by a failure leaves the store as it was. -/
theorem Store.Reachable.failure_traceless {s : Store} (hs : s.Reachable) (setup : Setup)
    (w : Surroundings) (r : Api.HttpRequest) :
    let run := (Api.handle setup r).alone w s []
    (∀ response, run.result = some response → response.isFailure) → run.store = s :=
  Api.handle_traceless hs.coherent setup r

/-- A ticket is not sold with an invoice that was issued before. -/
theorem failure_traceless_twoSales :
    let body := "\x7b\"user_id\":\"00000000-0000-0000-0000-000000000009\"," ++
      "\"buyer_address\":\"$a@b\"\x7d"
    let r : Api.HttpRequest := ⟨"POST", "/api/events/00000000-0000-0000-0000-000000000001/purchase",
      [("content-type", "application/json")], Text.encodeUtf8 body⟩
    let w : Surroundings := fun _ => Office.Outside.answer { invoice := "a" }
    let run := (Api.handle Office.sampleSetup r).alone w Store.twoSales []
    Store.twoSales.Reachable ∧ (run.result.map (·.status)) = some 409 ∧
      run.store = Store.twoSales := by
  intro body r w run
  have hstatus : run.result.map (fun response => (response.status, response.isFailure)) =
      some (409, true) := by
    decide +kernel
  obtain ⟨response, hresult, hresponse⟩ := Option.map_eq_some_iff.1 hstatus
  have hstore : run.store = Store.twoSales := by
    refine Store.twoSales_reachable.reachable.failure_traceless Office.sampleSetup w r ?_
    intro response' hresult'
    cases hresult.symm.trans hresult'
    exact (Prod.mk.inj hresponse).2
  refine ⟨Store.twoSales_reachable.reachable, ?_, hstore⟩
  rw [hresult]
  exact congrArg some (Prod.mk.inj hresponse).1

end BoxOffice
