import BoxOffice.Api.Handler

/-! What is told of failures on our own side. An answer with the status of a server's error depends
on nothing but the kind of the failure: the texts, names and statuses that came with its cause are
for the log. The kind also settles the status and the code of every other answer, and a failure of
the store comes out alike whether it was met within a purchase or not. No request is answered by a
server's error of another form, whatever the store and the others answer to it. -/

namespace BoxOffice

/-! ### Details -/

/-- The error with its details taken out, so that only the kind is left. -/
def StoreError.redacted : StoreError → StoreError
  | .notFound _ => .notFound ""
  | .soldOut _ => .soldOut default
  | .eventInactive _ => .eventInactive default
  | .conflict _ => .conflict ""
  | .database _ => .database ""

def ProcessorError.redacted : ProcessorError → ProcessorError
  | .unavailable _ => .unavailable ""
  | .rejected _ _ => .rejected 0 ""
  | .notFound _ => .notFound ""
  | .invalidResponse _ => .invalidResponse ""

def IssueError.redacted : IssueError → IssueError
  | .invalidAddress _ => .invalidAddress .missingDollar
  | .zeroAmount => .zeroAmount
  | .processor e => .processor e.redacted

def PurchaseError.redacted : PurchaseError → PurchaseError
  | .invalidAddress _ => .invalidAddress .missingDollar
  | .missingAddress => .missingAddress
  | .eventNotFound _ => .eventNotFound default
  | .eventInactive _ => .eventInactive default
  | .soldOut _ => .soldOut default
  | .ticketNotFound _ => .ticketNotFound default
  | .paymentNotFound _ => .paymentNotFound default
  | .notRetryable _ _ => .notRetryable default .pending
  | .issuer e => .issuer e.redacted
  | .store e => .store e.redacted

def ReconcileError.redacted : ReconcileError → ReconcileError
  | .invalidSignature => .invalidSignature
  | .malformedPayload _ => .malformedPayload ""
  | .processor e => .processor e.redacted
  | .missingPaymentRequest _ => .missingPaymentRequest ""
  | .store e => .store e.redacted

/-! ### Answers -/

/-- A failure, by the way on which it becomes a problem. -/
inductive Failure where
  | store (e : StoreError)
  | purchase (e : PurchaseError)
  /-- The store failed within a purchase. -/
  | storeInPurchase (e : StoreError)
  | reconcile (e : ReconcileError)
  | unexpected (text : String)

namespace Failure

def problem : Failure → Problem
  | .store e => .ofStore e
  | .purchase e => .ofPurchase e
  | .storeInPurchase e => .ofPurchase (.ofStore e)
  | .reconcile e => .ofReconcile e
  | .unexpected text => .ofUnexpected text

def redacted : Failure → Failure
  | .store e => .store e.redacted
  | .purchase e => .purchase e.redacted
  | .storeInPurchase e => .storeInPurchase e.redacted
  | .reconcile e => .reconcile e.redacted
  | .unexpected _ => .unexpected ""

/-- What the client gets. -/
def answer (f : Failure) : Api.Response := .ofProblem f.problem

end Failure

def Api.Response.isServerError (r : Api.Response) : Bool := 500 ≤ r.status && r.status < 600

/-! ### Concealment -/

namespace Problem

/-- The problems have a status and a code in common, and if the fault is the server's, the message
too. -/
structure Conceals (p q : Problem) : Prop where
  status : p.status = q.status
  code : p.code = q.code
  message : 500 ≤ p.status → p.message = q.message

namespace Conceals

variable {p q : Problem}

theorem refl (p : Problem) : p.Conceals p := ⟨rfl, rfl, fun _ => rfl⟩

/-- The cause is not part of what is told. -/
theorem causedBy (p : Problem) (cause cause' : String) :
    (p.causedBy cause).Conceals (p.causedBy cause') := ⟨rfl, rfl, fun _ => rfl⟩

/-- Clients are told what is wrong with their requests. -/
theorem of_refused {status : Nat} {code message message' : String} (h : status < 500) :
    Conceals ⟨status, code, message, none⟩ ⟨status, code, message', none⟩ :=
  ⟨rfl, rfl, fun hours => absurd hours (Nat.not_le.2 h)⟩

theorem answer_eq (h : p.Conceals q) (hours : 500 ≤ p.status) :
    Api.Response.ofProblem p = Api.Response.ofProblem q := by
  simp only [Api.Response.ofProblem, toJson, h.status, h.code, h.message hours]

end Conceals

theorem ofStore_conceals (e : StoreError) : (ofStore e).Conceals (ofStore e.redacted) := by
  cases e with
  | notFound | soldOut | eventInactive | conflict => exact .of_refused (by decide)
  | database => exact .causedBy _ _ _

theorem ofIssue_conceals (e : IssueError) : (ofIssue e).Conceals (ofIssue e.redacted) := by
  cases e with
  | invalidAddress => exact .of_refused (by decide)
  | zeroAmount => exact .refl _
  | processor e => cases e <;> exact .causedBy _ _ _

theorem ofPurchase_conceals (e : PurchaseError) :
    (ofPurchase e).Conceals (ofPurchase e.redacted) := by
  cases e with
  | invalidAddress | eventNotFound | eventInactive | soldOut | ticketNotFound | paymentNotFound
  | notRetryable => exact .of_refused (by decide)
  | missingAddress => exact .refl _
  | issuer e => exact ofIssue_conceals e
  | store e => exact ofStore_conceals e

/-- A purchase has words of its own for what the store refuses. -/
theorem ofPurchase_ofStore_conceals (e : StoreError) :
    (ofPurchase (.ofStore e)).Conceals (ofStore e) := by
  cases e with
  | soldOut | eventInactive => exact .of_refused (by decide)
  | notFound | conflict | database => exact .refl _

theorem ofReconcile_conceals (e : ReconcileError) :
    (ofReconcile e).Conceals (ofReconcile e.redacted) := by
  cases e with
  | invalidSignature => exact .refl _
  | malformedPayload | processor | missingPaymentRequest | store => exact .causedBy _ _ _

end Problem

theorem PurchaseError.redacted_ofStore (e : StoreError) :
    (ofStore e).redacted = ofStore e.redacted := by
  cases e <;> rfl

namespace Failure

theorem conceals (f : Failure) : f.problem.Conceals f.redacted.problem := by
  cases f with
  | store e => exact Problem.ofStore_conceals e
  | purchase e => exact Problem.ofPurchase_conceals e
  | storeInPurchase e =>
    have h := Problem.ofPurchase_conceals (.ofStore e)
    rwa [PurchaseError.redacted_ofStore] at h
  | reconcile e => exact Problem.ofReconcile_conceals e
  | unexpected text => exact .causedBy _ _ _

theorem isServerError_iff {f : Failure} :
    f.answer.isServerError ↔ 500 ≤ f.problem.status ∧ f.problem.status < 600 := by
  rw [Api.Response.isServerError, Bool.and_eq_true, decide_eq_true_eq, decide_eq_true_eq]
  rfl

/-- A server's error is answered as if nothing were known of its cause. -/
theorem answer_redacted {f : Failure} (h : f.answer.isServerError) :
    f.answer = f.redacted.answer :=
  f.conceals.answer_eq (isServerError_iff.1 h).1

theorem isServerError_redacted (f : Failure) :
    f.redacted.answer.isServerError = f.answer.isServerError := by
  rw [Bool.eq_iff_iff, isServerError_iff, isServerError_iff, f.conceals.status]

end Failure

/-! ### Programs -/

namespace Program

variable {α β : Type} {done : β → Prop}

/-- Whatever it is answered, a result that the program comes to is as described. -/
def Yields (done : β → Prop) : Program β → Prop
  | .pure b => done b
  | .ask _ next => ∀ x, (next x).Yields done
  | .abort => True

theorem yields_any (p : Program α) : p.Yields fun _ => True := by
  induction p with
  | pure => trivial
  | ask r next ih => exact ih
  | abort => trivial

theorem Yields.bind {mid : α → Prop} {p : Program α} {f : α → Program β} (hp : p.Yields mid)
    (hf : ∀ a, mid a → (f a).Yields done) : (p.bind f).Yields done := by
  induction p with
  | pure a => exact hf a hp
  | ask r next ih => exact fun x => ih x (hp x)
  | abort => trivial

end Program

/-! ### Requests -/

namespace Api

open Program

section Refusals

variable {α β : Type}

/-- What cannot be taken out of a request is the client's fault. -/
def Refuses (e : Extracted α) : Prop :=
  ∀ response, e = .error response → 400 ≤ response.status ∧ response.status < 500

theorem refuses_ok (a : α) : Refuses (.ok a : Extracted α) := nofun

theorem refuses_refusal {status : Nat} (hstatus : 400 ≤ status ∧ status < 500) :
    Refuses (.error (.refusal status) : Extracted α) := by
  rintro _ ⟨⟩
  exact hstatus

theorem Refuses.bind {e : Extracted α} {f : α → Extracted β} (he : Refuses e)
    (hf : ∀ a, Refuses (f a)) : Refuses (e >>= f) := by
  cases e with
  | ok a => exact hf a
  | error response =>
    rintro _ ⟨⟩
    exact he response rfl

theorem pathText_refuses (segment : List Char) : Refuses (pathText segment) := by
  unfold pathText
  split
  · exact refuses_ok _
  · exact refuses_refusal (by decide)

theorem pathUuid_refuses (segment : List Char) : Refuses (pathUuid segment) := by
  refine (pathText_refuses segment).bind fun text => ?_
  split
  · exact refuses_ok _
  · exact refuses_refusal (by decide)

theorem limitedBody_refuses (r : HttpRequest) : Refuses r.limitedBody := by
  unfold HttpRequest.limitedBody
  split
  · exact refuses_ok _
  · exact refuses_refusal (by decide)

theorem queryAmount_refuses (query : List Char) : Refuses (queryAmount query) := by
  unfold queryAmount
  split
  · exact refuses_ok _
  · split
    · exact refuses_ok _
    · exact refuses_refusal (by decide)
  · exact refuses_refusal (by decide)

theorem jsonBody_refuses (fields : List Field) (decode : Json → Json.Decoded α) (r : HttpRequest) :
    Refuses (jsonBody fields decode r) := by
  have hstatus : ∀ reading, 400 ≤ bodyStatus fields reading ∧ bodyStatus fields reading < 500 := by
    intro reading
    unfold bodyStatus
    split <;> split <;> decide
  have hmissing : Refuses (throw (.refusal 415) : Extracted α) := refuses_refusal (by decide)
  unfold jsonBody
  dsimp only
  split
  · exact hmissing
  · refine (limitedBody_refuses r).bind fun body => ?_
    split
    · exact refuses_ok _
    · exact refuses_refusal (hstatus _)

end Refusals

/-- If this is a server's error, it is one that is told of a failure without its details; there may
be no body to it. -/
def Response.Discreet (r : Response) : Prop :=
  r.isServerError → ∃ f : Failure, r = f.redacted.answer ∨ r = f.redacted.answer.withoutBody

namespace Response.Discreet

theorem of_lt {status : Nat} {body : Body} (h : status < 500) : Discreet ⟨status, body⟩ := by
  intro hours
  rw [isServerError, Bool.and_eq_true, decide_eq_true_eq] at hours
  exact absurd hours.1 (Nat.not_le.2 h)

theorem of_failure (f : Failure) : f.answer.Discreet :=
  fun hours => ⟨f, .inl (Failure.answer_redacted hours)⟩

theorem withoutBody {r : Response} (h : r.Discreet) : r.withoutBody.Discreet := by
  intro hours
  obtain ⟨f, rfl | rfl⟩ := h hours
  · exact ⟨f, .inr rfl⟩
  · exact ⟨f, .inr rfl⟩

end Response.Discreet

section Serve

variable {α ε : Type}

theorem extracting_discreet {e : Extracted α} {f : α → Program Response} (he : Refuses e)
    (hf : ∀ a, (f a).Yields Response.Discreet) : (extracting e f).Yields Response.Discreet := by
  cases e with
  | ok a => exact hf a
  | error response => exact .of_lt (he response rfl).2

theorem answering_discreet (toFailure : ε → Failure) {toResponse : α → Response}
    (p : ExceptT ε Program α) (hok : ∀ a, (toResponse a).Discreet) :
    (answering (fun e => (toFailure e).problem) toResponse p).Yields Response.Discreet := by
  refine (yields_any _).bind fun x _ => ?_
  cases x with
  | ok a => exact hok a
  | error e => exact .of_failure (toFailure e)

theorem answeringCounterparty_discreet
    (p : ExceptT Protocol.ErrorEnvelope Program Protocol.PayResponse) :
    (answeringCounterparty p).Yields Response.Discreet := by
  refine (yields_any _).bind fun x _ => ?_
  cases x <;> exact .of_lt (by decide)

theorem connectWallet_discreet (user : UserId) (c : WalletConnection) :
    (connectWallet user c).Yields Response.Discreet := by
  unfold connectWallet
  split
  · exact .of_lt (by decide)
  · refine (yields_any _).bind fun now _ => ?_
    split
    · exact .of_lt (by decide)
    · exact answering_discreet .store _ fun _ => .of_lt (by decide)

theorem acknowledge_discreet (x : Except ReconcileError ReconcileOutcome) :
    (acknowledge x).Discreet := by
  unfold acknowledge
  split <;> exact .of_lt (by decide)

theorem serve_discreet (setup : Setup) (method : Method) (r : HttpRequest) (route : Route) :
    (serve setup method r route).Yields Response.Discreet := by
  cases route with
  | purchase event =>
    refine extracting_discreet
      ((pathUuid_refuses _).bind fun _ => (jsonBody_refuses _ _ r).bind fun _ => refuses_ok _)
      fun taken => ?_
    exact answering_discreet .purchase _ fun _ => .of_lt (by decide)
  | ticket ticket =>
    refine extracting_discreet (pathUuid_refuses _) fun id => ?_
    exact answering_discreet .purchase _ fun _ => .of_lt (by decide)
  | retry payment =>
    refine extracting_discreet (pathUuid_refuses _) fun id => ?_
    exact answering_discreet .purchase _ fun _ => .of_lt (by decide)
  | wallet user =>
    exact extracting_discreet
      ((pathUuid_refuses _).bind fun _ => (jsonBody_refuses _ _ r).bind fun _ => refuses_ok _)
      fun taken => connectWallet_discreet _ _
  | payRequest ticket =>
    show Yields _ (if method = .post then _ else _)
    split
    · exact extracting_discreet
        ((pathUuid_refuses _).bind fun _ => (limitedBody_refuses r).bind fun _ => refuses_ok _)
        fun taken => answeringCounterparty_discreet _
    · exact extracting_discreet
        ((pathUuid_refuses _).bind fun _ => (queryAmount_refuses _).bind fun _ => refuses_ok _)
        fun taken => answeringCounterparty_discreet _
  | amountCallback =>
    exact extracting_discreet (queryAmount_refuses _) fun query => answeringCounterparty_discreet _
  | discovery username =>
    refine extracting_discreet (pathText_refuses _) fun name => ?_
    dsimp only [Yields]
    split
    · exact .of_lt (by decide)
    · exact .of_lt (show 404 < 500 by decide)
  | configuration => exact Response.Discreet.of_lt (by decide)
  | notification =>
    exact extracting_discreet (limitedBody_refuses r) fun body =>
      (yields_any _).bind fun result _ => acknowledge_discreet result
  | health => exact Response.Discreet.of_lt (by decide)

theorem handle_discreet (setup : Setup) (r : HttpRequest) :
    (handle setup r).Yields Response.Discreet := by
  unfold handle
  split
  · exact Response.Discreet.of_lt (by decide)
  · split
    · exact Response.Discreet.of_lt (by decide)
    · exact (serve_discreet _ _ _ _).bind fun _ => .withoutBody
    · exact serve_discreet _ _ _ _

end Serve

end Api

namespace Failure

/-- Failures of one kind are answered alike if one of them is a server's error. A failure of the
store has the same status and code with and without a purchase around it. The interface has no other
server's errors. -/
theorem concealed :
    (∀ f g : Failure, f.redacted = g.redacted →
      (f.answer.isServerError ∨ g.answer.isServerError) → f.answer = g.answer) ∧
    (∀ e : StoreError, (storeInPurchase e).problem.status = (store e).problem.status ∧
      (storeInPurchase e).problem.code = (store e).problem.code) ∧
    ∀ setup r, (Api.handle setup r).Yields Api.Response.Discreet := by
  refine ⟨fun f g hsame hours => ?_, fun e => ?_, Api.handle_discreet⟩
  · have hboth : f.answer.isServerError = g.answer.isServerError := by
      rw [← f.isServerError_redacted, ← g.isServerError_redacted, hsame]
    have hf : f.answer.isServerError := hours.elim id fun hg => hboth.trans hg
    calc f.answer = f.redacted.answer := answer_redacted hf
      _ = g.redacted.answer := by rw [hsame]
      _ = g.answer := (answer_redacted (hboth.symm.trans hf)).symm
  · have h := Problem.ofPurchase_ofStore_conceals e
    exact ⟨h.status, h.code⟩

/-- What a processor wrote when it refused an invoice. -/
theorem concealed_refusedInvoice :
    let f (status : Nat) (body : String) : Failure :=
      .purchase (.issuer (.processor (.rejected status body)))
    (f 402 "token sk-1").answer.isServerError ∧ (f 402 "token sk-1").answer = (f 500 "").answer :=
  ⟨by decide, concealed.1 _ _ rfl (.inl (by decide))⟩

end Failure

end BoxOffice
