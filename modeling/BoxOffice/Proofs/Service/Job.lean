import BoxOffice.Proofs.Service.Running
import BoxOffice.Service.Purchasing
import BoxOffice.Service.Responding
import BoxOffice.Service.Settling
import BoxOffice.Service.Sweeping

/-! What each service asks for while it runs. A ticket and a payment are created once, under names
that were just made up; a status is changed from pending only, and only by a service that has seen
the payment or was started for it; a counterparty is told of a settlement that was just stored. -/

namespace BoxOffice

open Program

/-- A service call. -/
inductive Job where
  | purchase (event : EventId) (user : UserId) (address : Option String)
  | retry (payment : PaymentId)
  /-- What a dispatch begins. -/
  | route (context : DispatchContext)
  | sweep
  | notification (body : Bytes) (signature : Option String)
  | payRequest (ticket : TicketId) (body : Protocol.PayRequest)
  | putEvent (event : Event)
  | putCredential (credential : WalletCredential)

namespace Job

def Result : Job → Type
  | purchase _ _ _ => Except PurchaseError Receipt
  | retry _ => Except PurchaseError Receipt
  | route _ => Option Lifecycle
  | sweep => Except StoreError Nat
  | notification _ _ => Except ReconcileError ReconcileOutcome
  | payRequest _ _ => Except Protocol.ErrorEnvelope Protocol.PayResponse
  | putEvent _ => Except StoreError Unit
  | putCredential _ => Except StoreError Unit

def program (setup : Setup) : (job : Job) → Program job.Result
  | purchase event user address => (Service.purchase setup event user address).run
  | retry payment => (Service.retry setup payment).run
  | route context => Service.route setup context
  | sweep => (Service.sweep setup).run
  | notification body signature => (Service.onNotification setup body signature).run
  | payRequest ticket body => (Service.payRequest setup ticket body).run
  | putEvent event => (Program.store (.putEvent event)).run
  | putCredential credential => (Program.store (.putCredential credential)).run

def isNotification : Job → Bool
  | notification _ _ => true
  | _ => false

end Job

/-! ### What is allowed -/

/-- A payment of the ticket was found for an invoice. -/
def Found (k : TicketId) (h : List Turn) : Prop :=
  ∃ encoded p, Turn.call (.paymentByInvoice encoded) (.ok (some p)) ∈ h ∧ p.ticketId = k

/-- A payment of the ticket was listed as expired. -/
def Listed (k : TicketId) (h : List Turn) : Prop :=
  ∃ now, ∃ ps : List Payment, Turn.call (.expiredPending now) (.ok ps) ∈ h ∧
    ∃ p ∈ ps, p.ticketId = k

theorem Listed.since {k : TicketId} {kind : Request → Prop} {h h' : List Turn} (hl : Listed k h)
    (hs : Since kind h h') : Listed k h' := by
  obtain ⟨now, ps, hm, hp⟩ := hl
  exact ⟨now, ps, hs.mem hm, hp⟩

theorem Found.cons {k : TicketId} {t : Turn} {h : List Turn} (hf : Found k h) :
    Found k (t :: h) := by
  obtain ⟨encoded, p, hm, hp⟩ := hf
  exact ⟨encoded, p, .tail _ hm, hp⟩

theorem Found.since {k : TicketId} {kind : Request → Prop} {h h' : List Turn} (hf : Found k h)
    (hs : Since kind h h') : Found k h' := by
  obtain ⟨encoded, p, hm, hp⟩ := hf
  exact ⟨encoded, p, hs.mem hm, hp⟩

/-- The job has a ground to close a payment of the ticket with the status. -/
def Job.Decided (job : Job) (k : TicketId) (h : List Turn) : PaymentStatus → Prop
  | .pending => False
  | .paid => Found k h
  | .expired => Listed k h
  | .failed => ∃ c, job = .route c ∧ c.ticketId = k

/-- The payment to route was created, or got its invoice. -/
def Begun (c : DispatchContext) (h : List Turn) : Prop :=
  (∃ n id x i, Turn.call (.createPurchase n id) (.ok x) ∈ h ∧ n.invoice = some i ∧
    i.encoded = c.invoice ∧ n.ticketId = c.ticketId) ∨
  ∃ id p i x, Turn.call (.payment id) (.ok (some p)) ∈ h ∧
    Turn.call (.reissue id i) (.ok x) ∈ h ∧ i.encoded = c.invoice ∧ p.ticketId = c.ticketId

/-- The processor issued the encoded invoice. -/
def Issued (encoded : String) (h : List Turn) : Prop :=
  ∃ spec x, ⟨.createInvoice spec, .ok x⟩ ∈ h ∧ x.encoded = encoded

theorem Issued.cons {encoded : String} {t : Turn} {h : List Turn} (hi : Issued encoded h) :
    Issued encoded (t :: h) := by
  obtain ⟨spec, x, hm, hx⟩ := hi
  exact ⟨spec, x, .tail _ hm, hx⟩

theorem Issued.since {encoded : String} {kind : Request → Prop} {h h' : List Turn}
    (hi : Issued encoded h) (hs : Since kind h h') : Issued encoded h' := by
  obtain ⟨spec, x, hm, hx⟩ := hi
  exact ⟨spec, x, hs.mem hm, hx⟩

/-- No counterparty was told of a settlement. -/
def Untold (h : List Turn) : Prop := ∀ url n, ∀ t ∈ h, t.request ≠ .notify url n

/-- Neither plain requests nor changes of status tell a counterparty. -/
theorem Untold.since {k : TicketId} {h h' : List Turn} (hu : Untold h) (hs : Since (Works k) h h') :
    Untold h' := by
  intro url n t ht hr
  rcases hs.of_mem ht with ht | ht
  · exact hu url n t ht hr
  · rw [hr] at ht
    rcases ht with ht | ⟨_, ht⟩ <;> cases ht

/-- What a job may ask for; all else that it asks for is plain. -/
def Job.Allowed (job : Job) (h : List Turn) : Request → Prop
  | .store (.createPurchase n id) => ⟨.freshTicket, n.ticketId⟩ ∈ h ∧ ⟨.freshPayment, id⟩ ∈ h ∧
      (∀ i, n.invoice = some i → Issued i.encoded h) ∧ ∀ t ∈ h, t.request.puts = false
  | .store (.reissue _ i) => Issued i.encoded h ∧ ∀ t ∈ h, t.request.puts = false
  | .store (.applyTransition k tr) => tr.source = .pending ∧ job.Decided k h tr.target
  | .store (.paymentByInvoice _) =>
      ∀ encoded, ∀ t ∈ h, t.request ≠ .store (.paymentByInvoice encoded)
  | .notify _ _ => (∃ k, Found k h ∧ Applied k .paid h) ∧ Untold h ∧ job.isNotification
  | .dispatch c => Begun c h
  | _ => True

theorem Job.allowed_of_plain {job : Job} (h : List Turn) (r : Request) (hr : r.isPlain) :
    job.Allowed h r := by
  cases r with
  | store c => cases c <;> trivial
  | notify => cases hr
  | dispatch => cases hr
  | _ => trivial

theorem Job.allowed_of_light {job : Job} (h : List Turn) (r : Request) (hr : r.isLight) :
    job.Allowed h r :=
  job.allowed_of_plain h r (Request.isPlain_of_isLight hr)

/-- What the result of a job tells. -/
def Job.Done : (job : Job) → List Turn → job.Result → Prop
  | .notification _ _, h, .ok (.settled k) => Applied k .paid h
  | _, _, _ => True

end BoxOffice
