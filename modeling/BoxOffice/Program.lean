import BoxOffice.Counter
import BoxOffice.Lifecycle.Basic
import BoxOffice.Processor.Basic
import BoxOffice.Provider.Basic
import BoxOffice.Store.Call
import BoxOffice.Wallet.Basic

/-! Programs: what a service does, as a tree of requests to its surroundings. One request is one
indivisible step, so programs that run at the same time interleave at requests. -/

namespace BoxOffice

inductive Request where
  | now
  | freshTicket
  | freshPayment
  | freshCode
  | store (call : Store.Call)
  | createInvoice (spec : InvoiceSpec)
  | fetchSettlement (entity : String)
  | fetchInvoice (id : String)
  | payInvoice (credential : WalletCredential) (invoice : String)
  | discover (domain : String)
  | push (endpoint : String) (request : PaymentRequest)
  | notify (url : String) (notice : SettlementNotice)
  /-- Begin to route a payment, beside this program. -/
  | dispatch (context : DispatchContext)
  | count (counter : Counter)

/-- What a request is answered with. -/
def Request.Answer : Request → Type
  | .now => Time.Instant
  | .freshTicket => TicketId
  | .freshPayment => PaymentId
  | .freshCode => TicketCode
  | .store call => Except StoreError call.Reply
  | .createInvoice _ => Except ProcessorError ProcessorInvoice
  | .fetchSettlement _ => Except ProcessorError SettlementEntity
  | .fetchInvoice _ => Except ProcessorError ProcessorInvoice
  | .payInvoice _ _ => Except WalletError WalletReceipt
  | .discover _ => Except ProviderError ProviderConfiguration
  | .push _ _ => Except ProviderError Unit
  | .notify _ _ => Except ProviderError Unit
  | .dispatch _ => Unit
  | .count _ => Unit

inductive Program (α : Type) where
  | pure (a : α)
  | ask (request : Request) (next : request.Answer → Program α)
  /-- Break off without a result. -/
  | abort

namespace Program

variable {α β : Type}

def bind : Program α → (α → Program β) → Program β
  | .pure a, f => f a
  | .ask r k, f => .ask r fun x => (k x).bind f
  | .abort, _ => .abort

instance : Monad Program where
  pure := .pure
  bind := bind

theorem bind_bind {γ : Type} (p : Program α) (f : α → Program β) (g : β → Program γ) :
    (p.bind f).bind g = p.bind fun a => (f a).bind g := by
  induction p with
  | pure a => rfl
  | ask r k ih => simp only [bind, ih]
  | abort => rfl

/-- Make one request. -/
def request (r : Request) : Program r.Answer := .ask r .pure

/-- Call the store; its errors are errors of the program. -/
def store (call : Store.Call) : ExceptT StoreError Program call.Reply :=
  ExceptT.mk (request (.store call))

def now : Program Time.Instant := request .now

def count (c : Counter) : Program Unit := request (.count c)

/-- Run a part with errors of one kind inside a program with errors of another. -/
def within {ε ε' : Type} (f : ε → ε') (p : ExceptT ε Program α) : ExceptT ε' Program α :=
  ExceptT.mk (p.run.bind fun r => .pure (r.mapError f))

/-- The value of an option, or an error in its place. -/
def orThrow {ε : Type} (e : ε) : Option α → ExceptT ε Program α
  | some a => ExceptT.mk (.pure (.ok a))
  | none => ExceptT.mk (.pure (.error e))

end Program

end BoxOffice
