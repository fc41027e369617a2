import BoxOffice.Processor.Basic
import BoxOffice.Store.Table
import BoxOffice.Text.Numeral

/-! A stand-in for the Lightning processor. Its invoices are numbered, so all that it answers is
known beforehand. -/

namespace BoxOffice.Rehearsal

structure Processor where
  /-- The number of invoices issued. All of them are kept, so it stays within memory. -/
  issued : Nat
  invoices : Table String ProcessorInvoice
  entities : Table String SettlementEntity
  /-- Whether the next request for an invoice fails. -/
  failsNext : Bool

namespace Processor

def fresh : Processor := ⟨0, .empty, .empty, false⟩

/-- The `n`-th invoice. -/
def numbered (n : Nat) (amount : Sats) : ProcessorInvoice where
  id := "mock-inv-" ++ n.repr
  paymentHash := String.ofList (Text.filled 16 64 n)
  encoded := "lnbcrt" ++ amount.count.toNat.repr ++ "n1pmock" ++ Text.padded 10 n
  amountMsats := amount.millisats
  expiresAt := none

def createInvoice (p : Processor) (spec : InvoiceSpec) :
    Except ProcessorError ProcessorInvoice × Processor :=
  if p.failsNext then
    (.error (.unavailable "mock processor offline"), { p with failsNext := false })
  else
    let invoice := numbered (p.issued + 1) spec.amount
    (.ok invoice,
      { p with issued := p.issued + 1, invoices := p.invoices.set invoice.id invoice })

/-- Let the next request for an invoice fail. -/
def failNext (p : Processor) : Processor := { p with failsNext := true }

def fetchSettlement (p : Processor) (id : String) : Except ProcessorError SettlementEntity :=
  match p.entities.find? id with
  | some e => .ok e
  | none => .error (.notFound id)

def fetchInvoice (p : Processor) (id : String) : Except ProcessorError ProcessorInvoice :=
  match p.invoices.find? id with
  | some i => .ok i
  | none => .error (.notFound id)

/-- The name of the next entity. -/
def nextEntity (p : Processor) (kind : String) : String :=
  "mock-" ++ kind ++ "-" ++ (p.entities.rows.length + 1).repr

/-- Somebody pays an invoice issued here; gives the name of the payment. -/
def settleIncoming (p : Processor) (encoded : String) : Option String × Processor :=
  match p.invoices.values.find? (·.encoded == encoded) with
  | none => (none, p)
  | some invoice =>
    let id := p.nextEntity "in"
    (some id, { p with entities := p.entities.set id (.incoming id invoice.id) })

/-- Pay an invoice of somebody; gives the name of the payment. -/
def settleOutgoing (p : Processor) (encoded : String) : String × Processor :=
  let id := p.nextEntity "out"
  (id, { p with entities := p.entities.set id (.outgoing id (some (.value encoded))) })

end Processor

end BoxOffice.Rehearsal
