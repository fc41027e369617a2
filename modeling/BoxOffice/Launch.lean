import BoxOffice.Config.Basic
import BoxOffice.Config.SocketAddress
import BoxOffice.Setup
import BoxOffice.Store.Basic
import BoxOffice.Text.Utf8

/-! From a configuration to a running box office. The steps come in order: configure, prepare the
collaborators, build; counters may be published in between. -/

namespace BoxOffice

/-- Why the box office does not start. -/
inductive LaunchError where
  /-- A step was taken before the one that it needs; the message says which. -/
  | order (message : String)
  | metricsAddress
  | secret (message : String)
  | storage (error : StoreError)
  | receiver (raw : String) (error : AddressError)
deriving DecidableEq

namespace LaunchError

/-- What was being done, and the causes one below the other. -/
def causes : LaunchError → List String
  | .order message => [message]
  | .metricsAddress => ["invalid socket address syntax"]
  | .secret message => [message]
  | .storage e => ["connecting to PostgreSQL", e.message]
  | .receiver raw e => ["UMA_RECEIVING_ADDRESS " ++ Text.quote raw, e.message]

/-- What was being done. -/
def outermost (e : LaunchError) : String := e.causes.headD ""

def message (e : LaunchError) : String := String.intercalate ": " e.causes

end LaunchError

/-! ### Collaborators -/

/-- Whether a text names a scheme in front of a colon, as every absolute address does. -/
def hasScheme (url : String) : Bool :=
  match url.toList.dropWhile fun c => c.toNat ≤ 0x20 with
  | [] => false
  | c :: rest =>
    c.isAlpha && ((rest.filter fun d => d != '\t' && d != '\n' && d != '\r').dropWhile fun d =>
      d.isAlphanum || d == '+' || d == '-' || d == '.').head? == some ':'

/-- Why no connection to the database comes about. None is in reach of this library, so an
address that makes sense runs out of time. -/
def connectionFault (url : String) : StoreError :=
  .database <| "Failed to connect: " ++
    if hasScheme url then "pool timed out while waiting for an open connection"
    else "error with configuration: relative URL without a base"

/-- What lies outside of the process: storage and clients that it needs come about or do not. -/
structure Reach where
  /-- Connect to the database and bring its tables up to date. -/
  database : DatabaseConfig → Except LaunchError Unit
  /-- Build the clients of the processor, the wallets and the providers. -/
  clients : Config → Except LaunchError Unit

/-- No database is in reach of this library; clients are always built. -/
def Reach.bare : Reach where
  database db := .error (.storage (connectionFault db.url))
  clients _ := .ok ()

/-- Prepare storage and clients as configured. -/
def Config.prepareWith (reach : Reach) (c : Config) : Except LaunchError Unit := do
  c.lightning.checkSecret.mapError .secret
  match c.server.storage with
  | .memory => pure ()
  | .postgres => reach.database c.database
  match c.lightning.backend with
  | .mock => pure ()
  | .http => reach.clients c

def Config.prepare (c : Config) : Except LaunchError Unit := c.prepareWith .bare

/-- The settings of the services. -/
def Setup.ofConfig (c : Config) : Except LaunchError Setup :=
  match Address.parse c.protocol.receivingAddress with
  | .error e => .error (.receiver c.protocol.receivingAddress e)
  | .ok receiver => .ok {
      baseUrl := c.protocol.baseUrl
      receiver
      minSendableMsats := c.protocol.minSendableMsats
      maxSendableMsats := c.protocol.maxSendableMsats
      versions := c.protocol.supportedVersions
      secret := Text.encodeUtf8 c.lightning.webhookSecret
      invoiceExpirySecs := c.lightning.invoiceExpirySecs
      sweepSecs := c.lightning.sweepSecs }

/-! ### Steps -/

structure Launch where
  config : Option Config
  /-- Whether the collaborators are prepared. -/
  ready : Bool

inductive LaunchStep where
  | configure (env : Environment)
  | publishMetrics
  | prepare
  | build

namespace Launch

def empty : Launch := ⟨none, false⟩

/-- The configuration, or the step that it was missed in. -/
def configured (l : Launch) (before : String) : Except LaunchError Config :=
  match l.config with
  | some c => .ok c
  | none => .error (.order ("Config must be set before " ++ before))

/-- Take a step. Building uses up what was prepared. -/
def take (l : Launch) : LaunchStep → Except LaunchError Launch
  | .configure env => .ok { l with config := some (.ofEnvironment env) }
  | .publishMetrics => do
    let c ← l.configured "installing metrics"
    if SocketAddress.isValid (c.server.metricsHost ++ ":" ++ c.server.metricsPort.toNat.repr) then
      return l
    else throw .metricsAddress
  | .prepare => do
    let c ← l.configured "initializing resources"
    c.prepare
    return { l with ready := true }
  | .build => do
    let c ← l.configured "build"
    if !l.ready then throw (.order "Resources must be initialized before build")
    let _ ← Setup.ofConfig c
    return empty

/-- Take steps until one fails; gives the number taken, and the failure if there is one. -/
def takeAll (l : Launch) : List LaunchStep → Nat × Option LaunchError
  | [] => (0, none)
  | step :: rest => match l.take step with
    | .error e => (0, some e)
    | .ok l' => let (n, e) := l'.takeAll rest; (n + 1, e)

end Launch

end BoxOffice
