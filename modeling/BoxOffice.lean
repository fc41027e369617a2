import BoxOffice.Address
import BoxOffice.Api.Handler
import BoxOffice.Api.MediaType
import BoxOffice.Api.Message
import BoxOffice.Api.Problem
import BoxOffice.Api.Route
import BoxOffice.Client.Exchange
import BoxOffice.Client.Processor
import BoxOffice.Client.Provider
import BoxOffice.Client.Target
import BoxOffice.Client.Wallet
import BoxOffice.Config.Backend
import BoxOffice.Config.Basic
import BoxOffice.Config.SocketAddress
import BoxOffice.Counter
import BoxOffice.Digest.Hmac
import BoxOffice.Digest.Sha256
import BoxOffice.Effect.Basic
import BoxOffice.Effect.Check
import BoxOffice.Effect.Execution
import BoxOffice.Event
import BoxOffice.Identifier
import BoxOffice.Invoice
import BoxOffice.Json.Basic
import BoxOffice.Json.Decode
import BoxOffice.Json.Printer
import BoxOffice.Json.Reader
import BoxOffice.Json.Texts
import BoxOffice.Launch
import BoxOffice.Lifecycle.Basic
import BoxOffice.Lifecycle.Reduce
import BoxOffice.Lifecycle.Trial
import BoxOffice.Number.Double
import BoxOffice.Payment
import BoxOffice.Processor.Basic
import BoxOffice.Processor.Wire
import BoxOffice.Program
import BoxOffice.Protocol.Discovery
import BoxOffice.Protocol.PayRequest
import BoxOffice.Protocol.PayResponse
import BoxOffice.Protocol.Version
import BoxOffice.Provider.Basic
import BoxOffice.Rehearsal.Counterpart
import BoxOffice.Rehearsal.Processor
import BoxOffice.Rehearsal.Run
import BoxOffice.Rehearsal.World
import BoxOffice.Sats
import BoxOffice.Script.Fault
import BoxOffice.Script.Field
import BoxOffice.Script.Label
import BoxOffice.Script.Lifecycle
import BoxOffice.Script.Session
import BoxOffice.Script.World
import BoxOffice.Service.Issuing
import BoxOffice.Service.Purchasing
import BoxOffice.Service.Responding
import BoxOffice.Service.Routing
import BoxOffice.Service.Settling
import BoxOffice.Service.Sweeping
import BoxOffice.Setup
import BoxOffice.Signature
import BoxOffice.Status
import BoxOffice.Store.Basic
import BoxOffice.Store.Call
import BoxOffice.Store.Method
import BoxOffice.Store.Operations
import BoxOffice.Store.Table
import BoxOffice.Text.Blank
import BoxOffice.Text.Hex
import BoxOffice.Text.Numeral
import BoxOffice.Text.Percent
import BoxOffice.Text.Printable
import BoxOffice.Text.Quoted
import BoxOffice.Text.Utf8
import BoxOffice.Ticket
import BoxOffice.Time.Calendar
import BoxOffice.Time.Duration
import BoxOffice.Time.Instant
import BoxOffice.Time.Reader
import BoxOffice.Wallet.Basic
import BoxOffice.Wallet.Credential
import BoxOffice.Proofs.Signature
import BoxOffice.Proofs.Store.Coherence
import BoxOffice.Proofs.Store.Outcome
import BoxOffice.Proofs.Store.Reachable
import BoxOffice.Proofs.Store.Changes
import BoxOffice.Proofs.Store.Places
import BoxOffice.Proofs.Store.Census
import BoxOffice.Proofs.Store.Invoices
import BoxOffice.Proofs.Processor.Documents
import BoxOffice.Proofs.Program.Conduct
import BoxOffice.Proofs.Program.Alone
import BoxOffice.Proofs.Program.Idle
import BoxOffice.Proofs.Program.Heeding
import BoxOffice.Proofs.Service.Running
import BoxOffice.Proofs.Service.Job
import BoxOffice.Proofs.Service.Conduct
import BoxOffice.Proofs.Office.Basic
import BoxOffice.Proofs.Office.Lawful
import BoxOffice.Proofs.Office.Sound
import BoxOffice.Proofs.Office.Changes
import BoxOffice.Proofs.Office.Once
import BoxOffice.Proofs.Office.Places
import BoxOffice.Proofs.Office.Attempts
import BoxOffice.Proofs.Office.Invoices
import BoxOffice.Proofs.Alone.Running
import BoxOffice.Proofs.Alone.Selling
import BoxOffice.Proofs.Alone.Closing
import BoxOffice.Proofs.Alone.Settling
import BoxOffice.Proofs.Alone.Delivery
import BoxOffice.Proofs.Alone.Routing
import BoxOffice.Proofs.Alone.Booking
import BoxOffice.Proofs.Api.Pulling
import BoxOffice.Proofs.Api.Failure
import BoxOffice.Proofs.Series.Basic
import BoxOffice.Proofs.Series.Ledger
import BoxOffice.Proofs.Series.Redelivery
import BoxOffice.Proofs.Api.Acknowledgement
import BoxOffice.Proofs.Api.Concealment
import BoxOffice.Proofs.Lifecycle.Coherence
import BoxOffice.Proofs.Lifecycle.Decisions
import BoxOffice.Proofs.Lifecycle.Exclusion
import BoxOffice.Proofs.Program.Always
import BoxOffice.Proofs.Service.Watching
import BoxOffice.Proofs.Service.Chain
import BoxOffice.Proofs.Service.Quiescence
import BoxOffice.Proofs.Office.Callbacks
import BoxOffice.Proofs.Office.Notices
import BoxOffice.Proofs.Alone.Telling
import BoxOffice.Proofs.Series.Notices
import BoxOffice.Proofs.Alone.Simulation
import BoxOffice.Proofs.Service.Adoption
import BoxOffice.Proofs.Store.History
import BoxOffice.Proofs.Store.Expiry
import BoxOffice.Proofs.Address
import BoxOffice.Proofs.Alone.Sweeping
import BoxOffice.Proofs.Alone.HandingOut
import BoxOffice.Proofs.Alone.Purchasing
import BoxOffice.Proofs.Alone.Matching
import BoxOffice.Proofs.Service.Sales
import BoxOffice.Proofs.Alone.Retrying
import BoxOffice.Proofs.Alone.Issuing
import BoxOffice.Proofs.Office.Charges
import BoxOffice.Proofs.Json.Reader
import BoxOffice.Proofs.Processor.Forms
import BoxOffice.Proofs.Protocol.Bounds
import BoxOffice.Proofs.Protocol.Versions
import BoxOffice.Proofs.Api.PullBody
import BoxOffice.Proofs.Alone.Dispatching
import BoxOffice.Proofs.Series.Connecting
import BoxOffice.Proofs.Series.Wallets
import BoxOffice.Proofs.Text.Excerpt
import BoxOffice.Proofs.Text.Numeral
import BoxOffice.Proofs.Rehearsal.Issuing
import BoxOffice.Proofs.Launch
import BoxOffice.Proofs.Effect.Waiting
import BoxOffice.Proofs.Effect.Flattening
