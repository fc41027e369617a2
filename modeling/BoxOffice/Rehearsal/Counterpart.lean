import BoxOffice.Provider.Basic
import BoxOffice.Wallet.Basic

/-! Stand-ins for the buyers' wallets, their providers, and those who are told of settlements.
Each answers as it is set to and records what it was asked. -/

namespace BoxOffice.Rehearsal

inductive WalletMode where
  | accept
  | decline (reason : String)
  | unreachable (reason : String)

structure Wallet where
  mode : WalletMode
  /-- The invoices that it was asked to pay. -/
  attempts : List String

namespace Wallet

def fresh (mode : WalletMode) : Wallet := ⟨mode, []⟩

def pay (w : Wallet) (invoice : String) : Except WalletError WalletReceipt × Wallet :=
  (match w.mode with
    | .accept => .ok ⟨none⟩
    | .decline reason => .error (.declined reason)
    | .unreachable reason => .error (.unreachable reason),
    { w with attempts := w.attempts ++ [invoice] })

end Wallet

inductive ProviderMode where
  | accept
  | unreachable
  | reject

structure Provider where
  mode : ProviderMode
  /-- What it says of itself, instead of the usual. -/
  configuration : Option ProviderConfiguration
  /-- How discovery fails, instead of the configuration. -/
  discoverError : Option ProviderError
  pushError : Option ProviderError
  discovered : List String
  pushed : List PaymentRequest

namespace Provider

def fresh (mode : ProviderMode) (configuration : Option ProviderConfiguration)
    (discoverError pushError : Option ProviderError) : Provider :=
  ⟨mode, configuration, discoverError, pushError, [], []⟩

/-- What a provider says of itself unless it is told otherwise. -/
def usual (domain : String) : ProviderConfiguration :=
  ⟨[1, 0], some ("https://" ++ domain ++ "/api/uma/request")⟩

def discover (p : Provider) (domain : String) :
    Except ProviderError ProviderConfiguration × Provider :=
  (match p.mode, p.discoverError with
    | .unreachable, _ => .error (.unreachable (domain ++ ": connection refused"))
    | _, some e => .error e
    | _, none => .ok (p.configuration.getD (usual domain)),
    { p with discovered := p.discovered ++ [domain] })

def push (p : Provider) (request : PaymentRequest) : Except ProviderError Unit × Provider :=
  match p.mode with
  | .reject => (.error (.rejected 400 "unknown receiver"), p)
  | _ =>
    (match p.pushError with
      | some e => .error e
      | none => .ok (),
      { p with pushed := p.pushed ++ [request] })

end Provider

/-- Those who are told of settlements. -/
structure Notifier where
  failing : Bool
  notices : List (String × SettlementNotice)

namespace Notifier

def fresh (failing : Bool) : Notifier := ⟨failing, []⟩

def notify (n : Notifier) (url : String) (notice : SettlementNotice) :
    Except ProviderError Unit × Notifier :=
  (if n.failing then .error (.unreachable url) else .ok (),
    { n with notices := n.notices ++ [(url, notice)] })

end Notifier

end BoxOffice.Rehearsal
