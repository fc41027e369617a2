import BoxOffice.Client.Exchange
import BoxOffice.Wallet.Basic
import BoxOffice.Wallet.Credential

/-! Having a wallet pay, through a bridge that holds the connection to it. -/

namespace BoxOffice.Client.Wallet

/-- `base` is what stands behind the host in the address of the bridge. -/
def payRequest (base : String) (credential : WalletCredential) (invoice : String) : Outgoing :=
  .post (trimSlashes base ++ "/pay_invoice") none (.object [
    ("connection_uri", .string credential.connectionUri),
    ("invoice", .string invoice)])

/-- What a bridge says of a failure. -/
def reasonOfJson (j : Json) : Json.Decoded String := do
  let r ← Json.Record.ofJson ["error"] j
  r.defaulted "error" "" Json.asString

def readPaid (r : Reply) : Except WalletError WalletReceipt :=
  if r.isServerError then .error (.unreachable ("bridge returned " ++ r.statusText))
  else if !r.isSuccess then
    let reason := (r.value? reasonOfJson).getD ""
    .error (.declined (if reason.isEmpty then r.statusText else reason))
  else match r.value? WalletReceipt.ofJson with
    | some receipt => .ok receipt
    | none => .error (.unreachable ("invalid bridge response: " ++ Reply.undecodable))

end BoxOffice.Client.Wallet
