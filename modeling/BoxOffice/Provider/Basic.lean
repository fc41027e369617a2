import BoxOffice.Json.Decode

/-! The providers of the buyers: their configuration, the payment requests pushed to them, and the
notice of a settlement. -/

namespace BoxOffice

inductive ProviderError where
  | unreachable (detail : String)
  /-- It answered with a status other than success; the body is an excerpt. -/
  | rejected (status : Nat) (body : String)
  /-- It takes no pushed payment requests. -/
  | noRequestEndpoint (domain : String)
  /-- It speaks none of our versions of the protocol. -/
  | unsupportedVersion (offered : List UInt32)
  | invalidResponse (detail : String)
deriving DecidableEq

/-- A list of versions between brackets. -/
def listVersions (vs : List UInt32) : String :=
  "[" ++ String.intercalate ", " (vs.map (·.toNat.repr)) ++ "]"

def ProviderError.message : ProviderError → String
  | .unreachable detail => "provider unreachable: " ++ detail
  | .rejected status body =>
    "provider rejected request with status " ++ status.repr ++ ": " ++ body
  | .noRequestEndpoint domain => "provider at " ++ domain ++ " has no request endpoint"
  | .unsupportedVersion offered =>
    "provider supports none of our protocol versions (offers " ++ listVersions offered ++ ")"
  | .invalidResponse detail => "invalid provider response: " ++ detail

/-- What a provider says of itself. -/
structure ProviderConfiguration where
  /-- The major versions of the protocol that it speaks. -/
  versions : List UInt32
  /-- Where it takes payment requests. -/
  requestEndpoint : Option String
deriving DecidableEq

namespace ProviderConfiguration

def toJson (c : ProviderConfiguration) : Json := .object <|
  ("uma_major_versions", .array (c.versions.map (.ofNat ·.toNat))) ::
    (c.requestEndpoint.map fun e => ("uma_request_endpoint", Json.string e)).toList

def ofJson (j : Json) : Json.Decoded ProviderConfiguration := do
  let r ← Json.Record.ofJson ["uma_major_versions", "uma_request_endpoint"] j
  return {
    versions := ← r.required "uma_major_versions" (Json.asList Json.asU32)
    requestEndpoint := ← r.defaulted "uma_request_endpoint" none (Json.nullable Json.asString) }

end ProviderConfiguration

/-- A payment request that is pushed to a buyer's provider. -/
structure PaymentRequest where
  /-- The buyer, who is asked to pay. -/
  sender : String
  receiver : String
  amount : UInt64
  currency : String
  /-- Where the provider fetches the invoice. -/
  callback : String
  /-- Seconds since 1970 after which the request is void. -/
  expiresAt : Int
  description : String
deriving DecidableEq

namespace PaymentRequest

def toJson (p : PaymentRequest) : Json := .object [
  ("sender_uma", .string p.sender),
  ("receiver_uma", .string p.receiver),
  ("amount", .ofNat p.amount.toNat),
  ("currency", .string p.currency),
  ("callback", .string p.callback),
  ("expires_at", .integer p.expiresAt),
  ("description", .string p.description)]

def ofJson (j : Json) : Json.Decoded PaymentRequest := do
  let r ← Json.Record.ofJson ["sender_uma", "receiver_uma", "amount", "currency", "callback",
    "expires_at", "description"] j
  return {
    sender := ← r.required "sender_uma" Json.asString
    receiver := ← r.required "receiver_uma" Json.asString
    amount := ← r.required "amount" Json.asU64
    currency := ← r.required "currency" Json.asString
    callback := ← r.required "callback" Json.asString
    expiresAt := ← r.required "expires_at" Json.asI64
    description := ← r.required "description" Json.asString }

end PaymentRequest

/-- What the payer's side is told after a settlement. -/
structure SettlementNotice where
  /-- Our domain. -/
  domain : String
  invoice : String
  amountMsats : UInt64
  settledAt : Time.Instant
deriving DecidableEq

def SettlementNotice.toJson (n : SettlementNotice) : Json := .object [
  ("vaspDomain", .string n.domain),
  ("invoice", .string n.invoice),
  ("amountMsats", .ofNat n.amountMsats.toNat),
  ("settledAt", .string n.settledAt.toString)]

end BoxOffice
