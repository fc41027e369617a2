import BoxOffice.Json.Decode

/-! What a payer's provider asks for: an invoice in a currency, with data on the payer, or no more
than an amount. A body is taken for a bare amount when it does not fit the full form. -/

namespace BoxOffice.Protocol

open Json

structure FullRequest where
  /-- In millisatoshis. -/
  amount : UInt64
  currencyCode : String
  payerData : Json
  /-- The version of the protocol that the sender speaks. -/
  version : Option UInt32

/-- Where the sender asks to be told of the settlement: a text at compliance.utxoCallback that is
not empty. -/
def FullRequest.callback? (r : FullRequest) : Option String := do
  let compliance ← match r.payerData with
    | .object members => member? members "compliance"
    | _ => none
  let url ← match compliance with
    | .object members => member? members "utxoCallback"
    | _ => none
  match url with
  | .string s => if s.isEmpty then none else some s
  | _ => none

def FullRequest.ofJson (j : Json) : Decoded FullRequest := do
  let r ← Record.ofJson ["amount", "receivingCurrencyCode", "payerData", "umaMajorVersion"] j
  return {
    amount := ← r.required "amount" asU64
    currencyCode := ← r.required "receivingCurrencyCode" asString
    payerData := ← r.required "payerData" .ok
    version := ← r.defaulted "umaMajorVersion" none (nullable asU32) }

/-- An amount in millisatoshis, which may be left out. -/
structure AmountQuery where
  amount : Option UInt64
deriving DecidableEq

namespace AmountQuery

def ofJson (j : Json) : Decoded AmountQuery := do
  let r ← Record.ofJson ["amount"] j
  return ⟨← r.defaulted "amount" none (nullable asU64)⟩

def toJson (q : AmountQuery) : Json := .object [("amount", .ofOption (.ofNat ·.toNat) q.amount)]

end AmountQuery

inductive PayRequest where
  | full (request : FullRequest)
  | amount (query : AmountQuery)

namespace PayRequest

/-- The full form if it fits, else the bare one. -/
def ofKeptJson : Json → Decoded PayRequest :=
  firstOf [fun j => full <$> FullRequest.ofJson j, fun j => amount <$> AmountQuery.ofJson j]

def ofJson (j : Json) : Decoded PayRequest := kept j >>= ofKeptJson

end PayRequest

end BoxOffice.Protocol
