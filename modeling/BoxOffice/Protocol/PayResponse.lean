import BoxOffice.Json.Decode

/-! Answers to a pay request: an invoice, with a quote where the full form was asked for, or an
error envelope. -/

namespace BoxOffice.Protocol

open Json

/-- An amount in the currency asked for. -/
structure ConvertedAmount where
  amount : UInt64
  currencyCode : String
  decimals : UInt8
  multiplier : Number.Double
  /-- The receiver's fee in millisatoshis. -/
  fee : UInt64

namespace ConvertedAmount

def toJson (c : ConvertedAmount) : Json := .object [
  ("amount", .ofNat c.amount.toNat),
  ("currencyCode", .string c.currencyCode),
  ("decimals", .ofNat c.decimals.toNat),
  ("multiplier", .real c.multiplier),
  ("fee", .ofNat c.fee.toNat)]

def ofJson (j : Json) : Decoded ConvertedAmount := do
  let r ← Record.ofJson ["amount", "currencyCode", "decimals", "multiplier", "fee"] j
  return {
    amount := ← r.required "amount" asU64
    currencyCode := ← r.required "currencyCode" asString
    decimals := ← r.required "decimals" asU8
    multiplier := ← r.required "multiplier" asDouble
    fee := ← r.required "fee" asU64 }

end ConvertedAmount

/-- What a full request is answered with besides the invoice. -/
structure Envelope where
  converted : ConvertedAmount
  payeeData : Json
  version : UInt32
  /-- Whether the invoice is good for one payment only. -/
  disposable : Bool

namespace Envelope

def members (e : Envelope) : List (String × Json) := [
  ("converted", e.converted.toJson),
  ("payeeData", e.payeeData),
  ("umaMajorVersion", .ofNat e.version.toNat),
  ("disposable", .bool e.disposable)]

def ofMembers (ms : List (String × Json)) : Decoded Envelope := do
  let r ← Record.ofObject ["converted", "payeeData", "umaMajorVersion", "disposable"] ms
  return {
    converted := ← r.required "converted" ConvertedAmount.ofJson
    payeeData := lastMembers (← r.required "payeeData" .ok)
    version := ← r.required "umaMajorVersion" asU32
    disposable := ← r.required "disposable" asBool }

end Envelope

structure PayResponse where
  /-- The encoded invoice. -/
  invoice : String
  /-- Route hints. -/
  routes : List Json
  envelope : Option Envelope

namespace PayResponse

def bare (invoice : String) : PayResponse := ⟨invoice, [], none⟩

/-- The members of the envelope stand beside the others. -/
def toJson (r : PayResponse) : Json := .object <|
  ("pr", .string r.invoice) :: ("routes", .array r.routes) ::
    (r.envelope.map (·.members)).getD []

/-- The envelope is dropped when a part of it is missing or does not fit. -/
def ofJson (j : Json) : Decoded PayResponse := do
  match ← kept j with
  | .object ms =>
    let r ← Record.ofObject ["pr", "routes"] ms
    return {
      invoice := ← r.required "pr" asString
      routes := ← r.required "routes" (asList fun j => .ok (lastMembers j))
      envelope := (Envelope.ofMembers ms).toOption }
  | j => refuse j

end PayResponse

/-- A failure of the protocol, which is sent like a success. -/
structure ErrorEnvelope where
  status : String
  reason : String
deriving DecidableEq

namespace ErrorEnvelope

def ofReason (reason : String) : ErrorEnvelope := ⟨"ERROR", reason⟩

def toJson (e : ErrorEnvelope) : Json := .object [
  ("status", .string e.status),
  ("reason", .string e.reason)]

def ofJson (j : Json) : Decoded ErrorEnvelope := do
  let r ← Record.ofJson ["status", "reason"] j
  return ⟨← r.required "status" asString, ← r.required "reason" asString⟩

end ErrorEnvelope

end BoxOffice.Protocol
