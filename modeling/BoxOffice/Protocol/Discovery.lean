import BoxOffice.Json.Decode

/-! The discovery document: what can be paid to the box office, and in which currencies. -/

namespace BoxOffice.Protocol

/-- A currency that amounts are quoted in. -/
structure Currency where
  code : String
  name : String
  symbol : String
  /-- Millisatoshis in the smallest unit. -/
  multiplier : Number.Double
  /-- Decimal places of the smallest unit. -/
  decimals : UInt8
  /-- Bounds in the smallest unit. -/
  minSendable : UInt64
  maxSendable : UInt64
deriving DecidableEq

namespace Currency

def toJson (c : Currency) : Json := .object [
  ("code", .string c.code),
  ("name", .string c.name),
  ("symbol", .string c.symbol),
  ("multiplier", .real c.multiplier),
  ("decimals", .ofNat c.decimals.toNat),
  ("minSendable", .ofNat c.minSendable.toNat),
  ("maxSendable", .ofNat c.maxSendable.toNat)]

def ofJson (j : Json) : Json.Decoded Currency := do
  let r ← Json.Record.ofJson
    ["code", "name", "symbol", "multiplier", "decimals", "minSendable", "maxSendable"] j
  return {
    code := ← r.required "code" Json.asString
    name := ← r.required "name" Json.asString
    symbol := ← r.required "symbol" Json.asString
    multiplier := ← r.required "multiplier" Json.asDouble
    decimals := ← r.required "decimals" Json.asU8
    minSendable := ← r.required "minSendable" Json.asU64
    maxSendable := ← r.required "maxSendable" Json.asU64 }

end Currency

structure PayableParameters where
  tag : String
  /-- Where pay requests are sent. -/
  callback : String
  /-- Bounds in millisatoshis. -/
  minSendable : UInt64
  maxSendable : UInt64
  /-- A JSON text: pairs of a media type and a value. -/
  metadata : String
  currencies : List Currency
  /-- The versions of the protocol, highest first, between commas. -/
  versions : String
deriving DecidableEq

/-- The tag of every discovery document. -/
def payRequestTag : String := "payRequest"

namespace PayableParameters

def toJson (p : PayableParameters) : Json := .object <|
  [("tag", .string p.tag),
    ("callback", .string p.callback),
    ("minSendable", .ofNat p.minSendable.toNat),
    ("maxSendable", .ofNat p.maxSendable.toNat),
    ("metadata", .string p.metadata)] ++
  (if p.currencies.isEmpty then [] else [("currencies", .array (p.currencies.map (·.toJson)))]) ++
  [("umaVersion", .string p.versions)]

def ofJson (j : Json) : Json.Decoded PayableParameters := do
  let r ← Json.Record.ofJson ["tag", "callback", "minSendable", "maxSendable", "metadata",
    "currencies", "umaVersion"] j
  return {
    tag := ← r.required "tag" Json.asString
    callback := ← r.required "callback" Json.asString
    minSendable := ← r.required "minSendable" Json.asU64
    maxSendable := ← r.required "maxSendable" Json.asU64
    metadata := ← r.required "metadata" Json.asString
    currencies := ← r.defaulted "currencies" [] (Json.asList Currency.ofJson)
    versions := ← r.required "umaVersion" Json.asString }

end PayableParameters

end BoxOffice.Protocol
