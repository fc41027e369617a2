import BoxOffice.Json.Decode

/-! Paying an invoice through a buyer's wallet. A failure is never final: the buyer's provider is
asked instead. -/

namespace BoxOffice

inductive WalletError where
  | unreachable (detail : String)
  /-- The wallet refuses, for lack of budget or balance, or because the connection is revoked. -/
  | declined (reason : String)
deriving DecidableEq

def WalletError.message : WalletError → String
  | .unreachable detail => "wallet unreachable: " ++ detail
  | .declined reason => "wallet declined payment: " ++ reason

/-- The wallet's word that it pays. -/
structure WalletReceipt where
  preimage : Option String
deriving DecidableEq

namespace WalletReceipt

def toJson (r : WalletReceipt) : Json := .object [("preimage", .ofOption .string r.preimage)]

def ofJson (j : Json) : Json.Decoded WalletReceipt := do
  let r ← Json.Record.ofJson ["preimage"] j
  return ⟨← r.defaulted "preimage" none (Json.nullable Json.asString)⟩

end WalletReceipt

end BoxOffice
