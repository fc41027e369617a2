import BoxOffice.Json.Decode

/-! Stored wallet connections, by which the box office pays on a buyer's behalf. -/

namespace BoxOffice

structure WalletCredential where
  userId : UserId
  /-- The connection, a secret. -/
  connectionUri : String
  expiresAt : Option Time.Instant
  updatedAt : Time.Instant
deriving DecidableEq

namespace WalletCredential

/-- Whether a wallet may be asked to pay at `now`. -/
def isUsable (c : WalletCredential) (now : Time.Instant) : Bool :=
  !c.connectionUri.isEmpty && c.expiresAt.all (now < ·)

/-- Text for diagnostics, without the secret. -/
def redacted (c : WalletCredential) : String :=
  "WalletCredential \x7b user_id: UserId(" ++ c.userId.toString ++
    "), connection_uri: \"<redacted>\", expires_at: " ++
    (match c.expiresAt with
      | some t => "Some(" ++ t.toString ++ ")"
      | none => "None") ++
    ", updated_at: " ++ c.updatedAt.toString ++ " \x7d"

def toJson (c : WalletCredential) : Json := .object [
  ("user_id", .string c.userId.toString),
  ("connection_uri", .string c.connectionUri),
  ("expires_at", .ofOption (.string ·.toString) c.expiresAt),
  ("updated_at", .string c.updatedAt.toString)]

def ofJson (j : Json) : Json.Decoded WalletCredential := do
  let r ← Json.Record.ofJson ["user_id", "connection_uri", "expires_at", "updated_at"] j
  return {
    userId := ⟨← r.required "user_id" Json.asUuid⟩
    connectionUri := ← r.required "connection_uri" Json.asString
    expiresAt := ← r.optional "expires_at" Json.asInstant
    updatedAt := ← r.required "updated_at" Json.asInstant }

end WalletCredential

end BoxOffice
