import BoxOffice.Digest.Hmac
import BoxOffice.Text.Blank
import BoxOffice.Text.Hex

/-! Signatures of notifications: the digest of the body under a shared secret, in hexadecimal. -/

namespace BoxOffice.Signature

/-- A keyed digest of a message. -/
abbrev Mac := (key message : Bytes) → Bytes

/-- The signature by any keyed digest. -/
def signWith (mac : Mac) (secret body : Bytes) : String :=
  String.ofList (Text.hexBytes (mac secret body))

/-- Whether a text is the signature, blanks around it and the case of its letters aside. -/
def verifyWith (mac : Mac) (secret body : Bytes) (signature : String) : Bool :=
  Text.readHexBytes (Text.trim signature.toList) == some (mac secret body)

def sign (secret body : Bytes) : String := signWith Digest.hmacSha256 secret body

def verify (secret body : Bytes) (signature : String) : Bool :=
  verifyWith Digest.hmacSha256 secret body signature

end BoxOffice.Signature
