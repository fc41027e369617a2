import BoxOffice.Digest.Sha256

/-! HMAC with SHA-256. Keys of any length are accepted: one longer than a block is digested
first, and every key is filled with zeros to a whole block. -/

namespace BoxOffice.Digest

def keyBlock (key : Bytes) : Bytes :=
  let short := if key.length > 64 then Sha256.digest key else key
  short ++ List.replicate (64 - short.length) 0

def hmacSha256 (key message : Bytes) : Bytes :=
  let block := keyBlock key
  let inner := Sha256.digest (block.map (· ^^^ 0x36) ++ message)
  Sha256.digest (block.map (· ^^^ 0x5c) ++ inner)

end BoxOffice.Digest
