import BoxOffice.Json.Decode
import BoxOffice.Text.Blank

/-! Which storage and which collaborators the box office runs on. -/

namespace BoxOffice

inductive StorageBackend where
  | memory
  | postgres
deriving DecidableEq

inductive LightningBackend where
  /-- Stand-ins within the process. -/
  | mock
  | http
deriving DecidableEq

namespace StorageBackend

def name : StorageBackend → String
  | .memory => "memory"
  | .postgres => "postgres"

def ofName? (s : String) : Option StorageBackend := [memory, postgres].find? (·.name == s)

/-- Read a setting, in any case; the error is its message. -/
def parse (s : String) : Except String StorageBackend :=
  let lowered := String.ofList (Text.lowerAscii s.toList)
  if lowered = "memory" then .ok .memory
  else if lowered = "postgres" ∨ lowered = "postgresql" then .ok .postgres
  else .error ("unknown storage backend: " ++ lowered)

def ofJson : Json → Json.Decoded StorageBackend := Json.asName ofName?

end StorageBackend

namespace LightningBackend

def name : LightningBackend → String
  | .mock => "mock"
  | .http => "http"

def ofName? (s : String) : Option LightningBackend := [mock, http].find? (·.name == s)

/-- Read a setting, in any case; the error is its message. -/
def parse (s : String) : Except String LightningBackend :=
  let lowered := String.ofList (Text.lowerAscii s.toList)
  if lowered = "mock" then .ok .mock
  else if lowered = "http" then .ok .http
  else .error ("unknown lightning backend: " ++ lowered)

def ofJson : Json → Json.Decoded LightningBackend := Json.asName ofName?

end LightningBackend

end BoxOffice
