import BoxOffice.Address
import BoxOffice.Json.Decode
import BoxOffice.Text.Utf8

/-! Scripts are JSON objects that say what to try and with what. Their fields are read one by one,
in any order; a null counts as a field that is not there, and the first field that cannot be read
is named. -/

namespace BoxOffice.Script

/-- A value that is read, or the name of the field that could not be. -/
abbrev Reads := Except String

def given? (j : Json) (name : String) : Option Json :=
  match j with
  | .object members => match Json.member? members name with
    | some .null => none
    | found => found
  | _ => none

def given (j : Json) (name : String) : Reads Json :=
  match given? j name with
  | some v => .ok v
  | none => .error name

variable {α : Type}

def readAs (decode : Json → Json.Decoded α) (name : String) (j : Json) : Reads α :=
  match decode j with
  | .ok a => .ok a
  | .error _ => .error name

/-- A field that has to be there. -/
def want (decode : Json → Json.Decoded α) (j : Json) (name : String) : Reads α := do
  readAs decode name (← given j name)

def wantOption (decode : Json → Json.Decoded α) (j : Json) (name : String) : Reads (Option α) :=
  (given? j name).mapM (readAs decode name)

def wantOr (decode : Json → Json.Decoded α) (j : Json) (name : String) (usual : α) : Reads α :=
  (wantOption decode j name).map (·.getD usual)

def text (j : Json) (name : String) : Reads String := want Json.asString j name

def textOption (j : Json) (name : String) : Reads (Option String) := wantOption Json.asString j name

def textOr (j : Json) (name usual : String) : Reads String := wantOr Json.asString j name usual

def flagOr (j : Json) (name : String) (usual : Bool) : Reads Bool := wantOr Json.asBool j name usual

def number (j : Json) (name : String) : Reads UInt64 := want Json.asU64 j name

def numberOr (j : Json) (name : String) (usual : UInt64) : Reads UInt64 :=
  wantOr Json.asU64 j name usual

def instant (j : Json) (name : String) : Reads Time.Instant := want Json.asInstant j name

def uuid (j : Json) (name : String) : Reads Uuid := want Json.asUuid j name

def versions (j : Json) (name : String) : Reads (List UInt32) :=
  want (Json.asList Json.asU32) j name

def address (j : Json) (name : String) : Reads Address :=
  want (Json.asParsed fun s => (Address.parse s).toOption) j name

/-- Bytes, given as text or, under a name with an ending, in hexadecimal. -/
def bytesOption (j : Json) (name : String) : Reads (Option Bytes) := do
  match ← textOption j name with
  | some s => return some (Text.encodeUtf8 s)
  | none => wantOption (Json.asParsed fun s => Text.readHexBytes s.toList) j (name ++ "_hex")

def bytes (j : Json) (name : String) : Reads Bytes := do
  match ← bytesOption j name with
  | some bs => return bs
  | none => throw name

def items (j : Json) (name : String) : Reads (List Json) := want (Json.asList .ok) j name

def itemsOr (j : Json) (name : String) : Reads (List Json) := wantOr (Json.asList .ok) j name []

/-! ### Writing -/

def shown (s : String) : Json := .string s

/-- A failure: what kind it is of, and its message. -/
def failure (kind message : String) : Json :=
  .object [("error", .string kind), ("message", .string message)]

/-- A failure of which only the kind is told. -/
def bareFailure (kind : String) : Json := .object [("error", .string kind)]

end BoxOffice.Script
