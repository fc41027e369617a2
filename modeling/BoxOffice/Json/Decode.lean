import BoxOffice.Identifier
import BoxOffice.Json.Basic
import BoxOffice.Time.Reader

/-! Reading domain values from JSON values. A record is an object of named fields or an array of
the fields in their order; names that it does not know are skipped. -/

namespace BoxOffice.Json

/-- Why a value is refused. -/
inductive Fault where
  /-- A field that must be there is not. -/
  | missing
  /-- A value has another shape than the one asked for. -/
  | mismatch
  /-- The text breaks a rule whatever the shape asked for: a scalar or a name that cannot be
  taken in, nesting that is too deep, an array with an element too many. -/
  | malformed
deriving DecidableEq

abbrev Decoded (α : Type) := Except Fault α

/-- The fault of a value that is not of the shape asked for. -/
def refuse {α : Type} : Json → Decoded α
  | .unreadable => .error .malformed
  | _ => .error .mismatch

/-! ### Scalars -/

def asString : Json → Decoded String
  | .string s => .ok s
  | j => refuse j

def asBool : Json → Decoded Bool
  | .bool b => .ok b
  | j => refuse j

def asInt (low high : Int) : Json → Decoded Int
  | .integer n => if low ≤ n ∧ n ≤ high then .ok n else .error .mismatch
  | j => refuse j

def asU64 (j : Json) : Decoded UInt64 :=
  (asInt 0 (UInt64.size - 1) j).map fun n => UInt64.ofNat n.toNat

def asU32 (j : Json) : Decoded UInt32 :=
  (asInt 0 (UInt32.size - 1) j).map fun n => UInt32.ofNat n.toNat

def asU8 (j : Json) : Decoded UInt8 :=
  (asInt 0 (UInt8.size - 1) j).map fun n => UInt8.ofNat n.toNat

/-- A signed number of 64 bits. -/
def asI64 (j : Json) : Decoded Int := asInt Int64.minValue.toInt Int64.maxValue.toInt j

/-- Any number, an integer being rounded. -/
def asDouble : Json → Decoded Number.Double
  | .real x => .ok x
  | .integer n => .ok (Number.Double.ofInt n)
  | j => refuse j

/-- A string that `read` makes sense of. -/
def asParsed {α : Type} (read : String → Option α) : Json → Decoded α
  | .string s => match read s with
    | some a => .ok a
    | none => .error .mismatch
  | j => refuse j

def asInstant : Json → Decoded Time.Instant := asParsed Time.Instant.ofString?

def asUuid : Json → Decoded Uuid := asParsed Uuid.ofString?

/-- A value or null. -/
def nullable {α : Type} (f : Json → Decoded α) : Json → Decoded (Option α)
  | .null => .ok none
  | j => (f j).map some

def asList {α : Type} (f : Json → Decoded α) : Json → Decoded (List α)
  | .array items => items.mapM f
  | j => refuse j

/-- One of the names of an enumeration, as a string or as the only member of an object with the
value null. -/
def asName {α : Type} (ofName? : String → Option α) : Json → Decoded α
  | .object [(name, .null)] => asParsed ofName? (.string name)
  | .object _ => .error .mismatch
  | .string s => asParsed ofName? (.string s)
  | _ => .error .malformed

/-! ### Records -/

/-- The fields of a record that are given. -/
structure Record where
  fields : List (String × Json)
  /-- Whether the fields were given by position. -/
  positional : Bool

/-- Whether a name that the record knows is repeated. -/
def repeatsName (names : List String) (members : List (String × Json)) : Bool :=
  names.any fun n => (members.filter (·.1 == n)).length > 1

namespace Record

def ofObject (names : List String) (members : List (String × Json)) : Decoded Record :=
  if repeatsName names members then .error .mismatch else .ok ⟨members, false⟩

/-- The record with the given field names, in their order. -/
def ofJson (names : List String) : Json → Decoded Record
  | .object members => ofObject names members
  | .misnamed _ => .error .malformed
  | .array items =>
    if items.length ≤ names.length then .ok ⟨names.zip items, true⟩ else .error .malformed
  | j => refuse j

def field? (r : Record) (name : String) : Option Json := r.fields.lookup name

def required {α : Type} (r : Record) (name : String) (f : Json → Decoded α) : Decoded α :=
  match r.field? name with
  | some j => f j
  | none => .error .missing

/-- A field that may be null, or left out of an object. -/
def optional {α : Type} (r : Record) (name : String) (f : Json → Decoded α) : Decoded (Option α) :=
  match r.field? name with
  | some j => nullable f j
  | none => if r.positional then .error .missing else .ok none

/-- A field that may be left out, also at the end of an array. -/
def defaulted {α : Type} (r : Record) (name : String) (default : α) (f : Json → Decoded α) :
    Decoded α :=
  match r.field? name with
  | some j => f j
  | none => .ok default

end Record

/-! ### Values kept whole -/

/-- A value whose shape is settled only after it was read to the end. -/
def kept (j : Json) : Decoded Json := if j.canBeKept then .ok j else .error .malformed

/-- The first reading that succeeds. -/
def firstOf {α : Type} : List (Json → Decoded α) → Json → Decoded α
  | [], _ => .error .mismatch
  | f :: rest, j => match f j with
    | .ok a => .ok a
    | .error _ => firstOf rest j

mutual

/-- Of members of one name only the last is left, in every object. -/
def lastMembers : Json → Json
  | .array items => .array (lastMembersOfItems items)
  | .object members => .object (lastMembersOfMembers members)
  | j => j
termination_by structural j => j

def lastMembersOfItems : List Json → List Json
  | [] => []
  | j :: rest => j.lastMembers :: lastMembersOfItems rest
termination_by structural js => js

def lastMembersOfMembers : List (String × Json) → List (String × Json)
  | [] => []
  | (k, j) :: rest =>
    let rest' := lastMembersOfMembers rest
    if rest.any (·.1 == k) then rest' else (k, j.lastMembers) :: rest'
termination_by structural ms => ms

end

end BoxOffice.Json
