import BoxOffice.Json.Decode
import BoxOffice.Sats

/-! Events that tickets are sold for, and the places they have left. -/

namespace BoxOffice

structure Event where
  id : EventId
  title : String
  startsAt : Time.Instant
  endsAt : Time.Instant
  /-- The number of tickets that may hold a place at once. -/
  capacity : UInt32
  /-- The price of a ticket; zero is free. -/
  price : Sats
  /-- Whether tickets are on sale. -/
  active : Bool
deriving DecidableEq

namespace Event

def isFree (e : Event) : Bool := e.price.isZero

/-- The places left when `held` tickets take one up. -/
def remaining (e : Event) (held : UInt32) : UInt32 :=
  UInt32.ofNat (e.capacity.toNat - held.toNat)

/-- Whether one more ticket fits. -/
def hasRoom (e : Event) (held : UInt32) : Bool := 0 < (e.remaining held).toNat

theorem toNat_remaining (e : Event) (held : UInt32) :
    (e.remaining held).toNat = e.capacity.toNat - held.toNat := by
  have := e.capacity.toNat_lt
  simp only [remaining, UInt32.toNat_ofNat']
  omega

theorem hasRoom_iff {e : Event} {held : UInt32} :
    e.hasRoom held = true ↔ held.toNat < e.capacity.toNat := by
  rw [hasRoom, decide_eq_true_eq, toNat_remaining]
  omega

/-! ### Written form -/

def toJson (e : Event) : Json := .object [
  ("id", .string e.id.toString),
  ("title", .string e.title),
  ("starts_at", .string e.startsAt.toString),
  ("ends_at", .string e.endsAt.toString),
  ("capacity", .ofNat e.capacity.toNat),
  ("price", .ofNat e.price.count.toNat),
  ("active", .bool e.active)]

def ofJson (j : Json) : Json.Decoded Event := do
  let r ← Json.Record.ofJson
    ["id", "title", "starts_at", "ends_at", "capacity", "price", "active"] j
  return {
    id := ⟨← r.required "id" Json.asUuid⟩
    title := ← r.required "title" Json.asString
    startsAt := ← r.required "starts_at" Json.asInstant
    endsAt := ← r.required "ends_at" Json.asInstant
    capacity := ← r.required "capacity" Json.asU32
    price := ⟨← r.required "price" Json.asU64⟩
    active := ← r.required "active" Json.asBool }

end Event

end BoxOffice
