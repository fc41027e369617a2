import BoxOffice.Text.Numeral
import BoxOffice.Time.Calendar

/-! Instants of universal time, to the nanosecond. A fraction is written with none, three, six or
nine digits, the fewest that are exact; a year outside 0 to 9999 is written with its sign. Every
minute may end in a leap second, which is written as second 60. -/

namespace BoxOffice.Time

def nanosPerSecond : Nat := 1000000000
def secondsPerDay : Nat := 86400

/-- A second and the nanoseconds since it began. Seconds are counted from 1970-01-01T00:00:00Z as
if every day had 86400 of them. A leap second has no number of its own: it prolongs the second
before it. -/
structure Instant where
  second : Int
  nanos : Nat
  nanos_lt : nanos < 2 * nanosPerSecond
deriving DecidableEq

namespace Instant

/-- The beginning of a second. -/
def ofSeconds (n : Int) : Instant := ⟨n, 0, by decide⟩

/-- The instant a number of nanoseconds behind the beginning of a second, if these do not reach
past a leap second. -/
def ofParts? (second : Int) (nanos : Nat) : Option Instant :=
  if h : nanos < 2 * nanosPerSecond then some ⟨second, nanos, h⟩ else none

instance : Inhabited Instant := ⟨ofSeconds 0⟩

instance : LE Instant :=
  ⟨fun a b => a.second < b.second ∨ (a.second = b.second ∧ a.nanos ≤ b.nanos)⟩
instance : LT Instant :=
  ⟨fun a b => a.second < b.second ∨ (a.second = b.second ∧ a.nanos < b.nanos)⟩
instance (a b : Instant) : Decidable (a ≤ b) :=
  inferInstanceAs (Decidable (a.second < b.second ∨ (a.second = b.second ∧ a.nanos ≤ b.nanos)))
instance (a b : Instant) : Decidable (a < b) :=
  inferInstanceAs (Decidable (a.second < b.second ∨ (a.second = b.second ∧ a.nanos < b.nanos)))

def firstYear : Int := -262143
def lastYear : Int := 262142

/-- Whether the calendar reaches to the instant. -/
def onCalendar (t : Instant) : Bool :=
  Date.daysToYear firstYear * secondsPerDay ≤ t.second &&
    t.second < Date.daysToYear (lastYear + 1) * secondsPerDay

/-- The instant `n` nanoseconds later. They pass through the rest of a leap second that has begun
and through no other. -/
def addNanos (t : Instant) (n : Nat) : Instant :=
  if h : nanosPerSecond ≤ t.nanos ∧ t.nanos + n < 2 * nanosPerSecond then
    ⟨t.second, t.nanos + n, h.2⟩
  else
    let sum := t.nanos % nanosPerSecond + n
    ⟨t.second + (sum / nanosPerSecond : Nat), sum % nanosPerSecond,
      Nat.lt_trans (Nat.mod_lt sum (by decide)) (by decide)⟩

def addSeconds (t : Instant) (n : Nat) : Instant := t.addNanos (n * nanosPerSecond)

def addMillis (t : Instant) (n : Nat) : Instant := t.addNanos (n * 1000000)

private def yearText (y : Int) : String :=
  if 0 ≤ y ∧ y ≤ 9999 then Text.padded 4 y.toNat
  else (if y < 0 then "-" else "+") ++ Text.padded 4 y.natAbs

private def fractionText (n : Nat) : String :=
  if n = 0 then ""
  else if n % 1000000 = 0 then "." ++ Text.padded 3 (n / 1000000)
  else if n % 1000 = 0 then "." ++ Text.padded 6 (n / 1000)
  else "." ++ Text.padded 9 n

/-- Date and time of day with the given text between them. -/
private def written (between : String) (t : Instant) : String :=
  let date := Date.ofDays (t.second / secondsPerDay)
  let ofDay := (t.second % secondsPerDay).toNat
  yearText date.year ++ "-" ++ Text.padded 2 date.month ++ "-" ++ Text.padded 2 date.day ++
    between ++ Text.padded 2 (ofDay / 3600) ++ ":" ++ Text.padded 2 (ofDay / 60 % 60) ++ ":" ++
    Text.padded 2 (ofDay % 60 + t.nanos / nanosPerSecond) ++
    fractionText (t.nanos % nanosPerSecond)

/-- The form that records are written in. -/
def toString (t : Instant) : String := written "T" t ++ "Z"

/-- The form that messages are written in. -/
def inMessage (t : Instant) : String := written " " t ++ " UTC"

end Instant

end BoxOffice.Time
