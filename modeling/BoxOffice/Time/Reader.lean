import BoxOffice.Text.Blank
import BoxOffice.Time.Instant

/-! Reading an instant: date, a separator, time of day and an offset from universal time. The form
is the usual one, with some liberty: fields may be short, blanks may stand before a number and
around the marks between the fields, digits of the fraction past the ninth are dropped. -/

namespace BoxOffice.Time

private def skipBlanks (cs : List Char) : List Char := cs.dropWhile Text.isBlank

/-- One to `most` digits. -/
private def digits (most : Nat) (cs : List Char) : Option (Nat × List Char) :=
  let ds := (cs.take most).takeWhile Text.isDigit
  if ds.isEmpty then none else some (Text.digitsValue ds, cs.drop ds.length)

/-- A field of at most two digits with an upper bound, behind blanks. -/
private def field (bound : Nat) (cs : List Char) : Option (Nat × List Char) :=
  (digits 2 (skipBlanks cs)).filter (·.1 ≤ bound)

/-- A mark between two fields. -/
private def mark (c : Char) (cs : List Char) : Option (List Char) :=
  match skipBlanks cs with
  | d :: rest => if c = d then some rest else none
  | [] => none

/-- Up to four digits, or any number of them behind a sign. -/
private def year (cs : List Char) : Option (Int × List Char) :=
  match skipBlanks cs with
  | '-' :: rest => (digits rest.length rest).map fun (n, rest) => (-n, rest)
  | '+' :: rest => (digits rest.length rest).map fun (n, rest) => (n, rest)
  | rest => (digits 4 rest).map fun (n, rest) => (n, rest)

private def date (cs : List Char) : Option (Date × List Char) := do
  let (y, cs) ← year cs
  let cs ← mark '-' cs
  let (m, cs) ← field 12 cs
  let cs ← mark '-' cs
  let (d, cs) ← field 31 cs
  let date : Date := ⟨y, m, d⟩
  if date.isValid then some (date, cs) else none

/-- Nanoseconds written behind a point, if there is one. -/
private def fraction : List Char → Option (Nat × List Char)
  | '.' :: rest => do
    let (n, after) ← digits 9 rest
    return (n * Nat.pow 10 (9 - (rest.length - after.length)), after.dropWhile Text.isDigit)
  | cs => some (0, cs)

/-- The time of day: a second of it, and the nanoseconds since that began. Second 60 is the
leap second behind second 59. -/
private def timeOfDay (cs : List Char) : Option (Nat × Nat × List Char) := do
  let (h, cs) ← field 23 cs
  let cs ← mark ':' cs
  let (m, cs) ← field 59 cs
  let cs ← mark ':' cs
  let (s, cs) ← field 60 cs
  let (n, cs) ← fraction cs
  let second := h * 3600 + m * 60 + min s 59
  return (second, if s = 60 then nanosPerSecond + n else n, cs)

/-- Exactly two digits. -/
private def twoDigits : List Char → Option (Nat × List Char)
  | a :: b :: rest =>
    if Text.isDigit a && Text.isDigit b then some (Text.digitsValue [a, b], rest) else none
  | _ => none

private def hoursAndMinutes (cs : List Char) : Option (Nat × List Char) := do
  let (h, cs) ← twoDigits cs
  let (m, cs) ← twoDigits (cs.dropWhile fun c => c == ':' || Text.isBlank c)
  if m < 60 then some (h * 3600 + m * 60, cs) else none

/-- The offset in seconds: the letter Z, the letters UTC, or signed hours and minutes. -/
private def offset (cs : List Char) : Option (Int × List Char) :=
  if Text.lowerAscii (cs.take 3) = ['u', 't', 'c'] then some (0, cs.drop 3)
  else match cs with
    | 'Z' :: rest | 'z' :: rest => some (0, rest)
    | '+' :: rest => (hoursAndMinutes rest).map fun (n, rest) => (n, rest)
    | '-' :: rest | '−' :: rest => (hoursAndMinutes rest).map fun (n, rest) => (-n, rest)
    | _ => none

/-- Read an instant of the calendar; nothing but blanks may follow it. -/
def Instant.ofString? (s : String) : Option Instant := do
  let (date, cs) ← date s.toList
  let cs ← match cs with
    | 'T' :: rest | 't' :: rest | ' ' :: rest => some rest
    | _ => none
  let (ofDay, nanos, cs) ← timeOfDay cs
  let (seconds, cs) ← offset (skipBlanks cs)
  if !(skipBlanks cs).isEmpty || seconds.natAbs ≥ secondsPerDay then none
  else if date.year < firstYear || lastYear < date.year then none
  else (ofParts? (date.toDays * secondsPerDay + ofDay - seconds) nanos).filter (·.onCalendar)

end BoxOffice.Time
