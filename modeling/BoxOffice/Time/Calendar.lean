/-! The proleptic Gregorian calendar, as a count of days from 1970-01-01. -/

namespace BoxOffice.Time

structure Date where
  year : Int
  month : Nat
  day : Nat
deriving DecidableEq

namespace Date

def isLeapYear (y : Int) : Bool := y % 4 == 0 && (y % 100 != 0 || y % 400 == 0)

def daysInMonth (y : Int) (m : Nat) : Nat :=
  if m = 2 then if isLeapYear y then 29 else 28
  else if m = 4 ∨ m = 6 ∨ m = 9 ∨ m = 11 then 30
  else 31

/-- Whether the three numbers name a day. -/
def isValid (d : Date) : Bool :=
  1 ≤ d.month && d.month ≤ 12 && 1 ≤ d.day && d.day ≤ daysInMonth d.year d.month

/-- Days from 1970-01-01 to the first day of a year. -/
def daysToYear (y : Int) : Int :=
  365 * (y - 1970) + (y - 1) / 4 - (y - 1) / 100 + (y - 1) / 400 - 477

/-- Days from the first day of the year to the first day of a month. -/
def daysToMonth (y : Int) : Nat → Nat
  | 0 => 0
  | 1 => 0
  | m + 1 => daysToMonth y m + daysInMonth y m

def toDays (d : Date) : Int := daysToYear d.year + daysToMonth d.year d.month + d.day - 1

/-- The year that holds a day. A guess from the mean length of a year is off by one at most. -/
def yearOfDays (n : Int) : Int :=
  let guess := 1970 + 400 * n / 146097
  if n < daysToYear guess then guess - 1
  else if daysToYear (guess + 1) ≤ n then guess + 1
  else guess

/-- The month that holds day `n` of the year, counted from zero, among the first `m` months. -/
def monthOfDay (y : Int) (n : Nat) : Nat → Nat
  | 0 => 1
  | 1 => 1
  | m + 1 => if daysToMonth y (m + 1) ≤ n then m + 1 else monthOfDay y n m

def ofDays (n : Int) : Date :=
  let y := yearOfDays n
  let k := (n - daysToYear y).toNat
  let m := monthOfDay y k 12
  ⟨y, m, k - daysToMonth y m + 1⟩

end Date

end BoxOffice.Time
