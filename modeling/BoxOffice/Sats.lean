/-! Amounts of money in satoshis, and their exchange with millisatoshis, the unit that amounts
travel in. Going out, an amount past the 64-bit range is clamped; coming in, an amount that is not
a whole number of satoshis is refused. -/

namespace BoxOffice

/-- An amount in satoshis, the smallest unit that tickets are priced in. -/
structure Sats where
  count : UInt64
deriving DecidableEq, Inhabited

namespace Sats

def zero : Sats := ⟨0⟩

def isZero (a : Sats) : Bool := a.count == 0

/-- The amount in millisatoshis, clamped to 64 bits. -/
def millisats (a : Sats) : UInt64 := UInt64.ofNat (min (a.count.toNat * 1000) (UInt64.size - 1))

/-- The amount of a number of millisatoshis that leaves no remainder. -/
def ofMillisats? (m : UInt64) : Option Sats :=
  if m % 1000 = 0 then some ⟨m / 1000⟩ else none

def toString (a : Sats) : String := s!"{a.count.toNat} sats"

theorem toNat_millisats (a : Sats) :
    a.millisats.toNat = min (a.count.toNat * 1000) (UInt64.size - 1) := by
  simp only [millisats, UInt64.toNat_ofNat', UInt64.size]
  omega

end Sats

end BoxOffice
