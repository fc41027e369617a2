/-! Decimal numerals. Writing uses no leading zeros; reading accepts any number of them, and an
optional plus sign where the caller allows one. -/

namespace BoxOffice.Text

def isDigit (c : Char) : Bool := '0' ≤ c && c ≤ '9'

def digitValue (c : Char) : Nat := c.toNat - '0'.toNat

/-- The number that a run of digits names, after the digits already read. -/
def digitsValue (cs : List Char) : Nat := cs.foldl (fun n c => 10 * n + digitValue c) 0

/-- A natural number: at least one digit and nothing else. -/
def readNatural (cs : List Char) : Option Nat :=
  if !cs.isEmpty && cs.all isDigit then some (digitsValue cs) else none

/-- A number below `bound`, with an optional plus sign. -/
def readBelow (bound : Nat) (cs : List Char) : Option Nat :=
  let digits := match cs with
    | '+' :: rest => rest
    | _ => cs
  (readNatural digits).filter (· < bound)

def readU16 (cs : List Char) : Option UInt16 := (readBelow UInt16.size cs).map UInt16.ofNat
def readU32 (cs : List Char) : Option UInt32 := (readBelow UInt32.size cs).map UInt32.ofNat
def readU64 (cs : List Char) : Option UInt64 := (readBelow UInt64.size cs).map UInt64.ofNat

/-- The digits of `n`, filled with zeros to at least `width` characters. -/
def filled (radix width n : Nat) : List Char :=
  let ds := Nat.toDigits radix n
  List.replicate (width - ds.length) '0' ++ ds

/-- As `filled`, in decimal. -/
def padded (width n : Nat) : String := String.ofList (filled 10 width n)

end BoxOffice.Text
