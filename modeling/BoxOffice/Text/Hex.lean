/-! Hexadecimal text: bytes as pairs of lower-case digits, and reading in either case. -/

namespace BoxOffice

/-- Raw octets, such as a request body or a digest. -/
abbrev Bytes := List UInt8

namespace Text

/-- The lower-case digit of a number below sixteen. -/
def hexDigit (n : Nat) : Char :=
  if n < 10 then Char.ofNat (48 + n) else Char.ofNat (87 + n)

def hexValue (c : Char) : Option Nat :=
  if '0' ≤ c ∧ c ≤ '9' then some (c.toNat - 48)
  else if 'a' ≤ c ∧ c ≤ 'f' then some (c.toNat - 87)
  else if 'A' ≤ c ∧ c ≤ 'F' then some (c.toNat - 55)
  else none

/-- The `width` low digits of `n`, most significant first. -/
def hexOf : (width n : Nat) → List Char
  | 0, _ => []
  | w + 1, n => hexOf w (n / 16) ++ [hexDigit (n % 16)]

/-- The number named by hexadecimal digits. -/
def hexNumber (cs : List Char) : Option Nat :=
  cs.foldlM (fun n c => (hexValue c).map (16 * n + ·)) 0

/-- Two digits per byte. -/
def hexBytes (bs : Bytes) : List Char :=
  bs.flatMap fun b => [hexDigit (b.toNat / 16), hexDigit (b.toNat % 16)]

/-- Read pairs of digits; an odd count or another character is refused. -/
def readHexBytes : List Char → Option Bytes
  | [] => some []
  | [_] => none
  | a :: b :: rest => do
    let high ← hexValue a
    let low ← hexValue b
    let bytes ← readHexBytes rest
    return UInt8.ofNat (16 * high + low) :: bytes

/-- The fewest digits that name `n`. -/
def hexNatural (n : Nat) : List Char := Nat.toDigits 16 n

end Text

end BoxOffice
