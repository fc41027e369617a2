/-! Binary numbers with 53 significant bits. A number is taken in from a decimal by rounding its
digits and then scaling by a rounded power of ten, so the result may differ from the nearest
number in the last bit; it is written with the fewest digits that read back as it. -/

namespace BoxOffice.Number

/-- The finite number `± significand · 2 ^ exponent`, with `significand < 2 ^ 53` and
`-1074 ≤ exponent ≤ 971`. -/
structure Double where
  negative : Bool
  significand : Nat
  exponent : Int
deriving DecidableEq, Inhabited

namespace Double

def zero : Double := ⟨false, 0, -1074⟩

/-- The quotient `num / (den · 2 ^ e)` as two natural numbers. -/
private def scaled (num den : Nat) (e : Int) : Nat × Nat :=
  if 0 ≤ e then (num, den <<< e.toNat) else (num <<< (-e).toNat, den)

/-- The nearest whole number to `num / den`, a half going to the even neighbour. -/
def roundHalfEven (num den : Nat) : Nat :=
  let q := num / den
  let r := num % den
  if 2 * r > den || (2 * r == den && q % 2 == 1) then q + 1 else q

/-- The number nearest to the positive quotient `num / den`, unless it is past the range. -/
def ofRatio? (num den : Nat) : Option Double :=
  if num = 0 then some zero
  else
    let guess : Int := (num.log2 : Int) - den.log2 - 53
    let fits (e : Int) : Bool := let (n, d) := scaled num den e; n < d <<< 53
    let e := max (if fits guess then guess else guess + 1) (-1074)
    let (n, d) := scaled num den e
    let m := roundHalfEven n d
    let (m, e) := if m = 1 <<< 53 then (1 <<< 52, e + 1) else (m, e)
    if e > 971 then none else some ⟨false, m, e⟩

/-- The magnitude as a quotient. -/
private def ratio (x : Double) : Nat × Nat := scaled x.significand 1 (-x.exponent)

def negate (x : Double) : Double := { x with negative := !x.negative }

/-- The number nearest to an integer of 64 bits. -/
def ofInt (n : Int) : Double :=
  let x := (ofRatio? n.natAbs 1).getD zero
  if n < 0 then x.negate else x

private def times? (x y : Double) : Option Double :=
  let (a, b) := x.ratio
  let (c, d) := y.ratio
  ofRatio? (a * c) (b * d)

private def dividedBy? (x y : Double) : Option Double :=
  let (a, b) := x.ratio
  let (c, d) := y.ratio
  ofRatio? (a * d) (b * c)

private def powerOfTen (k : Nat) : Double := (ofRatio? (Nat.pow 10 k) 1).getD zero

/-- The magnitude `digits · 10 ^ exponent`; `none` past the range. Exponents beyond the table of
powers are taken in steps of 308. -/
def ofDecimal? (digits : Nat) (exponent : Int) : Option Double := do
  let x ← ofRatio? digits 1
  if x.significand = 0 then return zero
  if 308 < exponent then none
  else if 0 ≤ exponent then x.times? (powerOfTen exponent.toNat)
  else if -308 ≤ exponent then x.dividedBy? (powerOfTen (-exponent).toNat)
  else
    let x ← x.dividedBy? (powerOfTen 308)
    if -616 ≤ exponent then x.dividedBy? (powerOfTen (-exponent - 308).toNat) else return zero

/-! ### Writing -/

/-- Whether the quotient `num / den` reads back as the positive `x`, in units of a quarter of the
last place: the neighbours are half a unit away, and the one below is nearer at a power of two. -/
private def readsAs (x : Double) (num den : Nat) : Bool :=
  let (n, d) := scaled num den (x.exponent - 2)
  let high := 4 * x.significand + 2
  let low := 4 * x.significand - if x.significand = 1 <<< 52 ∧ x.exponent > -1074 then 1 else 2
  if x.significand % 2 = 0 then low * d ≤ n && n ≤ high * d else low * d < n && n < high * d

/-- The value `digits · 10 ^ exponent` as a quotient. -/
private def decimalRatio (digits : Nat) (exponent : Int) : Nat × Nat :=
  if 0 ≤ exponent then (digits * Nat.pow 10 exponent.toNat, 1)
  else (digits, Nat.pow 10 (-exponent).toNat)

/-- The multiple of `10 ^ exponent` that reads back as `x` and is nearest to it, if one does. -/
private def onGrid (x : Double) (exponent : Int) : Option Nat :=
  let (a, b) := x.ratio
  let (n, d) :=
    if 0 ≤ exponent then (a, b * Nat.pow 10 exponent.toNat)
    else (a * Nat.pow 10 (-exponent).toNat, b)
  let below := n / d
  let hits (k : Nat) : Bool := let (p, q) := decimalRatio k exponent; readsAs x p q
  let nearest := roundHalfEven n d
  if hits nearest then some nearest
  else if hits below then some below
  else if hits (below + 1) then some (below + 1)
  else none

/-- Try the grid of `10 ^ exponent` and then finer ones, `fuel` of them. -/
private def firstHit (x : Double) : (fuel : Nat) → (exponent : Int) → Nat × Int
  | 0, e => (0, e)
  | fuel + 1, e =>
    match onGrid x e with
    | some k => (k, e)
    | none => firstHit x fuel (e - 1)

/-- The fewest digits, as a number without trailing zeros and the power of ten it is scaled by. -/
def shortest (x : Double) : Nat × Int :=
  let (a, b) := x.ratio
  let top : Int :=
    if b ≤ a then (Nat.toDigits 10 (a / b)).length else 1 - (Nat.toDigits 10 (b / a)).length
  firstHit x 20 top

private def stripZeros (n : Nat) (e : Int) : (fuel : Nat) → Nat × Int
  | 0 => (n, e)
  | fuel + 1 => if n % 10 = 0 then stripZeros (n / 10) (e + 1) fuel else (n, e)

/-- Text of the number: positional from `1e-5` up to `1e16`, with ".0" when it is whole, and with
an exponent outside. -/
def toString (x : Double) : String :=
  let sign := if x.negative then "-" else ""
  if x.significand = 0 then sign ++ "0.0"
  else
    let (n, e) := x.shortest
    let (n, e) := stripZeros n e 20
    let ds := Nat.toDigits 10 n
    let point := ds.length + e
    let body :=
      if 0 ≤ e ∧ point ≤ 16 then ds ++ List.replicate e.toNat '0' ++ ['.', '0']
      else if 0 < point ∧ point ≤ 16 then ds.take point.toNat ++ '.' :: ds.drop point.toNat
      else if -5 < point ∧ point ≤ 0 then '0' :: '.' :: List.replicate (-point).toNat '0' ++ ds
      else
        let exponent := (if point - 1 < 0 then ['-'] else []) ++ Nat.toDigits 10 (point - 1).natAbs
        let mantissa := if ds.length = 1 then ds else ds.take 1 ++ '.' :: ds.drop 1
        mantissa ++ 'e' :: exponent
    sign ++ String.ofList body

end Double

end BoxOffice.Number
