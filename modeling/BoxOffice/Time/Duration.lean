import BoxOffice.Text.Numeral

/-! Lengths of time, and their text in the largest unit that leaves a whole part. -/

namespace BoxOffice.Time

structure Duration where
  nanos : Nat
deriving DecidableEq

namespace Duration

def ofParts (seconds nanos : Nat) : Duration := ⟨seconds * 1000000000 + nanos⟩

/-- Whole part and fraction of `n` in a unit of `10 ^ places`, without trailing zeros. -/
private def inUnit (places n : Nat) (unit : String) : String :=
  let fraction := n % Nat.pow 10 places
  let ds := (Text.padded places fraction).toList.reverse.dropWhile (· == '0')
  let tail := if fraction = 0 then "" else "." ++ String.ofList ds.reverse
  (n / Nat.pow 10 places).repr ++ tail ++ unit

def toString (d : Duration) : String :=
  if d.nanos ≥ 1000000000 then inUnit 9 d.nanos "s"
  else if d.nanos ≥ 1000000 then inUnit 6 d.nanos "ms"
  else if d.nanos ≥ 1000 then inUnit 3 d.nanos "µs"
  else inUnit 0 d.nanos "ns"

end Duration

end BoxOffice.Time
