import BoxOffice.Text.Hex
import BoxOffice.Text.Numeral
import Mathlib.Data.List.Basic

/-! Numerals of a fixed width are read back: filling with zeros loses nothing, and neither does a
number that is wider than the field. -/

namespace BoxOffice.Text

/-- The number that digits in a radix of at most sixteen name. -/
def numberOf (radix : Nat) (cs : List Char) : Nat :=
  cs.foldl (fun n c => radix * n + (hexValue c).getD 0) 0

variable {radix : Nat}

theorem numberOf_append_digit (cs : List Char) (c : Char) :
    numberOf radix (cs ++ [c]) = radix * numberOf radix cs + (hexValue c).getD 0 := by
  simp [numberOf]

theorem numberOf_zeros_append (k : Nat) (cs : List Char) :
    numberOf radix (List.replicate k '0' ++ cs) = numberOf radix cs := by
  have hzero : (hexValue '0').getD 0 = 0 := by decide
  induction k with
  | zero => rfl
  | succ k ih => simpa [numberOf, List.replicate_succ, hzero] using ih

theorem hexValue_digitChar : ∀ d < 16, hexValue d.digitChar = some d := by decide

theorem numberOf_toDigits (hradix : 1 < radix) (hmost : radix ≤ 16) (n : Nat) :
    numberOf radix (Nat.toDigits radix n) = n := by
  have hlast : ∀ d, d < radix → (hexValue d.digitChar).getD 0 = d := fun d hd => by
    simp [hexValue_digitChar d (by omega)]
  induction n using Nat.strongRecOn with
  | ind n ih =>
    rw [Nat.toDigits_eq_if hradix]
    split
    · next hn => simp [numberOf, hlast n hn]
    · next hn =>
      have hless : n / radix < n := Nat.div_lt_self (by omega) hradix
      rw [numberOf_append_digit, ih _ hless, hlast _ (Nat.mod_lt n (by omega)), Nat.div_add_mod]

theorem numberOf_filled (hradix : 1 < radix) (hmost : radix ≤ 16) (width n : Nat) :
    numberOf radix (filled radix width n) = n := by
  rw [filled, numberOf_zeros_append, numberOf_toDigits hradix hmost]

/-- Numerals of one width are different for different numbers, also where they overflow it. -/
theorem filled_inj (hradix : 1 < radix) (hmost : radix ≤ 16) {width n m : Nat} :
    filled radix width n = filled radix width m ↔ n = m := by
  refine ⟨fun h => ?_, fun h => h ▸ rfl⟩
  rw [← numberOf_filled hradix hmost width n, h, numberOf_filled hradix hmost]

/-- A decimal is the numeral of no width. -/
theorem repr_eq_ofList_filled (n : Nat) : n.repr = String.ofList (filled 10 0 n) := by
  rw [filled, Nat.zero_sub, Nat.repr_eq_ofList_toDigits]
  rfl

theorem isDigit_of_mem_filled {width n : Nat} {c : Char} (h : c ∈ filled 10 width n) :
    c.isDigit = true := by
  rcases List.mem_append.1 h with hzero | hdigit
  · rw [List.eq_of_mem_replicate hzero]
    rfl
  · exact Nat.isDigit_of_mem_toDigits (by decide) (by decide) hdigit

end BoxOffice.Text
