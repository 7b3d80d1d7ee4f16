import Mathlib.Algebra.Ring.Int.Defs
import Mathlib.Algebra.Ring.Nat
import Mathlib.Data.Int.Basic
import Mathlib.Data.Nat.Log

/-! # Integers as binary64 numbers

`float64 x` is the value of `x` after conversion to a 64-bit float: 53 significant bits,
to nearest, ties to even. The exponent range plays no role for 64-bit integers and
is left out.
-/

namespace Rounding

/-- Above 2^53 the representable numbers near `n` are the multiples of `unit`. -/
def roundNat (n : Nat) : Nat :=
  if n < 2 ^ 53 then n
  else
    let unit := 2 ^ (n.log2 - 52)
    let down := n / unit
    let left := n % unit
    if 2 * left < unit ∨ 2 * left = unit ∧ down % 2 = 0 then down * unit else (down + 1) * unit

def float64 : Int → Int
  | .ofNat n => roundNat n
  | .negSucc n => -roundNat (n + 1)

theorem roundNat_of_dvd {n : Nat} (large : 2 ^ 53 ≤ n) (exact_ : 2 ^ (n.log2 - 52) ∣ n) :
    roundNat n = n := by
  have even : n % 2 ^ (n.log2 - 52) = 0 := Nat.mod_eq_zero_of_dvd exact_
  have low : 2 * (n % 2 ^ (n.log2 - 52)) < 2 ^ (n.log2 - 52) := by
    rw [even]
    exact Nat.two_pow_pos _
  simp only [roundNat, if_neg (Nat.not_lt.mpr large), if_pos (Or.inl low)]
  exact Nat.div_mul_cancel exact_

theorem dvd_of_roundNat {n : Nat} (large : 2 ^ 53 ≤ n) (exact_ : roundNat n = n) :
    2 ^ (n.log2 - 52) ∣ n := by
  have whole : 2 ^ (n.log2 - 52) ∣ roundNat n := by
    simp only [roundNat, if_neg (Nat.not_lt.mpr large)]
    split
    · exact Nat.dvd_mul_left _ _
    · exact Nat.dvd_mul_left _ _
  rwa [exact_] at whole

/-- Below 2^63 the steps are at most 1024, so a multiple of that takes an exact number to an exact
    number. -/
theorem roundNat_sub {n m : Nat} (below : n < 2 ^ 63) (exact_ : roundNat n = n)
    (whole : 1024 ∣ m) : roundNat (n - m) = n - m := by
  by_cases small : n - m < 2 ^ 53
  · exact if_pos small
  · have large : 2 ^ 53 ≤ n - m := Nat.not_lt.mp small
    have positive : n ≠ 0 := by omega
    have positive' : n - m ≠ 0 := by omega
    have bits : n.log2 < 63 := (Nat.log2_lt positive).mpr below
    have fewer : (n - m).log2 ≤ n.log2 := by
      have self := Nat.log2_self_le positive'
      exact (Nat.le_log2 positive).mpr (by omega)
    have left : 2 ^ (n.log2 - 52) ∣ n := dvd_of_roundNat (by omega) exact_
    have right : 2 ^ (n.log2 - 52) ∣ m :=
      Nat.dvd_trans (Nat.pow_dvd_pow 2 (by omega : n.log2 - 52 ≤ 10)) whole
    apply roundNat_of_dvd large
    exact Nat.dvd_trans (Nat.pow_dvd_pow 2 (by omega)) (Nat.dvd_sub left right)

theorem float64_sub {x y : Int} (below : x < 2 ^ 63) (exact_ : float64 x = x) (positive : 0 ≤ y)
    (whole : 1024 ∣ y) (le : y ≤ x) : float64 (x - y) = x - y := by
  obtain ⟨n, rfl⟩ := Int.eq_ofNat_of_zero_le (positive.trans le)
  obtain ⟨m, rfl⟩ := Int.eq_ofNat_of_zero_le positive
  have rounded : roundNat n = n := Int.ofNat.inj exact_
  have difference : ((n : Int) - m) = ((n - m : Nat) : Int) := (Int.ofNat_sub (Int.ofNat_le.mp le)).symm
  rw [difference]
  exact congrArg Int.ofNat (roundNat_sub (by omega) rounded (Int.natCast_dvd_natCast.mp whole))

/-- Powers of two are exact. -/
theorem float64_two_pow (k : Nat) : float64 (2 ^ k) = 2 ^ k := by
  have cast : ((2 : Int) ^ k) = ((2 ^ k : Nat) : Int) := by simp
  have exact_ : roundNat (2 ^ k) = 2 ^ k := by
    by_cases small : 2 ^ k < 2 ^ 53
    · exact if_pos small
    · apply roundNat_of_dvd (Nat.not_lt.mp small)
      rw [Nat.log2_two_pow]
      exact Nat.pow_dvd_pow 2 (Nat.sub_le k 52)
  rw [cast]
  exact congrArg Int.ofNat exact_

theorem roundNat_le_two_pow {n k : Nat} (below : n ≤ 2 ^ k) : roundNat n ≤ 2 ^ k := by
  by_cases small : n < 2 ^ 53
  · rw [roundNat, if_pos small]
    exact below
  · have large : 2 ^ 53 ≤ n := Nat.not_lt.mp small
    have positive : n ≠ 0 := by
      rintro rfl
      simp at large
    cases Nat.lt_or_eq_of_le below with
    | inr same =>
        have whole : roundNat n = n := by
          apply roundNat_of_dvd large
          rw [same, Nat.log2_two_pow]
          exact Nat.pow_dvd_pow 2 (Nat.sub_le k 52)
        exact whole.trans_le below
    | inl less =>
        -- rounding up reaches the next power of two at most
        have bits : 53 ≤ n.log2 := (Nat.le_log2 positive).mpr large
        have unit : 2 ^ (n.log2 + 1) = 2 ^ 53 * 2 ^ (n.log2 - 52) := by
          rw [← Nat.pow_add]
          congr 1
          omega
        have down : n / 2 ^ (n.log2 - 52) < 2 ^ 53 := by
          rw [Nat.div_lt_iff_lt_mul (Nat.two_pow_pos _), ← unit]
          exact Nat.lt_log2_self
        have next : roundNat n ≤ 2 ^ (n.log2 + 1) := by
          simp only [roundNat, if_neg small]
          rw [unit]
          split
          · exact Nat.mul_le_mul_right _ (Nat.le_of_lt down)
          · exact Nat.mul_le_mul_right _ down
        exact next.trans (Nat.pow_le_pow_right (by decide) ((Nat.log2_lt positive).mpr less))

/-- A number is not rounded past a power of two. -/
theorem float64_le_two_pow {x : Int} {k : Nat} (below : x ≤ 2 ^ k) : float64 x ≤ 2 ^ k := by
  have cast : ((2 : Int) ^ k) = ((2 ^ k : Nat) : Int) := by simp
  rw [cast] at below ⊢
  cases x with
  | ofNat n => exact Int.ofNat_le.mpr (roundNat_le_two_pow (Int.ofNat_le.mp below))
  | negSucc n =>
      have rounded : float64 (.negSucc n) = -(roundNat (n + 1) : Int) := rfl
      rw [rounded]
      exact (Int.neg_nonpos_of_nonneg (Int.natCast_nonneg _)).trans (Int.natCast_nonneg _)

/-- The clock of 2023 has steps of 256 nanoseconds. -/
example : float64 1700000000000000001 = 1700000000000000000 := by decide +kernel

end Rounding
