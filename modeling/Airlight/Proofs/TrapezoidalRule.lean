import Mathlib.Algebra.BigOperators.Field
import Airlight.Proofs.Reals
import Airlight.Transmittance.OpticalDepth

/-!
# The trapezoidal rule

Integrals along rays add up samples with weights: half the first and the last sample and all of the
others. Over the real numbers that is the composite trapezoidal rule, the sum over the intervals of
their length times the mean of the values at their ends.

## Main definitions

* `trapezoid` — the composite trapezoidal rule.
-/

namespace Airlight

open Finset Scalar

/-- The composite trapezoidal rule for a function on the range from 0 to `length`, with `n`
intervals of the same length. -/
noncomputable def trapezoid (f : ℝ → ℝ) (length : ℝ) (n : ℕ) : ℝ :=
  ∑ i ∈ range n, length / n * ((f (i * length / n) + f ((i + 1) * length / n)) / 2.0)

theorem trapezoid_real (f : ℝ → ℝ) (length : ℝ) (n : ℕ) : trapezoid f length n =
    ∑ i ∈ range n, length / n * ((f (i * length / n) + f ((i + 1) * length / n)) / 2) := by
  norm_num [trapezoid]

theorem sumTo_eq_sum (f : ℕ → ℝ) (n : ℕ) : sumTo f n = ∑ i ∈ range n, f i := by
  have hgo : ∀ (remaining i : ℕ) (sum : ℝ),
      sumTo.go f i remaining sum = sum + ∑ k ∈ range remaining, f (i + k) := by
    intro remaining
    induction remaining with
    | zero => simp [sumTo.go]
    | succ remaining ih =>
      intro i sum
      rw [sumTo.go, ih, sum_range_succ', add_zero, add_assoc, add_comm (f i)]
      simp only [add_assoc, add_comm 1]
  have hzero : (0.0 : ℝ) = 0 := by norm_num
  rw [sumTo, hgo, hzero, zero_add]
  simp only [zero_add]

section

variable {n : ℕ}

theorem trapezoidWeight_pos (n i : ℕ) : (0 : ℝ) < trapezoidWeight n i := by
  unfold trapezoidWeight
  split_ifs <;> norm_num

/-- Each end takes away half of a sample. -/
theorem trapezoidWeight_eq (hn : 0 < n) (i : ℕ) :
    (trapezoidWeight n i : ℝ) =
      1 - (if i = 0 then 1 / 2 else 0) - (if i = n then 1 / 2 else 0) := by
  unfold trapezoidWeight
  rcases eq_or_ne i 0 with rfl | hfirst
  · norm_num [hn.ne]
  · rcases eq_or_ne i n with rfl | hlast
    · norm_num [hn.ne']
    · norm_num [hfirst, hlast]

/-- Weighted samples add up to the means over the intervals. -/
theorem sum_mul_trapezoidWeight (hn : 0 < n) (g : ℕ → ℝ) :
    ∑ i ∈ range (n + 1), g i * trapezoidWeight n i = ∑ i ∈ range n, (g i + g (i + 1)) / 2 := by
  have hall : ∑ i ∈ range (n + 1), g i * trapezoidWeight n i =
      ∑ i ∈ range (n + 1), g i - g 0 / 2 - g n / 2 := by
    simp only [trapezoidWeight_eq hn, mul_sub, mul_one, mul_ite, mul_zero, sum_sub_distrib,
      sum_ite_eq', mem_range, Nat.succ_pos', Nat.lt_succ_self, if_true]
    ring
  have hleft : ∑ i ∈ range (n + 1), g i = ∑ i ∈ range n, g i + g n := sum_range_succ g n
  have hright : ∑ i ∈ range (n + 1), g i = ∑ i ∈ range n, g (i + 1) + g 0 := sum_range_succ' g n
  rw [hall, ← sum_div, sum_add_distrib]
  linarith

/-- The weights add up to the number of intervals. -/
theorem sum_trapezoidWeight (hn : 0 < n) :
    ∑ i ∈ range (n + 1), (trapezoidWeight n i : ℝ) = n := by
  have h := sum_mul_trapezoidWeight hn fun _ => 1
  norm_num at h
  exact h

/-- The rule as a sum of weighted samples. -/
theorem sum_samples_eq_trapezoid (hn : 0 < n) (f : ℝ → ℝ) (length : ℝ) :
    (∑ i ∈ range (n + 1), f (i * length / n) * trapezoidWeight n i) * (length / n) =
      trapezoid f length n := by
  rw [sum_mul_trapezoidWeight hn fun i => f (i * length / n), mul_comm, mul_sum, trapezoid_real]
  simp only [Nat.cast_add, Nat.cast_one]

theorem trapezoid_const (hn : 0 < n) (x length : ℝ) :
    trapezoid (fun _ => x) length n = x * length := by
  have hn0 : (n : ℝ) ≠ 0 := Nat.cast_ne_zero.mpr hn.ne'
  rw [trapezoid_real, sum_const, card_range, nsmul_eq_mul, add_self_div_two]
  field_simp

/-- Samples from 0 to 1 give at most the length of the range. -/
theorem trapezoid_mem {f : ℝ → ℝ} {length : ℝ} (hn : 0 < n) (hlength : 0 ≤ length)
    (hf : ∀ i ≤ n, f (i * length / n) ∈ Set.Icc (0 : ℝ) 1) :
    trapezoid f length n ∈ Set.Icc 0 length := by
  have hn0 : (n : ℝ) ≠ 0 := Nat.cast_ne_zero.mpr hn.ne'
  have hstep : 0 ≤ length / n := div_nonneg hlength n.cast_nonneg
  have hterm : ∀ i ∈ range (n + 1), f (i * length / n) * trapezoidWeight n i ∈
      Set.Icc 0 (trapezoidWeight n i) := by
    intro i hi
    have hsample := hf i (Nat.lt_succ_iff.mp (mem_range.mp hi))
    have hweight := (trapezoidWeight_pos n i).le
    exact ⟨mul_nonneg hsample.1 hweight, mul_le_of_le_one_left hweight hsample.2⟩
  rw [← sum_samples_eq_trapezoid hn]
  constructor
  · exact mul_nonneg (sum_nonneg fun i hi => (hterm i hi).1) hstep
  · calc (∑ i ∈ range (n + 1), f (i * length / n) * trapezoidWeight n i) * (length / n)
        ≤ (∑ i ∈ range (n + 1), trapezoidWeight n i) * (length / n) :=
          mul_le_mul_of_nonneg_right (sum_le_sum fun i hi => (hterm i hi).2) hstep
      _ = length := by rw [sum_trapezoidWeight hn, mul_div_cancel₀ _ hn0]

/-- Positive samples give something over a range of some length. -/
theorem trapezoid_pos {f : ℝ → ℝ} {length : ℝ} (hn : 0 < n) (hlength : 0 < length)
    (hf : ∀ i ≤ n, 0 < f (i * length / n)) : 0 < trapezoid f length n := by
  rw [← sum_samples_eq_trapezoid hn]
  refine mul_pos (sum_pos (fun i hi => ?_) nonempty_range_add_one)
    (div_pos hlength (Nat.cast_pos.mpr hn))
  exact mul_pos (hf i (Nat.lt_succ_iff.mp (mem_range.mp hi))) (trapezoidWeight_pos n i)

/-- The last sample lies at the end of the range. -/
theorem last_sample_eq (hn : 0 < n) (length : ℝ) : (n : ℝ) * length / n = length :=
  mul_div_cancel_left₀ length (Nat.cast_ne_zero.mpr hn.ne')

/-- An optical length is the trapezoidal rule for the density along the ray up to the top of the
atmosphere. -/
theorem Shell.opticalLength_eq_trapezoid (s : Shell ℝ) (density : ℝ → ℝ) (hn : 0 < n) (r mu : ℝ) :
    s.opticalLength density n r mu =
      trapezoid (fun d => density (radiusAlong r mu d - s.bottom)) (s.distanceToTop r mu) n := by
  rw [opticalLength, sumTo_eq_sum, ← sum_samples_eq_trapezoid hn, sum_mul]
  simp only [opticalTerm, mul_div_assoc]

end

end Airlight
