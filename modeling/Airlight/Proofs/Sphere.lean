import Mathlib.Tactic.FieldSimp
import Airlight.Proofs.Reals
import Airlight.Grid.RayMap

/-!
# Distances to the two spheres

Over the real numbers the distances along a ray to the ground and to the top of the atmosphere are
roots of the quadratic `r² + 2 r mu d + d²`, the squared radius of the point at distance `d`. Each
distance is characterised by that equation and by the half of the parabola on which it lies, and is
bounded by the distances in the vertical and in the horizontal direction.

## Main definitions

* `Shell.Proper` — the ground has a positive radius and lies below the top.
-/

namespace Airlight

open Scalar

variable {r mu d : ℝ}

/-! ## Real forms -/

@[simp] theorem clampCosine_real (x : ℝ) : clampCosine x = min (max x (-1)) 1 := by
  norm_num [clampCosine]

theorem clampCosine_eq_self {x : ℝ} (hlo : -1 ≤ x) (hhi : x ≤ 1) : clampCosine x = x := by
  rw [clampCosine_real, max_eq_left hlo, min_eq_left hhi]

theorem clampCosine_mem (x : ℝ) : clampCosine x ∈ Set.Icc (-1) 1 := by
  simp

@[simp] theorem clampDistance_real (x : ℝ) : clampDistance x = max x 0 := by
  norm_num [clampDistance]

@[simp] theorem safeSqrt_real (x : ℝ) : safeSqrt x = √x := by
  unfold safeSqrt
  rw [larger_real, sqrt_real]
  rcases le_total 0 x with h | h
  · rw [max_eq_left (by norm_num; exact h)]
  · rw [max_eq_right (by norm_num; exact h), Real.sqrt_eq_zero_of_nonpos h]
    norm_num

/-- The square root of a completed square. -/
theorem sqrt_of_completed_square {x c d : ℝ} (h : c = d ^ 2 - 2 * d * x) :
    √(x ^ 2 + c) = |d - x| := by
  rw [h, show x ^ 2 + (d ^ 2 - 2 * d * x) = (d - x) ^ 2 by ring, Real.sqrt_sq_eq_abs]

namespace Shell

variable {s : Shell ℝ}

theorem radiusAlong_real (r mu d : ℝ) : radiusAlong r mu d = √(r ^ 2 + 2 * r * mu * d + d ^ 2) := by
  unfold radiusAlong
  rw [sqrt_real]
  congr 1
  norm_num
  ring

theorem horizonLength_real (s : Shell ℝ) : s.horizonLength = √(s.top ^ 2 - s.bottom ^ 2) := by
  simp [horizonLength, sq]

theorem horizonDistance_real (s : Shell ℝ) (r : ℝ) :
    s.horizonDistance r = √(r ^ 2 - s.bottom ^ 2) := by
  simp [horizonDistance, sq]

theorem distanceToTop_real (s : Shell ℝ) (r mu : ℝ) :
    s.distanceToTop r mu = max (-(r * mu) + √((-(r * mu)) ^ 2 + (s.top ^ 2 - r ^ 2))) 0 := by
  unfold distanceToTop
  rw [clampDistance_real, safeSqrt_real]
  norm_num
  ring_nf

theorem distanceToBottom_real (s : Shell ℝ) (r mu : ℝ) :
    s.distanceToBottom r mu = max (-(r * mu) - √((-(r * mu)) ^ 2 + (s.bottom ^ 2 - r ^ 2))) 0 := by
  unfold distanceToBottom
  rw [clampDistance_real, safeSqrt_real]
  norm_num
  ring_nf

theorem meetsGround_iff (s : Shell ℝ) (r mu : ℝ) :
    s.meetsGround r mu = true ↔ mu < 0 ∧ r ^ 2 - s.bottom ^ 2 ≤ (r * mu) ^ 2 := by
  have : r * r * (mu * mu - 1) + s.bottom * s.bottom =
      (r * mu) ^ 2 - (r ^ 2 - s.bottom ^ 2) := by ring
  norm_num [meetsGround, this]

/-! ## Distances to the horizon -/

/-- The ground has a positive radius and lies below the top of the atmosphere. -/
structure Proper (s : Shell ℝ) : Prop where
  bottom_pos : 0 < s.bottom
  bottom_lt_top : s.bottom < s.top

theorem Proper.top_pos (hs : s.Proper) : 0 < s.top := hs.bottom_pos.trans hs.bottom_lt_top

theorem sq_horizonLength (hs : s.Proper) : s.horizonLength ^ 2 = s.top ^ 2 - s.bottom ^ 2 := by
  have := hs.bottom_pos
  have := hs.bottom_lt_top
  rw [horizonLength_real, Real.sq_sqrt (by nlinarith)]

theorem horizonLength_pos (hs : s.Proper) : 0 < s.horizonLength := by
  have := hs.bottom_pos
  have := hs.bottom_lt_top
  rw [horizonLength_real]
  exact Real.sqrt_pos.mpr (by nlinarith)

/-- The way to the horizon and on to the top is longer than the vertical one. -/
theorem thickness_lt_horizonLength (hs : s.Proper) : s.top - s.bottom < s.horizonLength := by
  have := hs.bottom_pos
  have := hs.bottom_lt_top
  exact lt_of_pow_lt_pow_left₀ 2 (horizonLength_pos hs).le (by rw [sq_horizonLength hs]; nlinarith)

theorem horizonDistance_nonneg (s : Shell ℝ) (r : ℝ) : 0 ≤ s.horizonDistance r := by
  rw [horizonDistance_real]
  exact Real.sqrt_nonneg _

/-- The ways from a radius to the top differ in length. -/
theorem distanceToTop_span_pos (hs : s.Proper) (hr : s.bottom ≤ r) :
    0 < s.horizonDistance r + s.horizonLength - (s.top - r) := by
  have := thickness_lt_horizonLength hs
  have := horizonDistance_nonneg s r
  linarith

theorem sq_horizonDistance (hs : s.Proper) (hr : s.bottom ≤ r) :
    s.horizonDistance r ^ 2 = r ^ 2 - s.bottom ^ 2 := by
  have := hs.bottom_pos
  rw [horizonDistance_real, Real.sq_sqrt (by nlinarith)]

theorem horizonDistance_bottom (s : Shell ℝ) : s.horizonDistance s.bottom = 0 := by
  simp [horizonDistance_real]

theorem horizonDistance_le_horizonLength (hs : s.Proper) (hr : r ∈ Set.Icc s.bottom s.top) :
    s.horizonDistance r ≤ s.horizonLength := by
  have := hs.bottom_pos
  have := hr.1
  have := hr.2
  rw [horizonDistance_real, horizonLength_real]
  exact Real.sqrt_le_sqrt (by nlinarith)

theorem horizonDistance_lt_self (hs : s.Proper) (hr : s.bottom ≤ r) : s.horizonDistance r < r := by
  have := hs.bottom_pos
  exact lt_of_pow_lt_pow_left₀ 2 (by linarith) (by rw [sq_horizonDistance hs hr]; nlinarith)

/-- No way to the horizon is shorter than the vertical way to the ground, and above the ground it is
longer. -/
theorem altitude_lt_horizonDistance (hs : s.Proper) (hr : s.bottom < r) :
    r - s.bottom < s.horizonDistance r := by
  have := hs.bottom_pos
  exact lt_of_pow_lt_pow_left₀ 2 (horizonDistance_nonneg s r)
    (by rw [sq_horizonDistance hs hr.le]; nlinarith)

theorem altitude_le_horizonDistance (hs : s.Proper) (hr : s.bottom ≤ r) :
    r - s.bottom ≤ s.horizonDistance r := by
  rcases hr.eq_or_lt with rfl | hr
  · simpa using horizonDistance_nonneg s s.bottom
  · exact (altitude_lt_horizonDistance hs hr).le

/-! ## Roots -/

/-- A distance at which the ray reaches the top on its way up is the distance to the top. -/
theorem distanceToTop_eq (hd : 0 ≤ d) (hreach : r ^ 2 + 2 * r * mu * d + d ^ 2 = s.top ^ 2)
    (hup : 0 ≤ d + r * mu) : s.distanceToTop r mu = d := by
  have hroot : s.top ^ 2 - r ^ 2 = d ^ 2 - 2 * d * (-(r * mu)) := by linarith
  rw [distanceToTop_real, sqrt_of_completed_square hroot, abs_of_nonneg (by linarith)]
  simpa using hd

/-- A distance at which the ray reaches the ground on its way down is the distance to the ground. -/
theorem distanceToBottom_eq (hd : 0 ≤ d) (hreach : r ^ 2 + 2 * r * mu * d + d ^ 2 = s.bottom ^ 2)
    (hdown : d + r * mu ≤ 0) : s.distanceToBottom r mu = d := by
  have hroot : s.bottom ^ 2 - r ^ 2 = d ^ 2 - 2 * d * (-(r * mu)) := by linarith
  rw [distanceToBottom_real, sqrt_of_completed_square hroot, abs_of_nonpos (by linarith)]
  simpa using hd

/-- The rays that fall from a point on the ground have no length. -/
theorem distanceToBottom_bottom (hmu : mu ≤ 0) (hb : 0 ≤ s.bottom) :
    s.distanceToBottom s.bottom mu = 0 :=
  distanceToBottom_eq le_rfl (by ring) (by nlinarith)

/-- The rays that rise from a point at the top have no length. -/
theorem distanceToTop_top (hmu : 0 ≤ mu) (ht : 0 ≤ s.top) : s.distanceToTop s.top mu = 0 :=
  distanceToTop_eq le_rfl (by ring) (by nlinarith)

/-- From inside the shell the root for the top is not negative. -/
theorem distanceToTop_eq_add_sqrt (hr : 0 ≤ r) (htop : r ≤ s.top) :
    s.distanceToTop r mu = -(r * mu) + √((-(r * mu)) ^ 2 + (s.top ^ 2 - r ^ 2)) := by
  have hc : 0 ≤ s.top ^ 2 - r ^ 2 := by nlinarith
  have hroot : |-(r * mu)| ≤ √((-(r * mu)) ^ 2 + (s.top ^ 2 - r ^ 2)) :=
    Real.abs_le_sqrt (by linarith)
  rw [distanceToTop_real, max_eq_left (by linarith [neg_abs_le (-(r * mu))])]

/-- From above the ground the root for the ground is not negative if the ray meets it. -/
theorem distanceToBottom_eq_sub_sqrt (hs : s.Proper) (hr : s.bottom ≤ r)
    (hmeets : s.meetsGround r mu = true) :
    s.distanceToBottom r mu = -(r * mu) - √((-(r * mu)) ^ 2 + (s.bottom ^ 2 - r ^ 2)) := by
  have hb := hs.bottom_pos
  have hmu := ((meetsGround_iff s r mu).mp hmeets).1
  have hroot : √((-(r * mu)) ^ 2 + (s.bottom ^ 2 - r ^ 2)) ≤ -(r * mu) :=
    Real.sqrt_le_iff.mpr ⟨by nlinarith, by nlinarith⟩
  rw [distanceToBottom_real, max_eq_left (by linarith)]

/-- From inside the shell the ray reaches the top on its way up. -/
theorem distanceToTop_reaches (hr : 0 ≤ r) (htop : r ≤ s.top) (mu : ℝ) :
    0 ≤ s.distanceToTop r mu ∧
      r ^ 2 + 2 * r * mu * s.distanceToTop r mu + s.distanceToTop r mu ^ 2 = s.top ^ 2 ∧
      0 ≤ s.distanceToTop r mu + r * mu := by
  have hc : 0 ≤ s.top ^ 2 - r ^ 2 := by nlinarith
  have hsq := Real.sq_sqrt (add_nonneg (sq_nonneg (-(r * mu))) hc)
  refine ⟨?_, ?_, ?_⟩
  · rw [distanceToTop_real]
    exact le_max_right _ _
  · rw [distanceToTop_eq_add_sqrt hr htop]
    linear_combination hsq
  · rw [distanceToTop_eq_add_sqrt hr htop]
    linarith [Real.sqrt_nonneg ((-(r * mu)) ^ 2 + (s.top ^ 2 - r ^ 2))]

/-- A ray that meets the ground reaches it on its way down. -/
theorem distanceToBottom_reaches (hs : s.Proper) (hr : s.bottom ≤ r)
    (hmeets : s.meetsGround r mu = true) :
    0 ≤ s.distanceToBottom r mu ∧
      r ^ 2 + 2 * r * mu * s.distanceToBottom r mu + s.distanceToBottom r mu ^ 2 = s.bottom ^ 2 ∧
      s.distanceToBottom r mu + r * mu ≤ 0 := by
  have hdisc := ((meetsGround_iff s r mu).mp hmeets).2
  have hc : 0 ≤ (-(r * mu)) ^ 2 + (s.bottom ^ 2 - r ^ 2) := by linarith [neg_sq (r * mu)]
  have hsq := Real.sq_sqrt hc
  refine ⟨?_, ?_, ?_⟩
  · rw [distanceToBottom_real]
    exact le_max_right _ _
  · rw [distanceToBottom_eq_sub_sqrt hs hr hmeets]
    linear_combination hsq
  · rw [distanceToBottom_eq_sub_sqrt hs hr hmeets]
    linarith [Real.sqrt_nonneg ((-(r * mu)) ^ 2 + (s.bottom ^ 2 - r ^ 2))]

/-! ## Ranges -/

/-- A ray that meets the ground covers at least the altitude and at most the way to the horizon. -/
theorem distanceToBottom_mem (hs : s.Proper) (hr : s.bottom ≤ r) (hmu : -1 ≤ mu)
    (hmeets : s.meetsGround r mu = true) :
    s.distanceToBottom r mu ∈ Set.Icc (r - s.bottom) (s.horizonDistance r) := by
  have hb := hs.bottom_pos
  obtain ⟨hd, hreach, hdown⟩ := distanceToBottom_reaches hs hr hmeets
  have hrho := sq_horizonDistance hs hr
  have hrho0 := horizonDistance_nonneg s r
  set d := s.distanceToBottom r mu
  constructor
  · have hsq : (r - d) ^ 2 ≤ s.bottom ^ 2 := by
      nlinarith [mul_nonneg (mul_nonneg (by linarith : (0 : ℝ) ≤ r) hd) (by linarith : 0 ≤ 1 + mu)]
    linarith [(abs_le_of_sq_le_sq' hsq hb.le).2]
  · exact (abs_le_of_sq_le_sq' (by nlinarith) hrho0).2

/-- A ray that misses the ground does not fall steeper than the ray to the horizon. -/
theorem neg_horizonDistance_le (hs : s.Proper) (hr : s.bottom ≤ r)
    (hmisses : ¬ s.meetsGround r mu = true) : -s.horizonDistance r ≤ r * mu := by
  have hb := hs.bottom_pos
  have hrho0 := horizonDistance_nonneg s r
  rw [meetsGround_iff, not_and_or, not_lt, not_le] at hmisses
  rcases hmisses with hmu | hdisc
  · nlinarith [mul_nonneg (by linarith : (0 : ℝ) ≤ r) hmu]
  · rw [← sq_horizonDistance hs hr] at hdisc
    exact (abs_lt_of_sq_lt_sq' hdisc hrho0).1.le

/-- A ray that does not fall steeper than the ray to the horizon reaches the top after at least the
vertical way and at most the way over the horizon. -/
theorem distanceToTop_mem (hs : s.Proper) (hr : r ∈ Set.Icc s.bottom s.top) (hmu : mu ≤ 1)
    (hflat : -s.horizonDistance r ≤ r * mu) :
    s.distanceToTop r mu ∈ Set.Icc (s.top - r) (s.horizonDistance r + s.horizonLength) := by
  have hb := hs.bottom_pos
  have hr0 : 0 < r := hb.trans_le hr.1
  obtain ⟨hd, hreach, hup⟩ := distanceToTop_reaches hr0.le hr.2 mu
  have hrho := sq_horizonDistance hs hr.1
  have hlen := sq_horizonLength hs
  have hlen0 := horizonLength_pos hs
  set d := s.distanceToTop r mu
  constructor
  · have hsq : s.top ^ 2 ≤ (r + d) ^ 2 := by
      nlinarith [mul_nonneg (mul_nonneg hr0.le hd) (by linarith : 0 ≤ 1 - mu)]
    linarith [(abs_le_of_sq_le_sq' hsq (by linarith)).2]
  · have hsq : (d - s.horizonDistance r) ^ 2 ≤ s.horizonLength ^ 2 := by
      nlinarith [mul_nonneg hd (by linarith : 0 ≤ r * mu + s.horizonDistance r)]
    linarith [(abs_le_of_sq_le_sq' hsq hlen0.le).2]

/-- A ray that does not fall steeper than the ray to the horizon stays above the ground. -/
theorem bottom_le_radiusAlong (hs : s.Proper) (hr : s.bottom ≤ r)
    (hflat : -s.horizonDistance r ≤ r * mu) (hd : 0 ≤ d) : s.bottom ≤ radiusAlong r mu d := by
  have hrho := sq_horizonDistance hs hr
  rw [radiusAlong_real]
  refine Real.le_sqrt_of_sq_le ?_
  nlinarith [mul_nonneg hd (by linarith : 0 ≤ r * mu + s.horizonDistance r),
    sq_nonneg (s.horizonDistance r - d)]

end Shell

end Airlight
