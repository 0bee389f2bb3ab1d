import Airlight.Proofs.Sphere

/-!
# The coordinates of single ray parameters

Each ray parameter has a map to its coordinate and one back. Over the real numbers the maps of the
view cosine and of the sun cosine pass through a distance, and a cosine belongs to a distance
exactly when the point at that distance lies on the sphere in question.

## Main definitions

* `Shell.groundCosine`, `Shell.skyCosine` — the view cosine of the ray that reaches the ground or
  the top at a given distance.
* `LitShell.Proper` — a proper shell whose sun limit is a cosine below one.
-/

namespace Airlight

open Scalar Texture

variable {r mu d u uR half size : ℝ}

/-- The fraction of the way from one limit to another at which a number between them lies. -/
theorem fraction_mem {lo hi x : ℝ} (hx : x ∈ Set.Icc lo hi) :
    (x - lo) / (hi - lo) ∈ Set.Icc (0 : ℝ) 1 := by
  have hspan : 0 ≤ hi - lo := sub_nonneg.mpr (hx.1.trans hx.2)
  exact ⟨div_nonneg (by linarith [hx.1]) hspan, div_le_one_of_le₀ (by linarith [hx.2]) hspan⟩

theorem of_fraction {lo hi x : ℝ} (hx : x ∈ Set.Icc lo hi) :
    lo + (hi - lo) * ((x - lo) / (hi - lo)) = x := by
  rcases eq_or_ne (hi - lo) 0 with hspan | hspan
  · have : x = lo := le_antisymm (by linarith [hx.2]) hx.1
    rw [hspan, zero_mul, add_zero, this]
  · rw [mul_div_cancel₀ _ hspan, add_sub_cancel]

theorem between_of_fraction {lo hi t : ℝ} (h : lo ≤ hi) (ht : t ∈ Set.Icc (0 : ℝ) 1) :
    lo + (hi - lo) * t ∈ Set.Icc lo hi := by
  have hspan : 0 ≤ hi - lo := sub_nonneg.mpr h
  have hfirst := mul_nonneg hspan ht.1
  have hrest := mul_le_of_le_one_right hspan ht.2
  exact ⟨by linarith, by linarith⟩

namespace Shell

variable {s : Shell ℝ}

/-! ## Radii -/

theorem clampRadius_eq_self (hr : r ∈ Set.Icc s.bottom s.top) : s.clampRadius r = r :=
  clamp_eq_self hr.1 hr.2

theorem clampRadius_mem (hs : s.Proper) (r : ℝ) : s.clampRadius r ∈ Set.Icc s.bottom s.top :=
  ⟨le_clamp r hs.bottom_lt_top.le, clamp_le r s.bottom s.top⟩

theorem radiusCoord_real (s : Shell ℝ) (size r : ℝ) :
    s.radiusCoord size r = coordOfUnit (s.horizonDistance r / s.horizonLength) size := rfl

/-- The coordinate of a radius gives the radius back, with its distance to the horizon. -/
theorem radiusAt_eq (hs : s.Proper) (hr : r ∈ Set.Icc s.bottom s.top)
    (hu : s.horizonLength * unitOfCoord u size = s.horizonDistance r) :
    s.radiusAt size u = (r, s.horizonDistance r) := by
  have hr0 : 0 ≤ r := hs.bottom_pos.le.trans hr.1
  have hsq : s.horizonDistance r * s.horizonDistance r + s.bottom * s.bottom = r ^ 2 := by
    linear_combination sq_horizonDistance hs hr.1
  simp only [radiusAt, hu, sqrt_real]
  rw [hsq, Real.sqrt_sq hr0, clampRadius_eq_self hr]

/-- Every fraction of the way over the horizon to the top belongs to a radius. -/
theorem exists_horizonDistance_eq (hs : s.Proper) {x : ℝ} (hx : x ∈ Set.Icc (0 : ℝ) 1) :
    ∃ r ∈ Set.Icc s.bottom s.top, s.horizonDistance r = s.horizonLength * x := by
  have hb := hs.bottom_pos
  have hH := (horizonLength_pos hs).le
  have hsq := sq_horizonLength hs
  have hrho : 0 ≤ s.horizonLength * x := mul_nonneg hH hx.1
  have hle : s.horizonLength * x ≤ s.horizonLength := mul_le_of_le_one_right hH hx.2
  refine ⟨√((s.horizonLength * x) ^ 2 + s.bottom ^ 2), ⟨?_, ?_⟩, ?_⟩
  · exact Real.le_sqrt_of_sq_le (by nlinarith)
  · exact Real.sqrt_le_iff.mpr ⟨hs.top_pos.le, by nlinarith⟩
  · rw [horizonDistance_real, Real.sq_sqrt (by positivity), add_sub_cancel_right,
      Real.sqrt_sq hrho]

/-! ## View cosines -/

/-- The view cosine that belongs to a distance to the ground. -/
noncomputable def groundCosine (s : Shell ℝ) (r d : ℝ) : ℝ :=
  if d = 0 then -1 else -(s.horizonDistance r * s.horizonDistance r + d * d) / (2 * r * d)

/-- The view cosine that belongs to a distance to the top. -/
noncomputable def skyCosine (s : Shell ℝ) (r d : ℝ) : ℝ :=
  if d = 0 then 1 else
    (s.horizonLength * s.horizonLength - s.horizonDistance r * s.horizonDistance r - d * d) /
      (2 * r * d)

@[simp] theorem groundCosine_zero (s : Shell ℝ) (r : ℝ) : s.groundCosine r 0 = -1 := if_pos rfl

@[simp] theorem skyCosine_zero (s : Shell ℝ) (r : ℝ) : s.skyCosine r 0 = 1 := if_pos rfl

/-- The cosine computed from a distance is the one under which the ray reaches the ground there. -/
theorem groundCosine_eq_iff (hs : s.Proper) (hr : s.bottom ≤ r) (hd : d ≠ 0) :
    s.groundCosine r d = mu ↔ r ^ 2 + 2 * r * mu * d + d ^ 2 = s.bottom ^ 2 := by
  have hr0 : r ≠ 0 := (hs.bottom_pos.trans_le hr).ne'
  have hsq := sq_horizonDistance hs hr
  rw [groundCosine, if_neg hd, div_eq_iff (by positivity)]
  constructor
  · intro h
    linear_combination -h - hsq
  · intro h
    linear_combination -h - hsq

/-- The cosine computed from a distance is the one under which the ray reaches the top there. -/
theorem skyCosine_eq_iff (hs : s.Proper) (hr : s.bottom ≤ r) (hd : d ≠ 0) :
    s.skyCosine r d = mu ↔ r ^ 2 + 2 * r * mu * d + d ^ 2 = s.top ^ 2 := by
  have hr0 : r ≠ 0 := (hs.bottom_pos.trans_le hr).ne'
  have hsq := sq_horizonDistance hs hr
  have hlen := sq_horizonLength hs
  rw [skyCosine, if_neg hd, div_eq_iff (by positivity)]
  constructor
  · intro h
    linear_combination -h + hlen - hsq
  · intro h
    linear_combination -h + hlen - hsq

/-- For rays that meet the ground the coordinate follows the distance to the ground. -/
theorem viewCoord_ground (hs : s.Proper) (hr : s.bottom ≤ r) (hmeets : s.meetsGround r mu = true) :
    s.viewCoord half r mu true = 1 / 2 - 1 / 2 * coordOfUnit
      ((s.distanceToBottom r mu - (r - s.bottom)) / (s.horizonDistance r - (r - s.bottom)))
      half := by
  have hdisc : r * mu * (r * mu) - r * r + s.bottom * s.bottom =
      (-(r * mu)) ^ 2 + (s.bottom ^ 2 - r ^ 2) := by ring
  unfold viewCoord
  simp only [if_true, safeSqrt_real]
  rw [hdisc, ← distanceToBottom_eq_sub_sqrt hs hr hmeets]
  split_ifs with hspan
  · norm_num
  · -- at the ground itself all distances are zero, and so is the quotient
    have hzero : s.horizonDistance r - (r - s.bottom) = 0 := by
      have := altitude_le_horizonDistance hs hr
      norm_num at hspan
      linarith
    rw [hzero]
    norm_num

/-- For rays that miss the ground the coordinate follows the distance to the top. -/
theorem viewCoord_sky (hs : s.Proper) (hr : r ∈ Set.Icc s.bottom s.top) :
    s.viewCoord half r mu false = 1 / 2 + 1 / 2 * coordOfUnit
      ((s.distanceToTop r mu - (s.top - r)) /
        (s.horizonDistance r + s.horizonLength - (s.top - r))) half := by
  have hdisc : r * mu * (r * mu) - r * r + s.bottom * s.bottom + s.horizonLength * s.horizonLength =
      (-(r * mu)) ^ 2 + (s.top ^ 2 - r ^ 2) := by
    linear_combination sq_horizonLength hs
  unfold viewCoord
  simp only [Bool.false_eq_true, if_false, safeSqrt_real]
  rw [hdisc, ← distanceToTop_eq_add_sqrt (hs.bottom_pos.le.trans hr.1) hr.2]
  norm_num

/-- In the lower half of the coordinates the distance runs from the altitude to the horizon. -/
theorem viewDistanceAt_ground (hrad : s.radiusAt size uR = (r, s.horizonDistance r))
    (hu : u < 1 / 2) :
    s.viewDistanceAt half size u uR = r - s.bottom +
      (s.horizonDistance r - (r - s.bottom)) * unitOfCoord (1 - 2 * u) half := by
  unfold viewDistanceAt
  rw [hrad]
  norm_num [hu]

/-- In the upper half of the coordinates the distance runs from the vertical way to the top to the
way over the horizon. -/
theorem viewDistanceAt_sky (hrad : s.radiusAt size uR = (r, s.horizonDistance r))
    (hu : 1 / 2 ≤ u) :
    s.viewDistanceAt half size u uR = s.top - r +
      (s.horizonDistance r + s.horizonLength - (s.top - r)) * unitOfCoord (2 * u - 1) half := by
  unfold viewDistanceAt
  rw [hrad]
  norm_num [hu.not_gt]

theorem viewCosineAt_ground (hrad : s.radiusAt size uR = (r, s.horizonDistance r))
    (hu : u < 1 / 2) (hd : s.viewDistanceAt half size u uR = d) :
    s.viewCosineAt half size u uR = clampCosine (s.groundCosine r d) := by
  unfold viewCosineAt groundCosine
  rw [hd, hrad]
  norm_num [hu]

theorem viewCosineAt_sky (hrad : s.radiusAt size uR = (r, s.horizonDistance r))
    (hu : 1 / 2 ≤ u) (hd : s.viewDistanceAt half size u uR = d) :
    s.viewCosineAt half size u uR = clampCosine (s.skyCosine r d) := by
  unfold viewCosineAt skyCosine
  rw [hd, hrad]
  norm_num [hu.not_gt]

end Shell

/-! ## Sun cosines -/

namespace LitShell

variable {s : LitShell ℝ} {m m' : ℝ}

/-- The shell is proper, and the sun limit is a cosine below one. -/
structure Proper (s : LitShell ℝ) : Prop where
  shell : s.toShell.Proper
  neg_one_le_muSMin : -1 ≤ s.muSMin
  muSMin_lt_one : s.muSMin < 1

/-- The distance from the ground to the top in the direction of the sun. -/
noncomputable abbrev sunDistance (s : LitShell ℝ) (m : ℝ) : ℝ := s.toShell.distanceToTop s.bottom m

theorem sunDistance_reaches (hs : s.Proper) (m : ℝ) :
    0 < s.sunDistance m ∧
      s.bottom ^ 2 + 2 * s.bottom * m * s.sunDistance m + s.sunDistance m ^ 2 = s.top ^ 2 := by
  have hb := hs.shell.bottom_pos
  have ht := hs.shell.bottom_lt_top
  obtain ⟨hd, hreach, -⟩ := Shell.distanceToTop_reaches hb.le ht.le m
  refine ⟨lt_of_le_of_ne hd fun hzero => ?_, hreach⟩
  rw [show s.toShell.distanceToTop s.bottom m = 0 from hzero.symm] at hreach
  nlinarith

/-- The higher the sun, the shorter the way of its light through the air. -/
theorem sunDistance_strictAnti (hs : s.Proper) : StrictAnti s.sunDistance := by
  intro m m' h
  have hb := hs.shell.bottom_pos
  have ht := hs.shell.bottom_lt_top
  obtain ⟨hd, hreach⟩ := sunDistance_reaches hs m
  obtain ⟨hd', hreach'⟩ := sunDistance_reaches hs m'
  by_contra hle
  have hgap : 0 < 2 * s.bottom * (m' - m) * (s.sunDistance m * s.sunDistance m') := by
    have := sub_pos.mpr h
    positivity
  have hfactor : 2 * s.bottom * (m' - m) * (s.sunDistance m * s.sunDistance m') =
      (s.sunDistance m - s.sunDistance m') *
        (s.top ^ 2 - s.bottom ^ 2 + s.sunDistance m * s.sunDistance m') := by
    linear_combination s.sunDistance m * hreach' - s.sunDistance m' * hreach
  have hpos : 0 < s.top ^ 2 - s.bottom ^ 2 + s.sunDistance m * s.sunDistance m' := by
    have := mul_pos hd hd'
    nlinarith
  rw [hfactor] at hgap
  have hle' : s.sunDistance m - s.sunDistance m' ≤ 0 := by linarith [not_lt.mp hle]
  exact absurd hgap (not_lt.mpr (mul_nonpos_of_nonpos_of_nonneg hle' hpos.le))

theorem sunDistance_one (hs : s.Proper) : s.sunDistance 1 = s.top - s.bottom := by
  have := hs.shell.bottom_pos
  have := hs.shell.bottom_lt_top
  exact Shell.distanceToTop_eq (by linarith) (by ring) (by linarith)

theorem sunFraction_real (s : LitShell ℝ) (m : ℝ) :
    s.sunFraction m = (s.sunDistance m - (s.top - s.bottom)) /
      (s.toShell.horizonLength - (s.top - s.bottom)) := rfl

theorem sunSpan_pos (hs : s.Proper) : 0 < s.toShell.horizonLength - (s.top - s.bottom) :=
  sub_pos.mpr (Shell.thickness_lt_horizonLength hs.shell)

theorem sunFraction_strictAnti (hs : s.Proper) : StrictAnti s.sunFraction := by
  intro m m' h
  simp only [sunFraction_real]
  have := sunDistance_strictAnti hs h
  exact div_lt_div_of_pos_right (by linarith) (sunSpan_pos hs)

theorem sunFraction_one (hs : s.Proper) : s.sunFraction 1 = 0 := by
  rw [sunFraction_real, sunDistance_one hs, sub_self, zero_div]

theorem sunFraction_nonneg (hs : s.Proper) (hm : m ≤ 1) : 0 ≤ s.sunFraction m := by
  rw [← sunFraction_one hs]
  exact (sunFraction_strictAnti hs).antitone hm

theorem sunFraction_muSMin_pos (hs : s.Proper) : 0 < s.sunFraction s.muSMin := by
  rw [← sunFraction_one hs]
  exact sunFraction_strictAnti hs hs.muSMin_lt_one

theorem sunDistance_eq (hs : s.Proper) (m : ℝ) :
    s.sunDistance m =
      s.top - s.bottom + s.sunFraction m * (s.toShell.horizonLength - (s.top - s.bottom)) := by
  rw [sunFraction_real, div_mul_cancel₀ _ (sunSpan_pos hs).ne']
  ring

/-- The value that is stored for a sun whose fraction is `a`, when the limit has fraction `A`. -/
theorem sunUnit_mem {a A : ℝ} (ha : 0 ≤ a) (haA : a ≤ A) (hA : 0 < A) :
    max (1 - a / A) 0 / (1 + a) ∈ Set.Icc (0 : ℝ) 1 := by
  have hle : a / A ≤ 1 := (div_le_one hA).mpr haA
  have hquot : 0 ≤ a / A := div_nonneg ha hA.le
  rw [max_eq_left (by linarith)]
  exact ⟨div_nonneg (by linarith) (by linarith), div_le_one_of_le₀ (by linarith) (by linarith)⟩

/-- The stored value gives the fraction back. -/
theorem fraction_of_sunUnit {a A : ℝ} (ha : 0 ≤ a) (haA : a ≤ A) (hA : 0 < A) {x : ℝ}
    (hx : x = max (1 - a / A) 0 / (1 + a)) : min ((A - x * A) / (1 + x * A)) A = a := by
  have hle : a / A ≤ 1 := (div_le_one hA).mpr haA
  rw [max_eq_left (by linarith)] at hx
  have hxA : x * A = (A - a) / (1 + a) := by
    rw [hx]
    field_simp
  have h1 : 1 + a ≠ 0 := by linarith
  have h2 : 1 + A ≠ 0 := by linarith
  have hback : (A - x * A) / (1 + x * A) = a := by
    have hden : 1 + (A - a) / (1 + a) = (1 + A) / (1 + a) := by
      field_simp
      ring
    rw [hxA, hden]
    field_simp
    ring
  rw [hback, min_eq_left haA]

/-- Stored values from 0 to 1 give fractions up to that of the limit. -/
theorem fraction_mem_of_unit {x A : ℝ} (hx : x ∈ Set.Icc (0 : ℝ) 1) (hA : 0 < A) :
    min ((A - x * A) / (1 + x * A)) A ∈ Set.Icc 0 A := by
  have hxA : 0 ≤ x * A := mul_nonneg hx.1 hA.le
  have hle : x * A ≤ A := mul_le_of_le_one_left hA.le hx.2
  exact ⟨le_min (div_nonneg (by linarith) (by linarith)) hA.le, min_le_right _ _⟩

theorem sunCoord_real (s : LitShell ℝ) (size m : ℝ) :
    s.sunCoord size m = coordOfUnit
      (max (1 - s.sunFraction m / s.sunFraction s.muSMin) 0 / (1 + s.sunFraction m)) size := by
  unfold sunCoord
  norm_num

/-- The sun cosine at a coordinate is that of a fraction of the way between the extreme
distances. -/
theorem sunCosineAt_real (s : LitShell ℝ) {x a : ℝ} (hx : unitOfCoord u size = x)
    (ha : min ((s.sunFraction s.muSMin - x * s.sunFraction s.muSMin) /
      (1 + x * s.sunFraction s.muSMin)) (s.sunFraction s.muSMin) = a)
    (hd : s.top - s.bottom + a * (s.toShell.horizonLength - (s.top - s.bottom)) = d) :
    s.sunCosineAt size u = clampCosine (s.toShell.skyCosine s.bottom d) := by
  unfold sunCosineAt Shell.skyCosine
  simp only [hx, Shell.horizonDistance_bottom]
  norm_num
  rw [ha, hd]

end LitShell

/-! ## Sizes -/

namespace Grid.Extents

variable (e : Extents)

@[simp] theorem scale_r : (e.scale : GridScale ℝ).r = e.rSize := rfl

@[simp] theorem scale_muS : (e.scale : GridScale ℝ).muS = e.muSSize := rfl

@[simp] theorem scale_halfMu : (e.scale : GridScale ℝ).halfMu = (e.muSize / 2 : ℕ) := rfl

@[simp] theorem scale_nuSteps : (e.scale : GridScale ℝ).nuSteps = (e.nuSize - 1 : ℕ) := rfl

/-- The view cosines are split evenly. -/
@[simp] theorem scale_mu : (e.scale : GridScale ℝ).mu = 2 * (e.muSize / 2 : ℕ) := by
  have h : e.muSize = 2 * (e.muSize / 2) := by have := e.even_muSize; omega
  exact (congrArg Nat.cast h).trans (by push_cast; rfl)

theorem one_lt_rSize : (1 : ℝ) < e.rSize := by
  have := e.two_le_rSize
  exact_mod_cast (by omega : 1 < e.rSize)

theorem one_lt_muSSize : (1 : ℝ) < e.muSSize := by
  have := e.two_le_muSSize
  exact_mod_cast (by omega : 1 < e.muSSize)

theorem one_lt_halfMu : (1 : ℝ) < (e.muSize / 2 : ℕ) := by
  have := e.four_le_muSize
  exact_mod_cast (by omega : 1 < e.muSize / 2)

end Grid.Extents

end Airlight
