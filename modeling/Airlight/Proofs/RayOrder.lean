import Airlight.Proofs.CentreCoordinates
import Airlight.Proofs.FirstExit

/-!
# Rays in the order of the grid

Along each axis of the grid one parameter of the rays runs through its range without ever turning
back. The voxel fixes a distance, which is linear in its index, and the parameter falls or rises
strictly with that distance: the radius with the distance to the horizon, the view cosine with the
distance to the boundary, the sun cosine with the distance to the top in the direction of the sun.

## Main definitions

* `Grid.RaysOrdered` — what it means that rays are in the order of the grid.
-/

namespace Airlight

open Scalar Texture

namespace Shell

variable {s : Shell ℝ} {r mu mu' d : ℝ}

/-- The higher a point, the farther is its horizon. -/
theorem strictMonoOn_horizonDistance (hs : s.Proper) :
    StrictMonoOn s.horizonDistance (Set.Ici s.bottom) := by
  intro r hr r' hr' h
  have hb := hs.bottom_pos
  refine lt_of_pow_lt_pow_left₀ 2 (horizonDistance_nonneg s r') ?_
  rw [sq_horizonDistance hs hr, sq_horizonDistance hs hr']
  have : s.bottom ≤ r := hr
  nlinarith

theorem horizonDistance_top (s : Shell ℝ) : s.horizonDistance s.top = s.horizonLength := by
  rw [horizonDistance_real, horizonLength_real]

/-- The cosine of the ray to the horizon. -/
noncomputable def horizonCosine (s : Shell ℝ) (r : ℝ) : ℝ := -√(r ^ 2 - s.bottom ^ 2) / r

theorem skyCosine_horizon (hs : s.Proper) (hr : s.bottom ≤ r) :
    s.skyCosine r (s.horizonDistance r + s.horizonLength) = s.horizonCosine r := by
  have hr0 : r ≠ 0 := (hs.bottom_pos.trans_le hr).ne'
  have hpos : 0 < s.horizonDistance r + s.horizonLength :=
    add_pos_of_nonneg_of_pos (horizonDistance_nonneg s r) (horizonLength_pos hs)
  rw [skyCosine_eq_iff hs hr hpos.ne', horizonCosine, ← horizonDistance_real]
  have hcancel : r * (-s.horizonDistance r / r) = -s.horizonDistance r := mul_div_cancel₀ _ hr0
  linear_combination 2 * (s.horizonDistance r + s.horizonLength) * hcancel -
    sq_horizonDistance hs hr + sq_horizonLength hs

theorem groundCosine_horizon (hs : s.Proper) (hr : s.bottom < r) :
    s.groundCosine r (s.horizonDistance r) = s.horizonCosine r := by
  have hr0 : r ≠ 0 := (hs.bottom_pos.trans hr).ne'
  have hpos : 0 < s.horizonDistance r :=
    (sub_pos.mpr hr).trans (altitude_lt_horizonDistance hs hr)
  rw [groundCosine_eq_iff hs hr.le hpos.ne', horizonCosine, ← horizonDistance_real]
  have hcancel : r * (-s.horizonDistance r / r) = -s.horizonDistance r := mul_div_cancel₀ _ hr0
  linear_combination 2 * s.horizonDistance r * hcancel - sq_horizonDistance hs hr.le

/-- The vertical way to the top belongs to the zenith. -/
theorem skyCosine_zenith (hs : s.Proper) (hr : s.bottom ≤ r) : s.skyCosine r (s.top - r) = 1 := by
  rcases eq_or_ne (s.top - r) 0 with hzero | hne
  · rw [hzero, skyCosine_zero]
  · rw [skyCosine_eq_iff hs hr hne]
    ring

/-- The vertical way to the ground belongs to the nadir. -/
theorem groundCosine_nadir (hs : s.Proper) (hr : s.bottom ≤ r) :
    s.groundCosine r (r - s.bottom) = -1 := by
  rcases eq_or_ne (r - s.bottom) 0 with hzero | hne
  · rw [hzero, groundCosine_zero]
  · rw [groundCosine_eq_iff hs hr hne]
    ring

end Shell

/-- The fraction that belongs to a stored value falls strictly with it. -/
theorem LitShell.sunFraction_lt_of_unit {x x' A : ℝ} (hx : 0 ≤ x) (h : x < x') (hA : 0 < A) :
    min ((A - x' * A) / (1 + x' * A)) A < min ((A - x * A) / (1 + x * A)) A := by
  have hxA : 0 ≤ x * A := mul_nonneg hx hA.le
  have hlt : x * A < x' * A := mul_lt_mul_of_pos_right h hA
  have hle : ∀ y : ℝ, 0 ≤ y → (A - y) / (1 + y) ≤ A := by
    intro y hy
    rw [div_le_iff₀ (by linarith)]
    nlinarith [mul_nonneg hA.le hy]
  rw [min_eq_left (hle _ (hxA.trans hlt.le)), min_eq_left (hle _ hxA),
    div_lt_div_iff₀ (by linarith) (by linarith)]
  nlinarith

namespace Grid

theorem monotone_limitNu (mu muS : ℝ) : Monotone (limitNu mu muS) := by
  intro nu nu' h
  simp only [limitNu, clamp_real]
  gcongr

namespace GridScale

variable {e : Extents} {v w : Voxel} {s : LitShell ℝ}

/-! ## Fractions of the indices -/

theorem unit_uR (e : Extents) (v : Voxel) :
    unitOfCoord (e.scale.centre v : Coords ℝ).uR (e.rSize : ℝ) = v.z / (e.rSize - 1) := by
  rw [centre_uR, unitOfCoord_centre e.one_lt_rSize]

/-- The rows of the lower half are counted downwards from the horizon. -/
theorem unit_ground (e : Extents) (v : Voxel) :
    unitOfCoord (1 - 2 * (e.scale.centre v : Coords ℝ).uMu) ((e.muSize / 2 : ℕ) : ℝ) =
      ((e.muSize / 2 : ℕ) - 1 - v.y) / ((e.muSize / 2 : ℕ) - 1) := by
  have hhalf := e.one_lt_halfMu
  rw [centre_uMu, ← unitOfCoord_centre hhalf]
  congr 1
  field_simp
  ring

/-- The rows of the upper half are counted upwards from the horizon. -/
theorem unit_sky (e : Extents) (v : Voxel) :
    unitOfCoord (2 * (e.scale.centre v : Coords ℝ).uMu - 1) ((e.muSize / 2 : ℕ) : ℝ) =
      (v.y - (e.muSize / 2 : ℕ)) / ((e.muSize / 2 : ℕ) - 1) := by
  have hhalf := e.one_lt_halfMu
  rw [centre_uMu, ← unitOfCoord_centre hhalf]
  congr 1
  field_simp
  ring

/-- The columns of the sun cosine repeat along the width. -/
theorem unit_uMuS (hx : 0 ≤ v.x) :
    unitOfCoord (e.scale.centre v : Coords ℝ).uMuS (e.muSSize : ℝ) =
      (v.x % e.muSSize : ℤ) / (e.muSSize - 1) := by
  have hpos : 0 < e.muSSize := by have := e.two_le_muSSize; omega
  rw [centre_uMuS]
  lift v.x to ℕ using hx with k
  rw [Int.cast_natCast, floorMod_centre hpos, unitOfCoord_centre e.one_lt_muSSize,
    ← Int.natCast_emod, Int.cast_natCast]

theorem centre_uNu (hx : 0 ≤ v.x) :
    (e.scale.centre v : Coords ℝ).uNu = (v.x / e.muSSize : ℤ) / (e.nuSize - 1) := by
  have hpos : 0 < e.muSSize := by have := e.two_le_muSSize; omega
  have hnu : ((e.nuSize - 1 : ℕ) : ℝ) = e.nuSize - 1 := by
    rw [Nat.cast_sub (by have := e.two_le_nuSize; omega), Nat.cast_one]
  have hcentre : (e.scale.centre v : Coords ℝ).uNu =
      (⌊((v.x : ℝ) + 1 / 2) / e.muSSize⌋ : ℝ) / (e.nuSize - 1 : ℕ) := by
    norm_num [centre]
  rw [hcentre, hnu]
  lift v.x to ℕ using hx with k
  rw [Int.cast_natCast, floor_centre hpos, Int.natCast_ediv]

/-! ## Radii -/

/-- The distance of the ray's horizon is linear in the slice. -/
theorem rayAt_r_spec (hv : e.shape.contains v = true) (hs : s.Proper) :
    let r := (e.scale.rayAt s v).1.r
    r ∈ Set.Icc s.bottom s.top ∧
      s.toShell.radiusAt e.rSize (e.scale.centre v).uR = (r, s.toShell.horizonDistance r) ∧
      s.toShell.horizonDistance r = s.toShell.horizonLength * (v.z / (e.rSize - 1)) := by
  obtain ⟨r, hr, hrad, -⟩ := Shell.exists_radiusAt hs.shell (unit_uR_mem hv)
  have hrho : s.toShell.horizonLength * unitOfCoord (e.scale.centre v : Coords ℝ).uR (e.rSize : ℝ) =
      s.toShell.horizonDistance r := congrArg Prod.snd hrad
  rw [unit_uR] at hrho
  simp only [rayAt_r, Extents.scale_r, hrad]
  exact ⟨hr, trivial, hrho.symm⟩

/-- A slice has one radius. -/
theorem rayAt_r_congr (hz : v.z = w.z) :
    (e.scale.rayAt s v).1.r = (e.scale.rayAt s w).1.r := by
  simp only [rayAt_r, centre_uR, hz]

variable (hs : s.Proper)

include hs

theorem rayAt_r_lt (hv : e.shape.contains v = true) (hw : e.shape.contains w = true)
    (hz : v.z < w.z) : (e.scale.rayAt s v).1.r < (e.scale.rayAt s w).1.r := by
  obtain ⟨hr, -, hrho⟩ := rayAt_r_spec hv hs
  obtain ⟨hr', -, hrho'⟩ := rayAt_r_spec hw hs
  rw [← (Shell.strictMonoOn_horizonDistance hs.shell).lt_iff_lt hr.1 hr'.1, hrho, hrho']
  have hsteps : (0 : ℝ) < e.rSize - 1 := sub_pos.mpr e.one_lt_rSize
  have hz' : (v.z : ℝ) < w.z := Int.cast_lt.mpr hz
  exact mul_lt_mul_of_pos_left (div_lt_div_of_pos_right hz' hsteps)
    (Shell.horizonLength_pos hs.shell)

/-- A slice whose horizon has the distance of that of a given radius has this radius. -/
theorem rayAt_r_eq (hv : e.shape.contains v = true) {r : ℝ} (hr : s.bottom ≤ r)
    (hrho : s.toShell.horizonDistance r = s.toShell.horizonLength * (v.z / (e.rSize - 1))) :
    (e.scale.rayAt s v).1.r = r := by
  obtain ⟨hr', -, hrho'⟩ := rayAt_r_spec hv hs
  exact (Shell.strictMonoOn_horizonDistance hs.shell).injOn hr'.1 hr (hrho'.trans hrho.symm)

theorem rayAt_r_first (hv : e.shape.contains v = true) (hz : v.z = 0) :
    (e.scale.rayAt s v).1.r = s.bottom := by
  refine rayAt_r_eq hs hv le_rfl ?_
  rw [Shell.horizonDistance_bottom, hz, Int.cast_zero, zero_div, mul_zero]

theorem rayAt_above_ground (hv : e.shape.contains v = true) (hz : 0 < v.z) :
    s.bottom < (e.scale.rayAt s v).1.r := by
  obtain ⟨r, hr, hrad⟩ := exists_radiusAt_above hv hs hz.ne'
  rw [rayAt_r, Extents.scale_r, hrad]
  exact hr.1

theorem rayAt_r_last (hv : e.shape.contains v = true) (hz : v.z = e.rSize - 1) :
    (e.scale.rayAt s v).1.r = s.top := by
  have hsteps : (e.rSize : ℝ) - 1 ≠ 0 := (sub_pos.mpr e.one_lt_rSize).ne'
  refine rayAt_r_eq hs hv hs.shell.bottom_lt_top.le ?_
  rw [Shell.horizonDistance_top, hz]
  push_cast
  rw [div_self hsteps, mul_one]

/-! ## View cosines -/

/-- In the upper half the way to the top gets longer with the row, and the view cosine belongs to
it. -/
theorem rayAt_sky_distance (hv : e.shape.contains v = true)
    (hhigh : (e.muSize / 2 : ℕ) ≤ v.y) :
    let ray := (e.scale.rayAt s v).1
    let d := s.toShell.distanceToTop ray.r ray.mu
    d = s.top - ray.r + (s.toShell.horizonDistance ray.r + s.toShell.horizonLength -
        (s.top - ray.r)) * ((v.y - (e.muSize / 2 : ℕ)) / ((e.muSize / 2 : ℕ) - 1)) ∧
      ray.mu = s.toShell.skyCosine ray.r d := by
  intro ray d
  obtain ⟨hr, hrad, -⟩ := rayAt_r_spec hv hs
  obtain ⟨-, hmu, hflat, hdist⟩ := rayAt_sky_spec hv hs hhigh
  have hrow : 1 / 2 ≤ (e.scale.centre v : Coords ℝ).uMu :=
    not_lt.mp fun h => absurd (uMu_lt_half_iff.mp h) (not_lt.mpr hhigh)
  obtain ⟨hcosine, -⟩ := Shell.skyCosine_spec hs.shell hr
    (Shell.distanceToTop_mem hs.shell hr hmu.2 hflat)
  refine ⟨?_, ?_⟩
  · rw [← unit_sky, ← Shell.viewDistanceAt_sky hrad hrow]
    exact hdist
  · exact (Shell.viewCosineAt_sky hrad hrow hdist.symm).trans
      (clampCosine_eq_self hcosine.1 hcosine.2)

/-- In the lower half the way to the ground gets shorter with the row, and the view cosine belongs
to it. -/
theorem rayAt_ground_distance (hv : e.shape.contains v = true)
    (hlow : v.y < (e.muSize / 2 : ℕ)) :
    let ray := (e.scale.rayAt s v).1
    let d := s.toShell.distanceToBottom ray.r ray.mu
    d = ray.r - s.bottom + (s.toShell.horizonDistance ray.r - (ray.r - s.bottom)) *
        (((e.muSize / 2 : ℕ) - 1 - v.y) / ((e.muSize / 2 : ℕ) - 1)) ∧
      ray.mu = s.toShell.groundCosine ray.r d := by
  intro ray d
  obtain ⟨hr, hrad, -⟩ := rayAt_r_spec hv hs
  obtain ⟨-, hmu, hmeets, hdist, -⟩ := rayAt_ground_spec hv hs hlow
  have hrow := uMu_lt_half_iff.mpr hlow
  obtain ⟨hcosine, -⟩ := Shell.groundCosine_spec hs.shell hr.1
    (Shell.distanceToBottom_mem hs.shell hr.1 hmu.1 hmeets)
  refine ⟨?_, ?_⟩
  · rw [← unit_ground, ← Shell.viewDistanceAt_ground hrad hrow]
    exact hdist
  · exact (Shell.viewCosineAt_ground hrad hrow hdist.symm).trans
      (clampCosine_eq_self hcosine.1 hcosine.2)

theorem rayAt_sky_lt (hv : e.shape.contains v = true) (hw : e.shape.contains w = true)
    (hz : v.z = w.z) (hhigh : (e.muSize / 2 : ℕ) ≤ v.y) (hy : v.y < w.y) :
    (e.scale.rayAt s w).1.mu < (e.scale.rayAt s v).1.mu := by
  obtain ⟨hr, -⟩ := rayAt_r_spec hw hs
  obtain ⟨hd, -⟩ := rayAt_sky_distance hs hv hhigh
  obtain ⟨hd', -⟩ := rayAt_sky_distance hs hw (hhigh.trans hy.le)
  rw [rayAt_r_congr hz] at hd
  have hr0 : 0 ≤ (e.scale.rayAt s w).1.r := hs.shell.bottom_pos.le.trans hr.1
  have hlonger : s.toShell.distanceToTop (e.scale.rayAt s w).1.r (e.scale.rayAt s v).1.mu <
      s.toShell.distanceToTop (e.scale.rayAt s w).1.r (e.scale.rayAt s w).1.mu := by
    have hsteps : (0 : ℝ) < (e.muSize / 2 : ℕ) - 1 := sub_pos.mpr e.one_lt_halfMu
    have hspan := Shell.thickness_lt_horizonLength hs.shell
    have hrho := Shell.horizonDistance_nonneg s.toShell (e.scale.rayAt s w).1.r
    have hy' : (v.y : ℝ) < w.y := Int.cast_lt.mpr hy
    rw [hd, hd']
    gcongr
    linarith [hr.1]
  by_contra! hle
  exact absurd hlonger (not_lt.mpr (Shell.antitone_distanceToTop hr0 hr.2 hle))

theorem rayAt_ground_lt (hv : e.shape.contains v = true) (hw : e.shape.contains w = true)
    (hz : v.z = w.z) (hpos : 0 < w.z) (hlow : w.y < (e.muSize / 2 : ℕ)) (hy : v.y < w.y) :
    (e.scale.rayAt s w).1.mu < (e.scale.rayAt s v).1.mu := by
  obtain ⟨hr, -⟩ := rayAt_r_spec hw hs
  obtain ⟨hd, -⟩ := rayAt_ground_distance hs hv (hy.trans hlow)
  obtain ⟨hd', -⟩ := rayAt_ground_distance hs hw hlow
  obtain ⟨-, -, hmeets, -⟩ := rayAt_ground_spec hv hs (hy.trans hlow)
  obtain ⟨-, -, hmeets', -⟩ := rayAt_ground_spec hw hs hlow
  rw [rayAt_r_congr hz] at hd hmeets
  have hshorter : s.toShell.distanceToBottom (e.scale.rayAt s w).1.r (e.scale.rayAt s w).1.mu <
      s.toShell.distanceToBottom (e.scale.rayAt s w).1.r (e.scale.rayAt s v).1.mu := by
    have hsteps : (0 : ℝ) < (e.muSize / 2 : ℕ) - 1 := sub_pos.mpr e.one_lt_halfMu
    have hspan := Shell.altitude_lt_horizonDistance hs.shell
      (rayAt_above_ground hs hw hpos)
    have hy' : (v.y : ℝ) < w.y := Int.cast_lt.mpr hy
    rw [hd, hd']
    gcongr
  by_contra! hle
  exact absurd hshorter (not_lt.mpr (Shell.distanceToBottom_le hs.shell hr.1 hmeets hmeets' hle))

/-- The first row of the upper half looks at the zenith. -/
theorem rayAt_sky_first (hv : e.shape.contains v = true) (hy : v.y = (e.muSize / 2 : ℕ)) :
    (e.scale.rayAt s v).1.mu = 1 := by
  obtain ⟨hr, -⟩ := rayAt_r_spec hv hs
  obtain ⟨hd, hmu⟩ := rayAt_sky_distance hs hv hy.ge
  rw [hy, Int.cast_natCast, sub_self, zero_div, mul_zero, add_zero] at hd
  rw [hmu, hd, Shell.skyCosine_zenith hs.shell hr.1]

/-- The last row of the upper half looks at the horizon. -/
theorem rayAt_sky_last (hv : e.shape.contains v = true) (hy : v.y = e.muSize - 1) :
    (e.scale.rayAt s v).1.mu = s.toShell.horizonCosine (e.scale.rayAt s v).1.r := by
  obtain ⟨hr, -⟩ := rayAt_r_spec hv hs
  have hsteps : ((e.muSize / 2 : ℕ) : ℝ) - 1 ≠ 0 := (sub_pos.mpr e.one_lt_halfMu).ne'
  have heven := e.even_muSize
  have hfour := e.four_le_muSize
  have hrows : v.y = (e.muSize / 2 : ℕ) + (((e.muSize / 2 : ℕ) : ℤ) - 1) := by omega
  obtain ⟨hd, hmu⟩ := rayAt_sky_distance hs hv (by omega)
  rw [hrows] at hd
  simp only [Int.cast_add, Int.cast_sub, Int.cast_natCast, Int.cast_one] at hd
  rw [add_sub_cancel_left, div_self hsteps, mul_one, add_sub_cancel] at hd
  rw [hmu, hd, Shell.skyCosine_horizon hs.shell hr.1]

/-- Above the ground the first row of the lower half looks at the horizon. -/
theorem rayAt_ground_first (hv : e.shape.contains v = true) (hpos : 0 < v.z) (hy : v.y = 0) :
    (e.scale.rayAt s v).1.mu = s.toShell.horizonCosine (e.scale.rayAt s v).1.r := by
  have hsteps : ((e.muSize / 2 : ℕ) : ℝ) - 1 ≠ 0 := (sub_pos.mpr e.one_lt_halfMu).ne'
  have hfour := e.four_le_muSize
  obtain ⟨hd, hmu⟩ := rayAt_ground_distance hs hv (by omega)
  rw [hy, Int.cast_zero, sub_zero, div_self hsteps, mul_one, add_sub_cancel] at hd
  rw [hmu, hd, Shell.groundCosine_horizon hs.shell (rayAt_above_ground hs hv hpos)]

/-- The last row of the lower half looks at the nadir. -/
theorem rayAt_ground_last (hv : e.shape.contains v = true)
    (hy : v.y = ((e.muSize / 2 : ℕ) : ℤ) - 1) : (e.scale.rayAt s v).1.mu = -1 := by
  obtain ⟨hr, -⟩ := rayAt_r_spec hv hs
  obtain ⟨hd, hmu⟩ := rayAt_ground_distance hs hv (by omega)
  rw [hy, Int.cast_sub, Int.cast_natCast, Int.cast_one, sub_self, zero_div, mul_zero,
    add_zero] at hd
  rw [hmu, hd, Shell.groundCosine_nadir hs.shell hr.1]

/-! ## Sun cosines -/

/-- The fraction of the sun cosine is that of the stored column. -/
theorem sunFraction_rayAt (hv : e.shape.contains v = true) :
    let x : ℝ := (v.x % e.muSSize : ℤ) / (e.muSSize - 1)
    let limit := s.sunFraction s.muSMin
    s.sunFraction (e.scale.rayAt s v).1.muS =
      min ((limit - x * limit) / (1 + x * limit)) limit := by
  obtain ⟨⟨hx, -⟩, -⟩ := contains_iff.mp hv
  have h := (LitShell.sunCosineAt_spec hs (unit_uMuS_mem hv)).2
  rw [unit_uMuS hx] at h
  exact h

theorem rayAt_muS_lt (hv : e.shape.contains v = true) (hw : e.shape.contains w = true)
    (hx : v.x % e.muSSize < w.x % e.muSSize) :
    (e.scale.rayAt s v).1.muS < (e.scale.rayAt s w).1.muS := by
  have hsteps : (0 : ℝ) < e.muSSize - 1 := sub_pos.mpr e.one_lt_muSSize
  have hcolumn : ((v.x % e.muSSize : ℤ) : ℝ) < (w.x % e.muSSize : ℤ) := Int.cast_lt.mpr hx
  have hfirst : (0 : ℝ) ≤ (v.x % e.muSSize : ℤ) := by
    have := e.two_le_muSSize
    exact Int.cast_nonneg (Int.emod_nonneg _ (by omega))
  rw [← (LitShell.sunFraction_strictAnti hs).lt_iff_gt, sunFraction_rayAt hs hv,
    sunFraction_rayAt hs hw]
  exact LitShell.sunFraction_lt_of_unit (div_nonneg hfirst hsteps.le)
    (div_lt_div_of_pos_right hcolumn hsteps) (LitShell.sunFraction_muSMin_pos hs)

theorem rayAt_muS_first (hv : e.shape.contains v = true) (hx : v.x % e.muSSize = 0) :
    (e.scale.rayAt s v).1.muS = s.muSMin := by
  refine (LitShell.sunFraction_strictAnti hs).injective ((sunFraction_rayAt hs hv).trans ?_)
  simp [hx]

theorem rayAt_muS_last (hv : e.shape.contains v = true) (hx : v.x % e.muSSize = e.muSSize - 1) :
    (e.scale.rayAt s v).1.muS = 1 := by
  have hsteps : (e.muSSize : ℝ) - 1 ≠ 0 := (sub_pos.mpr e.one_lt_muSSize).ne'
  refine (LitShell.sunFraction_strictAnti hs).injective ((sunFraction_rayAt hs hv).trans ?_)
  rw [hx, LitShell.sunFraction_one hs]
  push_cast
  rw [div_self hsteps, one_mul, sub_self, zero_div,
    min_eq_left (LitShell.sunFraction_muSMin_pos hs).le]

/-! ## Cosines between view and sun -/

omit hs in
/-- Before it is limited the cosine between view and sun is linear in its column. -/
theorem rayAt_nu_eq (hv : e.shape.contains v = true) :
    (e.scale.rayAt s v).1.nu = limitNu (e.scale.rayAt s v).1.mu (e.scale.rayAt s v).1.muS
      (2 * ((v.x / e.muSSize : ℤ) / (e.nuSize - 1)) - 1) := by
  obtain ⟨⟨hx, -⟩, -⟩ := contains_iff.mp hv
  rw [rayAt_nu, nuAt_eq (centre_uNu_mem hv), centre_uNu hx]

theorem rayAt_nu_le (hv : e.shape.contains v = true) (hw : e.shape.contains w = true)
    (hy : v.y = w.y) (hz : v.z = w.z) (hx : v.x % e.muSSize = w.x % e.muSSize)
    (hcolumn : v.x / e.muSSize ≤ w.x / e.muSSize) :
    (e.scale.rayAt s v).1.nu ≤ (e.scale.rayAt s w).1.nu := by
  have hsteps : (0 : ℝ) ≤ e.nuSize - 1 := by
    have : (1 : ℝ) ≤ e.nuSize := by exact_mod_cast (by have := e.two_le_nuSize; omega)
    linarith
  have hmu : (e.scale.rayAt s v).1.mu = (e.scale.rayAt s w).1.mu := by
    simp only [rayAt_mu, centre_uMu, centre_uR, hy, hz]
  have hmuS : (e.scale.rayAt s v).1.muS = (e.scale.rayAt s w).1.muS := by
    refine (LitShell.sunFraction_strictAnti hs).injective ?_
    rw [sunFraction_rayAt hs hv, sunFraction_rayAt hs hw, hx]
  have hcolumn' : ((v.x / e.muSSize : ℤ) : ℝ) ≤ (w.x / e.muSSize : ℤ) := Int.cast_le.mpr hcolumn
  rw [rayAt_nu_eq hv, rayAt_nu_eq hw, hmu, hmuS]
  exact monotone_limitNu _ _ (by linarith [div_le_div_of_nonneg_right hcolumn' hsteps])

end GridScale

/-! ## All axes -/

/-- Rays in the order of a grid: along each axis one parameter runs strictly from one end of its
range to the other. The view cosine falls in either half of the rows, and in the lower half only
above the ground, where rays of different directions fall. The cosine between view and sun is linear
before it is limited. -/
structure RaysOrdered (e : Extents) (s : LitShell ℝ) (ray : Voxel → Ray ℝ) : Prop where
  r_lt : ∀ v w, e.shape.contains v = true → e.shape.contains w = true → v.z < w.z →
    (ray v).r < (ray w).r
  r_first : ∀ v, e.shape.contains v = true → v.z = 0 → (ray v).r = s.bottom
  r_last : ∀ v, e.shape.contains v = true → v.z = e.rSize - 1 → (ray v).r = s.top
  sky_lt : ∀ v w, e.shape.contains v = true → e.shape.contains w = true → v.z = w.z →
    (e.muSize / 2 : ℕ) ≤ v.y → v.y < w.y → (ray w).mu < (ray v).mu
  sky_first : ∀ v, e.shape.contains v = true → v.y = (e.muSize / 2 : ℕ) → (ray v).mu = 1
  sky_last : ∀ v, e.shape.contains v = true → v.y = e.muSize - 1 →
    (ray v).mu = -√((ray v).r ^ 2 - s.bottom ^ 2) / (ray v).r
  ground_lt : ∀ v w, e.shape.contains v = true → e.shape.contains w = true → v.z = w.z →
    0 < w.z → w.y < (e.muSize / 2 : ℕ) → v.y < w.y → (ray w).mu < (ray v).mu
  ground_first : ∀ v, e.shape.contains v = true → 0 < v.z → v.y = 0 →
    (ray v).mu = -√((ray v).r ^ 2 - s.bottom ^ 2) / (ray v).r
  ground_last : ∀ v, e.shape.contains v = true → v.y = ((e.muSize / 2 : ℕ) : ℤ) - 1 →
    (ray v).mu = -1
  muS_lt : ∀ v w, e.shape.contains v = true → e.shape.contains w = true →
    v.x % e.muSSize < w.x % e.muSSize → (ray v).muS < (ray w).muS
  muS_first : ∀ v, e.shape.contains v = true → v.x % e.muSSize = 0 → (ray v).muS = s.muSMin
  muS_last : ∀ v, e.shape.contains v = true → v.x % e.muSSize = e.muSSize - 1 → (ray v).muS = 1
  nu_le : ∀ v w, e.shape.contains v = true → e.shape.contains w = true → v.y = w.y → v.z = w.z →
    v.x % e.muSSize = w.x % e.muSSize → v.x / e.muSSize ≤ w.x / e.muSSize →
      (ray v).nu ≤ (ray w).nu
  nu_eq : ∀ v, e.shape.contains v = true → (ray v).nu =
    limitNu (ray v).mu (ray v).muS (2 * ((v.x / e.muSSize : ℤ) / (e.nuSize - 1)) - 1)
  nu_first : ∀ v, e.shape.contains v = true → v.x / e.muSSize = 0 →
    (ray v).nu = limitNu (ray v).mu (ray v).muS (-1)
  nu_last : ∀ v, e.shape.contains v = true → v.x / e.muSSize = e.nuSize - 1 →
    (ray v).nu = limitNu (ray v).mu (ray v).muS 1

/-- The rays at the voxel centres of a proper shell are in the order of the grid. -/
theorem raysOrdered_rayAt (e : Extents) {s : LitShell ℝ} (hs : s.Proper) :
    RaysOrdered e s fun v => (e.scale.rayAt s v).1 where
  r_lt _ _ hv hw := GridScale.rayAt_r_lt hs hv hw
  r_first _ hv := GridScale.rayAt_r_first hs hv
  r_last _ hv := GridScale.rayAt_r_last hs hv
  sky_lt _ _ hv hw := GridScale.rayAt_sky_lt hs hv hw
  sky_first _ hv := GridScale.rayAt_sky_first hs hv
  sky_last _ hv := GridScale.rayAt_sky_last hs hv
  ground_lt _ _ hv hw := GridScale.rayAt_ground_lt hs hv hw
  ground_first _ hv := GridScale.rayAt_ground_first hs hv
  ground_last _ hv := GridScale.rayAt_ground_last hs hv
  muS_lt _ _ hv hw := GridScale.rayAt_muS_lt hs hv hw
  muS_first _ hv := GridScale.rayAt_muS_first hs hv
  muS_last _ hv := GridScale.rayAt_muS_last hs hv
  nu_le _ _ hv hw := GridScale.rayAt_nu_le hs hv hw
  nu_eq _ hv := GridScale.rayAt_nu_eq hv
  nu_first v hv hx := by
    rw [GridScale.rayAt_nu_eq hv, hx, Int.cast_zero, zero_div, mul_zero, zero_sub]
  nu_last v hv hx := by
    have hsteps : (e.nuSize : ℝ) - 1 ≠ 0 := by
      have := e.two_le_nuSize
      have : (1 : ℝ) < e.nuSize := by exact_mod_cast (by omega)
      exact (sub_pos.mpr this).ne'
    rw [GridScale.rayAt_nu_eq hv, hx]
    push_cast
    rw [div_self hsteps]
    norm_num

/-- In checked parameters the rays that the map of voxels gives are in the order of the grid. The
voxels of the lower half of the rows are those that count as hitting the ground. -/
theorem GridSizes.raysAt_ordered {p : Parameters ℝ} (hp : p.validate = .ok ()) (e : Extents) :
    ∃ ray : Voxel → Ray ℝ,
      (∀ voxels : Tensor Voxel, (ofExtents e).raysAt p.toLitShell voxels =
        .ok (voxels.map fun v => (ray v, decide (v.y < e.muSize / 2)))) ∧
      RaysOrdered e p.toLitShell ray := by
  refine ⟨_, fun voxels => ?_, raysOrdered_rayAt e (Parameters.proper_of_validate hp)⟩
  have hflag : ∀ v : Voxel, e.scale.rayAt p.toLitShell v =
      ((e.scale.rayAt p.toLitShell v).1, decide (v.y < e.muSize / 2)) := fun v =>
    Prod.ext rfl ((GridScale.rayAt_ground e.scale p.toLitShell v).trans
      (decide_eq_decide.mpr GridScale.uMu_lt_half_iff))
  simp only [raysAt, scale_ofExtents, ok_bind, pure_eq_ok, ← hflag]

/-- In a slice of the standard grid the rays of the sky fall from the zenith. -/
theorem GridSizes.raysAt_ordered_standard :
    ∃ ray : Voxel → Ray ℝ,
      (ofExtents .standard).raysAt (Parameters.earth : Parameters ℝ).toLitShell
          (.row [⟨0, 64, 3⟩, ⟨0, 65, 3⟩]) =
        .ok (.row [(ray ⟨0, 64, 3⟩, false), (ray ⟨0, 65, 3⟩, false)]) ∧
      (ray ⟨0, 64, 3⟩).mu = 1 ∧ (ray ⟨0, 65, 3⟩).mu < (ray ⟨0, 64, 3⟩).mu := by
  obtain ⟨ray, hrays, hordered⟩ := raysAt_ordered Parameters.validate_earth .standard
  refine ⟨ray, ?_, hordered.sky_first _ (by decide) (by decide),
    hordered.sky_lt _ _ (by decide) (by decide) rfl (by decide) (by decide)⟩
  rw [hrays, Tensor.map_row]
  rfl

end Grid

end Airlight
