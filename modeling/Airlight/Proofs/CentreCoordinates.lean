import Airlight.Proofs.GridRoundTrip
import Airlight.Proofs.VoxelRays

/-!
# Coordinates of the rays at voxel centres

Over the real numbers the ray at a voxel centre has the coordinates of that centre. Only the rays
from the ground to the ground have no length, so all rows of the ground share one view cosine and
with it the coordinate of the row at the horizon; and the cosine between view and sun keeps its
coordinate as long as it need not be limited.
-/

namespace Airlight

open Scalar Texture Grid

namespace Shell

variable {s : Shell ℝ} {r u uR half size : ℝ}

/-- The radius at a coordinate has that coordinate. -/
theorem radiusCoord_radiusAt (hsize : 1 < size) (hs : s.Proper)
    (hrad : s.radiusAt size u = (r, s.horizonDistance r)) : s.radiusCoord size r = u := by
  have hrho : s.horizonLength * unitOfCoord u size = s.horizonDistance r := congrArg Prod.snd hrad
  rw [radiusCoord_real, ← hrho, mul_div_cancel_left₀ _ (horizonLength_pos hs).ne',
    coordOfUnit_unitOfCoord hsize]

/-- Above the ground the view cosine at a coordinate of the lower half has that coordinate. -/
theorem viewCoord_viewCosineAt_ground (hhalf : 1 < half) (hs : s.Proper)
    (hr : r ∈ Set.Ioc s.bottom s.top) (hrad : s.radiusAt size uR = (r, s.horizonDistance r))
    (hlt : u < 1 / 2) (hunit : unitOfCoord (1 - 2 * u) half ∈ Set.Icc (0 : ℝ) 1) :
    s.viewCoord half r (s.viewCosineAt half size u uR) true = u := by
  obtain ⟨-, hmeets, hdist, -⟩ :=
    viewCosineAt_ground_spec hs (Set.Ioc_subset_Icc_self hr) hrad hlt hunit
  have hspan : s.horizonDistance r - (r - s.bottom) ≠ 0 :=
    (sub_pos.mpr (altitude_lt_horizonDistance hs hr.1)).ne'
  rw [viewCoord_ground hs hr.1.le hmeets, hdist, viewDistanceAt_ground hrad hlt,
    add_sub_cancel_left, mul_div_cancel_left₀ _ hspan, coordOfUnit_unitOfCoord hhalf]
  ring

/-- On the ground all falling rays have the coordinate of the row at the horizon. -/
theorem viewCoord_bottom {mu : ℝ} (hs : s.Proper) (hmeets : s.meetsGround s.bottom mu = true) :
    s.viewCoord half s.bottom mu true = 1 / 2 - 1 / 2 * (1 / 2 / half) := by
  rw [viewCoord_ground hs le_rfl hmeets, horizonDistance_bottom, coordOfUnit_real]
  simp

/-- The view cosine at a coordinate of the upper half has that coordinate. -/
theorem viewCoord_viewCosineAt_sky (hhalf : 1 < half) (hs : s.Proper)
    (hr : r ∈ Set.Icc s.bottom s.top) (hrad : s.radiusAt size uR = (r, s.horizonDistance r))
    (hle : 1 / 2 ≤ u) (hunit : unitOfCoord (2 * u - 1) half ∈ Set.Icc (0 : ℝ) 1) :
    s.viewCoord half r (s.viewCosineAt half size u uR) false = u := by
  obtain ⟨-, -, hdist⟩ := viewCosineAt_sky_spec hs hr hrad hle hunit
  have hspan : s.horizonDistance r + s.horizonLength - (s.top - r) ≠ 0 := by
    have := thickness_lt_horizonLength hs
    have := horizonDistance_nonneg s r
    have := hr.1
    linarith
  rw [viewCoord_sky hs hr, hdist, viewDistanceAt_sky hrad hle, add_sub_cancel_left,
    mul_div_cancel_left₀ _ hspan, coordOfUnit_unitOfCoord hhalf]
  ring

end Shell

namespace LitShell

variable {s : LitShell ℝ} {u size : ℝ}

/-- The fraction of a stored value has that stored value. -/
theorem sunUnit_of_fraction {x A : ℝ} (hx : x ∈ Set.Icc (0 : ℝ) 1) (hA : 0 < A) :
    max (1 - min ((A - x * A) / (1 + x * A)) A / A) 0 /
      (1 + min ((A - x * A) / (1 + x * A)) A) = x := by
  have hxA : 0 ≤ x * A := mul_nonneg hx.1 hA.le
  have hle : (A - x * A) / (1 + x * A) ≤ A := by
    rw [div_le_iff₀ (by linarith)]
    nlinarith
  have hnonneg : 0 ≤ (A - x * A) / (1 + x * A) :=
    div_nonneg (by nlinarith [hx.2]) (by linarith)
  have hback : (A - x * A) / (1 + x * A) * (1 + x * A) = A - x * A :=
    div_mul_cancel₀ _ (by linarith)
  rw [min_eq_left hle]
  generalize (A - x * A) / (1 + x * A) = a at *
  have hgap : 1 - a / A = x * (1 + a) := by
    have hquot : a / A = 1 - x - x * a := by
      rw [div_eq_iff hA.ne']
      linear_combination hback
    rw [hquot]
    ring
  rw [hgap, max_eq_left (mul_nonneg hx.1 (by linarith)), mul_div_cancel_right₀ _ (by linarith)]

/-- The sun cosine at a coordinate has that coordinate. -/
theorem sunCoord_sunCosineAt (hsize : 1 < size) (hs : s.Proper)
    (hunit : unitOfCoord u size ∈ Set.Icc (0 : ℝ) 1) :
    s.sunCoord size (s.sunCosineAt size u) = u := by
  rw [sunCoord_real, (sunCosineAt_spec hs hunit).2,
    sunUnit_of_fraction hunit (sunFraction_muSMin_pos hs), coordOfUnit_unitOfCoord hsize]

end LitShell

namespace Grid

variable {e : Extents} {v : Voxel}

/-- The coordinate of a cosine between view and sun. -/
theorem nuCoord_mem {nu : ℝ} (hnu : nu ∈ Set.Icc (-1) 1) : nuCoord nu ∈ Set.Icc (0 : ℝ) 1 := by
  have h : nuCoord nu = (nu + 1) / 2 := by norm_num [nuCoord]
  rw [h]
  exact ⟨by linarith [hnu.1], by linarith [hnu.2]⟩

/-- The cosine between view and sun is linear in its coordinate. -/
theorem nuAt_eq {u : ℝ} (hu : u ∈ Set.Icc (0 : ℝ) 1) : nuAt u = 2 * u - 1 := by
  have h : u * 2.0 - 1.0 = 2 * u - 1 := by
    norm_num
    ring
  rw [nuAt, h, clampCosine_eq_self (by linarith [hu.1]) (by linarith [hu.2])]

/-- The cosine between view and sun at a coordinate has that coordinate. -/
theorem nuCoord_nuAt {u : ℝ} (hu : u ∈ Set.Icc (0 : ℝ) 1) : nuCoord (nuAt u) = u := by
  rw [nuAt_eq hu]
  norm_num [nuCoord]

/-- A cosine between view and sun that fits to the other two cosines is not changed. -/
theorem limitNu_eq_self {mu muS nu : ℝ}
    (h : |nu - mu * muS| ≤ √((1 - mu ^ 2) * (1 - muS ^ 2))) : limitNu mu muS nu = nu := by
  have hspread : √((1.0 - mu * mu) * (1.0 - muS * muS)) = √((1 - mu ^ 2) * (1 - muS ^ 2)) := by
    norm_num [sq]
  obtain ⟨hlo, hhi⟩ := abs_le.mp h
  simp only [limitNu, sqrt_real, hspread]
  exact clamp_eq_self (by linarith) (by linarith)

namespace GridScale

variable {s : LitShell ℝ}

theorem centre_uNu_mem (hv : e.shape.contains v = true) :
    (e.scale.centre v : Coords ℝ).uNu ∈ Set.Icc (0 : ℝ) 1 := by
  obtain ⟨⟨hx, hlt⟩, -⟩ := contains_iff.mp hv
  have hpos : 0 < e.muSSize := by have := e.two_le_muSSize; omega
  have hnu := e.two_le_nuSize
  have hcentre : (e.scale.centre v : Coords ℝ).uNu =
      (⌊((v.x : ℝ) + 1 / 2) / e.muSSize⌋ : ℝ) / (e.nuSize - 1 : ℕ) := by
    norm_num [centre]
  rw [hcentre]
  lift v.x to ℕ using hx with k hk
  have hcolumn : k / e.muSSize ≤ e.nuSize - 1 := by
    have : k / e.muSSize < e.nuSize := (Nat.div_lt_iff_lt_mul hpos).mpr (by exact_mod_cast hlt)
    omega
  rw [Int.cast_natCast, floor_centre hpos, Int.cast_natCast]
  exact ⟨by positivity, div_le_one_of_le₀ (by exact_mod_cast hcolumn) (Nat.cast_nonneg _)⟩

/-- The coordinate of the centres of the last row below the horizon. -/
theorem centre_uMu_horizon (hy : v.y = (e.muSize / 2 : ℕ) - 1) :
    (e.scale.centre v : Coords ℝ).uMu = 1 / 2 - 1 / 2 * (1 / 2 / (e.muSize / 2 : ℕ)) := by
  have hhalf := e.one_lt_halfMu
  rw [centre_uMu, hy]
  generalize e.muSize / 2 = half at *
  push_cast
  field_simp
  ring

variable (hv : e.shape.contains v = true)

include hv

theorem encode_rayAt_uR (hs : s.Proper) (ground : Bool) :
    (e.scale.encode s (e.scale.rayAt s v).1 ground).uR = (e.scale.centre v : Coords ℝ).uR := by
  obtain ⟨r, -, hrad, -⟩ := Shell.exists_radiusAt hs.shell (unit_uR_mem hv)
  simp only [encode, rayAt_r, Extents.scale_r, hrad]
  exact Shell.radiusCoord_radiusAt e.one_lt_rSize hs.shell hrad

theorem encode_rayAt_uMuS (hs : s.Proper) (ground : Bool) :
    (e.scale.encode s (e.scale.rayAt s v).1 ground).uMuS =
      (e.scale.centre v : Coords ℝ).uMuS := by
  simp only [encode, rayAt_muS, Extents.scale_muS]
  exact LitShell.sunCoord_sunCosineAt e.one_lt_muSSize hs (unit_uMuS_mem hv)

/-- Slices other than the first lie above the ground. -/
theorem exists_radiusAt_above (hs : s.Proper) (hz : v.z ≠ 0) :
    ∃ r ∈ Set.Ioc s.bottom s.top,
      s.toShell.radiusAt e.rSize (e.scale.centre v).uR = (r, s.toShell.horizonDistance r) := by
  obtain ⟨r, hr, hrad, -⟩ := Shell.exists_radiusAt hs.shell (unit_uR_mem hv)
  refine ⟨r, ⟨lt_of_le_of_ne hr.1 fun hbottom => hz ?_, hr.2⟩, hrad⟩
  have hrho : s.toShell.horizonLength * unitOfCoord (e.scale.centre v).uR (e.rSize : ℝ) =
      s.toShell.horizonDistance r := congrArg Prod.snd hrad
  have hlast := e.one_lt_rSize
  rw [← hbottom, Shell.horizonDistance_bottom, centre_uR, unitOfCoord_centre hlast] at hrho
  rcases mul_eq_zero.mp hrho with hzero | hzero
  · exact absurd hzero (Shell.horizonLength_pos hs.shell).ne'
  · rcases div_eq_zero_iff.mp hzero with hzero | hzero
    · exact_mod_cast hzero
    · linarith

theorem encode_rayAt_uMu_ground (hs : s.Proper) (hlow : v.y < (e.muSize / 2 : ℕ))
    (hz : v.z ≠ 0) :
    (e.scale.encode s (e.scale.rayAt s v).1 true).uMu = (e.scale.centre v : Coords ℝ).uMu := by
  obtain ⟨r, hr, hrad⟩ := exists_radiusAt_above hv hs hz
  simp only [encode, rayAt_r, rayAt_mu, Extents.scale_r, Extents.scale_halfMu, hrad]
  exact Shell.viewCoord_viewCosineAt_ground e.one_lt_halfMu hs.shell hr hrad
    (uMu_lt_half_iff.mpr hlow) (unit_ground_mem hv hlow)

theorem encode_rayAt_uMu_sky (hs : s.Proper) (hhigh : (e.muSize / 2 : ℕ) ≤ v.y) :
    (e.scale.encode s (e.scale.rayAt s v).1 false).uMu = (e.scale.centre v : Coords ℝ).uMu := by
  obtain ⟨r, hr, hrad, -⟩ := Shell.exists_radiusAt hs.shell (unit_uR_mem hv)
  simp only [encode, rayAt_r, rayAt_mu, Extents.scale_r, Extents.scale_halfMu, hrad]
  exact Shell.viewCoord_viewCosineAt_sky e.one_lt_halfMu hs.shell hr hrad
    (not_lt.mp fun h => absurd (uMu_lt_half_iff.mp h) (not_lt.mpr hhigh)) (unit_sky_mem hv hhigh)

/-- In the first slice the rays of the lower half fall from the ground to the ground. -/
theorem rayAt_first (hs : s.Proper) (hlow : v.y < (e.muSize / 2 : ℕ)) (hz : v.z = 0) :
    (e.scale.rayAt s v).1.r = s.bottom ∧ (e.scale.rayAt s v).1.mu = -1 := by
  obtain ⟨r, -, hrad, hfirst⟩ := Shell.exists_radiusAt hs.shell (unit_uR_mem hv)
  obtain ⟨-, -, -, -, hzero⟩ := rayAt_ground_spec hv hs hlow
  have hbottom : r = s.bottom := by
    refine hfirst ?_
    rw [centre_uR, hz, unitOfCoord_centre e.one_lt_rSize, Int.cast_zero, zero_div]
  rw [rayAt_r, rayAt_mu, Extents.scale_r, Extents.scale_halfMu, hrad]
  refine ⟨hbottom, ?_⟩
  rw [Shell.viewCosineAt_ground hrad (uMu_lt_half_iff.mpr hlow) (hzero hz),
    Shell.groundCosine_zero, clampCosine_eq_self le_rfl (by norm_num)]

/-- In the first slice the rays of the lower half have the coordinate of the row at the horizon. -/
theorem encode_rayAt_uMu_first (hs : s.Proper) (hlow : v.y < (e.muSize / 2 : ℕ))
    (hz : v.z = 0) :
    (e.scale.encode s (e.scale.rayAt s v).1 true).uMu =
      (e.scale.centre ⟨v.x, (e.muSize / 2 : ℕ) - 1, v.z⟩ : Coords ℝ).uMu := by
  obtain ⟨-, -, hmeets, -⟩ := rayAt_ground_spec hv hs hlow
  rw [(rayAt_first hv hs hlow hz).1] at hmeets
  simp only [encode, (rayAt_first hv hs hlow hz).1, Extents.scale_halfMu]
  rw [Shell.viewCoord_bottom hs.shell hmeets, centre_uMu_horizon rfl]

theorem encode_rayAt_uNu_mem (hs : s.Proper) (ground : Bool) :
    (e.scale.encode s (e.scale.rayAt s v).1 ground).uNu ∈ Set.Icc (0 : ℝ) 1 := by
  obtain ⟨-, -, -, hnu⟩ := Ray.checkAll_singleton_iff.mp (checkAll_rayAt hv hs)
  exact nuCoord_mem hnu

/-- A cosine between view and sun that fits to the other two cosines keeps its coordinate. -/
theorem encode_rayAt_uNu (ground : Bool)
    (hfits : |nuAt (e.scale.centre v : Coords ℝ).uNu -
        (e.scale.rayAt s v).1.mu * (e.scale.rayAt s v).1.muS| ≤
      √((1 - (e.scale.rayAt s v).1.mu ^ 2) * (1 - (e.scale.rayAt s v).1.muS ^ 2))) :
    (e.scale.encode s (e.scale.rayAt s v).1 ground).uNu = (e.scale.centre v : Coords ℝ).uNu := by
  simp only [encode]
  rw [rayAt_nu, limitNu_eq_self hfits, nuCoord_nuAt (centre_uNu_mem hv)]

end GridScale

/-- The coordinates of a single voxel. -/
theorem GridSizes.centres_single (e : Extents) (v : Voxel) :
    (ofExtents e).centres (.single v) = .ok (.single (e.scale.centre v : Coords ℝ)) := by
  simp only [centres, scale_ofExtents, ok_bind, Tensor.map_single, pure_eq_ok]

/-- In checked parameters the ray at a voxel centre has the coordinates of that centre. The only
rays with another coordinate of the view cosine are those that fall from the ground to the ground:
they are all vertical and have the coordinate of the last row below the horizon. The coordinate of
the cosine between view and sun lies in its range, and it is that of the centre if the cosine at the
centre fits to the other two. -/
theorem GridSizes.encodeArrays_raysAt {p : Parameters ℝ} (hp : p.validate = .ok ()) (e : Extents)
    (v : Voxel) (hv : e.shape.contains v = true) :
    ∃ (c u : Coords ℝ) (ray : Ray ℝ) (ground : Bool),
      (ofExtents e).centres (.single v) = .ok (.single c) ∧
      (ofExtents e).raysAt p.toLitShell (.single v) = .ok (.single (ray, ground)) ∧
      (ofExtents e).encodeArrays p.toLitShell (.single ray.r) (.single ray.mu) (.single ray.muS)
          (.single ray.nu) (.single ground) =
        .ok [.single u.uNu, .single u.uMuS, .single u.uMu, .single u.uR] ∧
      ground = decide (v.y < e.muSize / 2) ∧
      u.uR = c.uR ∧ u.uMuS = c.uMuS ∧
      (¬ (ground = true ∧ v.z = 0) → u.uMu = c.uMu) ∧
      (ground = true ∧ v.z = 0 → ray.mu = -1 ∧
        u.uMu = (e.scale.centre ⟨v.x, (e.muSize / 2 : ℕ) - 1, v.z⟩ : Coords ℝ).uMu) ∧
      u.uNu ∈ Set.Icc 0 1 ∧
      (|nuAt c.uNu - ray.mu * ray.muS| ≤ √((1 - ray.mu ^ 2) * (1 - ray.muS ^ 2)) →
        u.uNu = c.uNu) := by
  have hs := Parameters.proper_of_validate hp
  have hflag := GridScale.rayAt_ground e.scale p.toLitShell v
  refine ⟨_, _, _, _, centres_single e v, raysAt_single e p.toLitShell v,
    encodeArrays_single e _ _ _, ?_, GridScale.encode_rayAt_uR hv hs _,
    GridScale.encode_rayAt_uMuS hv hs _, ?_, ?_, GridScale.encode_rayAt_uNu_mem hv hs _,
    GridScale.encode_rayAt_uNu hv _⟩
  · exact hflag.trans (decide_eq_decide.mpr GridScale.uMu_lt_half_iff)
  · intro hlong
    rcases lt_or_ge v.y (e.muSize / 2 : ℕ) with hlow | hhigh
    · rw [decide_eq_true (GridScale.uMu_lt_half_iff.mpr hlow)] at hflag
      rw [hflag] at hlong ⊢
      exact GridScale.encode_rayAt_uMu_ground hv hs hlow fun hz => hlong ⟨rfl, hz⟩
    · rw [decide_eq_false fun h => absurd (GridScale.uMu_lt_half_iff.mp h) (not_lt.mpr hhigh)]
        at hflag
      rw [hflag]
      exact GridScale.encode_rayAt_uMu_sky hv hs hhigh
  · rintro ⟨hground, hz⟩
    have hlow : v.y < (e.muSize / 2 : ℕ) := by
      rwa [hflag, decide_eq_true_eq, GridScale.uMu_lt_half_iff] at hground
    rw [hground]
    exact ⟨(GridScale.rayAt_first hv hs hlow hz).2,
      GridScale.encode_rayAt_uMu_first hv hs hlow hz⟩

/-- The last voxel of the standard grid lies at the top and looks up at the sun. -/
theorem GridSizes.encodeArrays_raysAt_last :
    ∃ (c u : Coords ℝ) (ray : Ray ℝ),
      (ofExtents .standard).centres (.single ⟨255, 127, 31⟩) = .ok (.single c) ∧
      (ofExtents .standard).raysAt (Parameters.earth : Parameters ℝ).toLitShell
        (.single ⟨255, 127, 31⟩) = .ok (.single (ray, false)) ∧
      (ofExtents .standard).encodeArrays (Parameters.earth : Parameters ℝ).toLitShell
          (.single ray.r) (.single ray.mu) (.single ray.muS) (.single ray.nu) (.single false) =
        .ok [.single u.uNu, .single u.uMuS, .single u.uMu, .single u.uR] ∧
      u.uR = c.uR ∧ u.uMuS = c.uMuS ∧ u.uMu = c.uMu := by
  obtain ⟨c, u, ray, ground, hcentre, hray, hcoords, hground, huR, huMuS, huMu, -⟩ :=
    encodeArrays_raysAt Parameters.validate_earth .standard ⟨255, 127, 31⟩ (by decide)
  obtain rfl : ground = false := hground.trans (by decide)
  exact ⟨c, u, ray, hcentre, hray, hcoords, huR, huMuS, huMu (by simp)⟩

end Grid

end Airlight
