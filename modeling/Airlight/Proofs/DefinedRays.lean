import Airlight.Proofs.GridRoundTrip
import Airlight.Proofs.PartialReals
import Airlight.Proofs.VoxelRays
import Airlight.Transmittance.TableMap

/-!
# The maps of rays divide by no zero

Over the partial real numbers the maps between ray parameters, coordinates and voxels give the
numbers that they give over the real ones, so that no divisor in them is zero and no root is taken
of a negative number. Each divisor is a size or a difference that the checks of parameters and
extents keep apart from zero. The same holds for the coordinates in the transmittance table.
-/

namespace Airlight

open Scalar Texture PartialReal

variable {w : Verdict}

/-! ## Structures of partial numbers -/

section

variable {α β : Type} (f : α → β)

/-- Converts the numbers of a shell. -/
@[simps] def Shell.map (s : Shell α) : Shell β := ⟨f s.bottom, f s.top⟩

/-- Converts the numbers of a lit shell. -/
def LitShell.map (s : LitShell α) : LitShell β :=
  { toShell := s.toShell.map f, muSMin := f s.muSMin }

@[simp] theorem LitShell.map_toShell (s : LitShell α) : (s.map f).toShell = s.toShell.map f := rfl

@[simp] theorem LitShell.map_muSMin (s : LitShell α) : (s.map f).muSMin = f s.muSMin := rfl

/-- Converts the parameters of a ray. -/
@[simps] def Ray.map (ray : Ray α) : Ray β := ⟨f ray.r, f ray.mu, f ray.muS, f ray.nu⟩

/-- Converts coordinates. -/
@[simps] def Grid.Coords.map (u : Grid.Coords α) : Grid.Coords β :=
  ⟨f u.uNu, f u.uMuS, f u.uMu, f u.uR⟩

end

/-! ## Coordinates and cosines -/

section

variable {n x u r : ℝ}

theorem one_sub_inv_ne_zero (hn : 1 < n) : (1.0 - 1.0 / n : ℝ) ≠ 0 := by
  have h : (1.0 - 1.0 / n : ℝ) = 1 - 1 / n := by norm_num
  rw [h]
  exact (one_sub_inv_pos hn).ne'

theorem coordOfUnit_coe (hn : 1 < n) (x : ℝ) :
    coordOfUnit (x : PartialReal w) n = (coordOfUnit x n : ℝ) := by
  have hn0 : n ≠ 0 := by linarith
  simp only [coordOfUnit, scientific_coe, div_coe hn0, sub_coe, mul_coe, add_coe]

theorem unitOfCoord_coe (hn : 1 < n) (u : ℝ) :
    unitOfCoord (u : PartialReal w) n = (unitOfCoord u n : ℝ) := by
  have hn0 : n ≠ 0 := by linarith
  simp only [unitOfCoord, scientific_coe, div_coe hn0, sub_coe, div_coe (one_sub_inv_ne_zero hn)]

theorem clampCosine_coe (x : ℝ) : clampCosine (x : PartialReal w) = (clampCosine x : ℝ) := by
  simp only [clampCosine, scientific_coe, neg_coe, clamp_coe]

theorem clampDistance_coe (x : ℝ) : clampDistance (x : PartialReal w) = (clampDistance x : ℝ) := by
  simp only [clampDistance, scientific_coe, larger_coe]

theorem safeSqrt_coe (x : ℝ) : safeSqrt (x : PartialReal w) = (safeSqrt x : ℝ) := by
  have hx : 0 ≤ larger x 0.0 := by
    norm_num [larger_real]
  simp only [safeSqrt, scientific_coe, larger_coe, sqrt_coe hx]

/-- The cosine that belongs to a distance is a quotient unless the distance is zero. -/
theorem cosineOfDistance_coe (hr : r ≠ 0) (vertical x d : ℝ) :
    (if same (d : PartialReal w) (0.0 : ℝ) = true then (vertical : PartialReal w)
        else x / (2.0 * r * d : ℝ)) =
      (if same d 0.0 = true then vertical else x / (2.0 * r * d) : ℝ) := by
  by_cases hd : same d 0.0 = true
  · rw [if_pos hd, if_pos ((same_coe d 0.0).trans hd)]
  · have hdivisor : (2.0 * r * d : ℝ) ≠ 0 := by
      norm_num at hd
      exact mul_ne_zero (mul_ne_zero (by norm_num) hr) hd
    rw [if_neg hd, if_neg fun h => hd ((same_coe d 0.0).symm.trans h), div_coe hdivisor]

end

namespace Shell

variable {s : Shell ℝ} {r mu d u uR half size width height : ℝ}

/-! ## Distances -/

theorem clampRadius_coe (s : Shell ℝ) (r : ℝ) :
    (s.map ofReal).clampRadius (r : PartialReal w) = (s.clampRadius r : ℝ) :=
  clamp_coe r s.bottom s.top

theorem distanceToTop_coe (s : Shell ℝ) (r mu : ℝ) :
    (s.map ofReal).distanceToTop (r : PartialReal w) mu = (s.distanceToTop r mu : ℝ) := by
  simp only [distanceToTop, map_top, neg_coe, mul_coe, scientific_coe, sub_coe, add_coe,
    safeSqrt_coe, clampDistance_coe]

theorem distanceToBottom_coe (s : Shell ℝ) (r mu : ℝ) :
    (s.map ofReal).distanceToBottom (r : PartialReal w) mu = (s.distanceToBottom r mu : ℝ) := by
  simp only [distanceToBottom, map_bottom, neg_coe, mul_coe, scientific_coe, sub_coe, add_coe,
    safeSqrt_coe, clampDistance_coe]

theorem distanceToNearest_coe (s : Shell ℝ) (r mu : ℝ) (ground : Bool) :
    (s.map ofReal).distanceToNearest (r : PartialReal w) mu ground =
      (s.distanceToNearest r mu ground : ℝ) := by
  cases ground
  · exact s.distanceToTop_coe r mu
  · exact s.distanceToBottom_coe r mu

theorem horizonLength_coe (hs : s.Proper) :
    (s.map ofReal).horizonLength = ((s.horizonLength : ℝ) : PartialReal w) := by
  have hroot : 0 ≤ s.top * s.top - s.bottom * s.bottom := by
    have := hs.bottom_pos
    have := hs.bottom_lt_top
    nlinarith
  simp only [horizonLength, map_top, map_bottom, mul_coe, sub_coe, sqrt_coe hroot]

theorem horizonDistance_coe (s : Shell ℝ) (r : ℝ) :
    (s.map ofReal).horizonDistance (r : PartialReal w) = (s.horizonDistance r : ℝ) := by
  simp only [horizonDistance, map_bottom, mul_coe, sub_coe, safeSqrt_coe]

/-! ## Coordinates in the grid -/

theorem radiusCoord_coe (hs : s.Proper) (hsize : 1 < size) (r : ℝ) :
    (s.map ofReal).radiusCoord (size : PartialReal w) r = (s.radiusCoord size r : ℝ) := by
  simp only [radiusCoord, horizonDistance_coe, horizonLength_coe hs,
    div_coe (horizonLength_pos hs).ne', coordOfUnit_coe hsize]

theorem viewCoord_coe (hs : s.Proper) (hr : s.bottom ≤ r) (hhalf : 1 < half)
    (mu : ℝ) (ground : Bool) :
    (s.map ofReal).viewCoord (half : PartialReal w) r mu ground =
      (s.viewCoord half r mu ground : ℝ) := by
  have hsky := (distanceToTop_span_pos hs hr).ne'
  cases ground with
  | false =>
    simp only [viewCoord, Bool.false_eq_true, if_false, map_top, map_bottom, mul_coe, sub_coe,
      add_coe, neg_coe, scientific_coe, horizonDistance_coe, horizonLength_coe hs, safeSqrt_coe,
      div_coe hsky, coordOfUnit_coe hhalf]
  | true =>
    by_cases hspan : 0.0 < s.horizonDistance r - (r - s.bottom)
    · have hne : s.horizonDistance r - (r - s.bottom) ≠ 0 := by
        norm_num at hspan
        linarith
      simp only [viewCoord, if_true, map_bottom, mul_coe, sub_coe, add_coe, neg_coe,
        scientific_coe, horizonDistance_coe, safeSqrt_coe, lt_coe, hspan, div_coe hne,
        coordOfUnit_coe hhalf]
    · -- on the ground all distances are zero, and no quotient is taken
      simp only [viewCoord, if_true, map_bottom, mul_coe, sub_coe, add_coe, neg_coe,
        scientific_coe, horizonDistance_coe, safeSqrt_coe, lt_coe, hspan, if_false,
        coordOfUnit_coe hhalf]

theorem radiusAt_coe (hs : s.Proper) (hsize : 1 < size) (u : ℝ) :
    (s.map ofReal).radiusAt (size : PartialReal w) u =
      (ofReal (s.radiusAt size u).1, ofReal (s.radiusAt size u).2) := by
  have hroot : 0 ≤ s.horizonLength * unitOfCoord u size * (s.horizonLength * unitOfCoord u size) +
      s.bottom * s.bottom := add_nonneg (mul_self_nonneg _) (mul_self_nonneg _)
  simp only [radiusAt, horizonLength_coe hs, unitOfCoord_coe hsize, mul_coe, map_bottom, add_coe,
    sqrt_coe hroot, clampRadius_coe]

theorem viewDistanceAt_coe (hs : s.Proper) (hhalf : 1 < half) (hsize : 1 < size) (u uR : ℝ) :
    (s.map ofReal).viewDistanceAt (half : PartialReal w) size u uR =
      (s.viewDistanceAt half size u uR : ℝ) := by
  by_cases hu : u < 0.5 <;>
    simp only [viewDistanceAt, radiusAt_coe hs hsize, scientific_coe, lt_coe, hu, if_true, if_false,
      map_bottom, map_top, horizonLength_coe hs, sub_coe, add_coe, mul_coe, unitOfCoord_coe hhalf]

/-- A radius at a coordinate is that of a point of the shell. -/
theorem radiusAt_fst_mem (hs : s.Proper) (size u : ℝ) :
    (s.radiusAt size u).1 ∈ Set.Icc s.bottom s.top :=
  clampRadius_mem hs _

theorem viewCosineAt_coe (hs : s.Proper) (hhalf : 1 < half) (hsize : 1 < size) (u uR : ℝ) :
    (s.map ofReal).viewCosineAt (half : PartialReal w) size u uR =
      (s.viewCosineAt half size u uR : ℝ) := by
  have hr : (s.radiusAt size uR).1 ≠ 0 :=
    (hs.bottom_pos.trans_le (radiusAt_fst_mem hs size uR).1).ne'
  by_cases hu : u < 0.5 <;>
    simp only [viewCosineAt, radiusAt_coe hs hsize, viewDistanceAt_coe hs hhalf hsize,
      scientific_coe, lt_coe, hu, if_true, if_false, horizonLength_coe hs, neg_coe, sub_coe,
      add_coe, mul_coe, cosineOfDistance_coe hr, clampCosine_coe]

/-! ## Coordinates in the table -/

theorem tableV_coe (hs : s.Proper) (hheight : 1 < height) (r : ℝ) :
    (s.map ofReal).tableV (height : PartialReal w) r = (s.tableV height r : ℝ) := by
  simp only [tableV, map_bottom, mul_coe, sub_coe, safeSqrt_coe, horizonLength_coe hs,
    div_coe (horizonLength_pos hs).ne', coordOfUnit_coe hheight]

theorem tableU_coe (hs : s.Proper) (hr : s.bottom ≤ r) (hwidth : 1 < width) (mu : ℝ) :
    (s.map ofReal).tableU (width : PartialReal w) r mu = (s.tableU width r mu : ℝ) := by
  have hspan : safeSqrt (r * r - s.bottom * s.bottom) + s.horizonLength - (s.top - r) ≠ 0 :=
    (distanceToTop_span_pos hs hr).ne'
  simp only [tableU, map_bottom, map_top, mul_coe, sub_coe, add_coe, safeSqrt_coe,
    horizonLength_coe hs, distanceToTop_coe, div_coe hspan, coordOfUnit_coe hwidth]

theorem tableRho_coe (hs : s.Proper) (hheight : 1 < height) (v : ℝ) :
    (s.map ofReal).tableRho (height : PartialReal w) v = (s.tableRho height v : ℝ) := by
  simp only [tableRho, horizonLength_coe hs, unitOfCoord_coe hheight, mul_coe]

theorem tableRadius_coe (hs : s.Proper) (hheight : 1 < height) (v : ℝ) :
    (s.map ofReal).tableRadius (height : PartialReal w) v = (s.tableRadius height v : ℝ) := by
  have hroot : 0 ≤ s.tableRho height v * s.tableRho height v + s.bottom * s.bottom :=
    add_nonneg (mul_self_nonneg _) (mul_self_nonneg _)
  simp only [tableRadius, tableRho_coe hs hheight, map_bottom, mul_coe, add_coe, sqrt_coe hroot]

theorem tableRadius_pos (hs : s.Proper) (height v : ℝ) : 0 < s.tableRadius height v := by
  have hb := hs.bottom_pos
  simp only [tableRadius, sqrt_real]
  exact Real.sqrt_pos.mpr (add_pos_of_nonneg_of_pos (mul_self_nonneg _) (mul_pos hb hb))

theorem tableCosine_coe (hs : s.Proper) (hwidth : 1 < width) (hheight : 1 < height) (u v : ℝ) :
    (s.map ofReal).tableCosine (width : PartialReal w) height u v =
      (s.tableCosine width height u v : ℝ) := by
  have hr := (tableRadius_pos hs height v).ne'
  simp only [tableCosine, tableRho_coe hs hheight, tableRadius_coe hs hheight, horizonLength_coe hs,
    unitOfCoord_coe hwidth, map_top, scientific_coe, sub_coe, add_coe, mul_coe,
    cosineOfDistance_coe hr, clampCosine_coe]

end Shell

/-! ## Sun cosines -/

namespace LitShell

variable {s : LitShell ℝ} {m size u : ℝ}

theorem sunFraction_coe (hs : s.Proper) (m : ℝ) :
    (s.map ofReal).sunFraction (m : PartialReal w) = (s.sunFraction m : ℝ) := by
  simp only [sunFraction, map_toShell, Shell.map_top, Shell.map_bottom, Shell.distanceToTop_coe,
    Shell.horizonLength_coe hs.shell, sub_coe, div_coe (sunSpan_pos hs).ne']

theorem sunCoord_coe (hs : s.Proper) (hm : m ≤ 1) (hsize : 1 < size) :
    (s.map ofReal).sunCoord (size : PartialReal w) m = (s.sunCoord size m : ℝ) := by
  have hlimit := (sunFraction_muSMin_pos hs).ne'
  have hdivisor : (1.0 + s.sunFraction m : ℝ) ≠ 0 := by
    have := sunFraction_nonneg hs hm
    norm_num
    linarith
  simp only [sunCoord, sunFraction_coe hs, map_muSMin, scientific_coe, div_coe hlimit, sub_coe,
    add_coe, larger_coe, div_coe hdivisor, coordOfUnit_coe hsize]

theorem sunCosineAt_coe (hs : s.Proper) (hsize : 1 < size)
    (hu : unitOfCoord u size ∈ Set.Icc (0 : ℝ) 1) :
    (s.map ofReal).sunCosineAt (size : PartialReal w) u = (s.sunCosineAt size u : ℝ) := by
  -- beyond the texel centres the divisor could be zero
  have hdivisor : (1.0 + unitOfCoord u size * s.sunFraction s.muSMin : ℝ) ≠ 0 := by
    have := mul_nonneg hu.1 (sunFraction_muSMin_pos hs).le
    norm_num
    linarith
  simp only [sunCosineAt, unitOfCoord_coe hsize, map_toShell, map_muSMin, Shell.map_top,
    Shell.map_bottom, Shell.horizonLength_coe hs.shell, sunFraction_coe hs, scientific_coe, mul_coe,
    sub_coe, add_coe, div_coe hdivisor, smaller_coe, cosineOfDistance_coe hs.shell.bottom_pos.ne',
    clampCosine_coe]

end LitShell

/-! ## Rays in the grid -/

namespace Grid

variable {s : LitShell ℝ} {e : Extents} {ray : Ray ℝ} {mu muS : ℝ} {v : Voxel}

theorem nuCoord_coe (nu : ℝ) : nuCoord (nu : PartialReal w) = (nuCoord nu : ℝ) := by
  have hdivisor : (2.0 : ℝ) ≠ 0 := by norm_num
  simp only [nuCoord, scientific_coe, add_coe, div_coe hdivisor]

theorem nuAt_coe (u : ℝ) : nuAt (u : PartialReal w) = (nuAt u : ℝ) := by
  simp only [nuAt, scientific_coe, mul_coe, sub_coe, clampCosine_coe]

theorem limitNu_coe (hmu : mu ∈ Set.Icc (-1) 1) (hmuS : muS ∈ Set.Icc (-1) 1) (nu : ℝ) :
    limitNu (mu : PartialReal w) muS nu = (limitNu mu muS nu : ℝ) := by
  have hroot : (0 : ℝ) ≤ (1.0 - mu * mu) * (1.0 - muS * muS) := by
    have hsin : 0 ≤ 1 - mu * mu := by nlinarith [hmu.1, hmu.2]
    have hsinS : 0 ≤ 1 - muS * muS := by nlinarith [hmuS.1, hmuS.2]
    norm_num
    exact mul_nonneg hsin hsinS
  simp only [limitNu, scientific_coe, mul_coe, sub_coe, add_coe, sqrt_coe hroot, clamp_coe]

namespace GridScale

theorem encode_coe (hs : s.Proper) (e : Extents) (hr : s.bottom ≤ ray.r) (hmuS : ray.muS ≤ 1)
    (ground : Bool) :
    (e.scale : GridScale (PartialReal w)).encode (s.map ofReal) (ray.map ofReal) ground =
      (e.scale.encode s ray ground).map ofReal := by
  simp only [encode, Extents.scale, natCast_coe, Ray.map_r, Ray.map_mu, Ray.map_muS, Ray.map_nu,
    LitShell.map_toShell, nuCoord_coe, LitShell.sunCoord_coe hs hmuS e.one_lt_muSSize,
    Shell.viewCoord_coe hs.shell hr e.one_lt_halfMu,
    Shell.radiusCoord_coe hs.shell e.one_lt_rSize, Coords.map]

theorem decode_coe (hs : s.Proper) (e : Extents) {u : Coords ℝ}
    (hu : unitOfCoord u.uMuS (e.muSSize : ℝ) ∈ Set.Icc (0 : ℝ) 1) :
    (e.scale : GridScale (PartialReal w)).decode (s.map ofReal) (u.map ofReal) =
      ((e.scale.decode s u).1.map ofReal, (e.scale.decode s u).2) := by
  have hground : decide ((u.uMu : PartialReal w) < ((0.5 : ℝ) : PartialReal w)) =
      decide (u.uMu < 0.5) := decide_eq_decide.mpr (lt_coe (w := w) (x := u.uMu) (y := 0.5))
  simp only [decode, Extents.scale, natCast_coe, scientific_coe, Coords.map_uNu, Coords.map_uMuS,
    Coords.map_uMu, Coords.map_uR, LitShell.map_toShell, Shell.radiusAt_coe hs.shell e.one_lt_rSize,
    Shell.viewCosineAt_coe hs.shell e.one_lt_halfMu e.one_lt_rSize,
    LitShell.sunCosineAt_coe hs e.one_lt_muSSize hu, nuAt_coe, hground, Ray.map]

theorem centre_coe (e : Extents) (v : Voxel) :
    (e.scale : GridScale (PartialReal w)).centre v = (e.scale.centre v : Coords ℝ).map ofReal := by
  have hnu : ((e.nuSize - 1 : ℕ) : ℝ) ≠ 0 := by
    have := e.two_le_nuSize
    exact_mod_cast (by omega : e.nuSize - 1 ≠ 0)
  have hmu : (e.muSize : ℝ) ≠ 0 := by
    have := e.four_le_muSize
    exact_mod_cast (by omega : e.muSize ≠ 0)
  have hmuS : (e.muSSize : ℝ) ≠ 0 := by linarith [e.one_lt_muSSize]
  have hr : (e.rSize : ℝ) ≠ 0 := by linarith [e.one_lt_rSize]
  simp only [centre, Extents.scale, natCast_coe, scientific_coe, ofInt_coe, add_coe, div_coe hnu,
    div_coe hmu, div_coe hmuS, div_coe hr, floor_coe, floorMod_coe hmuS, Coords.map]

/-- The ray of a voxel is defined. -/
theorem rayAt_coe (hs : s.Proper) (hv : e.shape.contains v = true) :
    (e.scale : GridScale (PartialReal w)).rayAt (s.map ofReal) v =
      ((e.scale.rayAt s v).1.map ofReal, (e.scale.rayAt s v).2) := by
  have hmu : (e.scale.decode s (e.scale.centre v)).1.mu ∈ Set.Icc (-1) 1 := clampCosine_mem _
  have hmuS : (e.scale.decode s (e.scale.centre v)).1.muS ∈ Set.Icc (-1) 1 := clampCosine_mem _
  simp only [rayAt, centre_coe, decode_coe hs e (unit_uMuS_mem hv), limitNu_coe hmu hmuS, Ray.map]

end GridScale

/-! ## Arrays of single rays -/

namespace GridSizes

/-- Every whole size has a number. -/
theorem number_whole_partial (n : ℕ) :
    (Quantity.whole n : Quantity (PartialReal w)).number = .ok (n : PartialReal w) := rfl

theorem encodeArrays_coe (hs : s.Proper) (e : Extents) (hr : s.bottom ≤ ray.r) (hmuS : ray.muS ≤ 1)
    (ground : Bool) :
    let u := (e.scale.encode s ray ground).map (ofReal : ℝ → PartialReal w)
    (ofExtents e).encodeArrays (s.map ofReal) (.single (ofReal ray.r : PartialReal w))
        (.single (ofReal ray.mu)) (.single (ofReal ray.muS)) (.single (ofReal ray.nu))
        (.single ground) =
      .ok [.single u.uNu, .single u.uMuS, .single u.uMu, .single u.uR] := by
  intro u
  have hcoords := encodeArrays_single_of_number number_whole_partial e (s.map ofReal)
    (ray.map (ofReal : ℝ → PartialReal w)) ground
  rwa [GridScale.encode_coe hs e hr hmuS] at hcoords

theorem raysAt_coe (hs : s.Proper) (hv : e.shape.contains v = true) :
    (ofExtents e).raysAt (s.map (ofReal : ℝ → PartialReal w)) (.single v) =
      .ok (.single ((e.scale.rayAt s v).1.map ofReal, (e.scale.rayAt s v).2)) := by
  simp only [raysAt, scale_ofExtents_of_number number_whole_partial, ok_bind, Tensor.map_single,
    GridScale.rayAt_coe hs hv, pure_eq_ok]

end GridSizes

end Grid

end Airlight
