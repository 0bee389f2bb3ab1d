import Airlight.Proofs.Invariants
import Airlight.Proofs.Tensors
import Airlight.Proofs.VoxelOrder
import Airlight.Grid.RayArrays

/-!
# Rays at voxel centres

Over the real numbers every voxel of a grid stands for a ray that can exist: its parameters lie in
their ranges, the three angles fit together, and the flag of the voxel agrees with the geometry. The
view cosine is derived from a distance, and that distance is the one at which the ray leaves the
shell.
-/

namespace Airlight

open Scalar Texture Grid

namespace Shell

variable {s : Shell ℝ} {r d u size : ℝ}

/-- A coordinate that stands for a fraction belongs to a radius of the shell, the first one to the
ground. -/
theorem exists_radiusAt (hs : s.Proper) (hu : unitOfCoord u size ∈ Set.Icc (0 : ℝ) 1) :
    ∃ r ∈ Set.Icc s.bottom s.top, s.radiusAt size u = (r, s.horizonDistance r) ∧
      (unitOfCoord u size = 0 → r = s.bottom) := by
  obtain ⟨r, hr, hrho⟩ := exists_horizonDistance_eq hs hu
  refine ⟨r, hr, radiusAt_eq hs hr hrho.symm, fun hzero => ?_⟩
  have hb := hs.bottom_pos
  have hsq := sq_horizonDistance hs hr.1
  rw [hrho, hzero, mul_zero] at hsq
  nlinarith [hr.1]

/-- Between the altitude and the way to the horizon every distance is the length of a ray that hits
the ground. -/
theorem groundCosine_spec (hs : s.Proper) (hr : s.bottom ≤ r)
    (hd : d ∈ Set.Icc (r - s.bottom) (s.horizonDistance r)) :
    s.groundCosine r d ∈ Set.Icc (-1) 1 ∧ s.meetsGround r (s.groundCosine r d) = true ∧
      s.distanceToBottom r (s.groundCosine r d) = d := by
  have hb := hs.bottom_pos
  have hr0 : 0 < r := hb.trans_le hr
  have hrho := sq_horizonDistance hs hr
  have hrho0 := horizonDistance_nonneg s r
  rcases eq_or_ne d 0 with hzero | hne
  · have hbottom : r = s.bottom := le_antisymm (by linarith [hd.1]) hr
    have hcos : s.groundCosine r d = -1 := if_pos hzero
    rw [hcos, hbottom, hzero]
    refine ⟨by norm_num, (meetsGround_iff _ _ _).mpr ⟨by norm_num, ?_⟩,
      distanceToBottom_bottom (by norm_num) hb.le⟩
    nlinarith
  · have hdpos : 0 < d := lt_of_le_of_ne (by linarith [hd.1]) hne.symm
    have hreach := (groundCosine_eq_iff hs hr hne).mp rfl
    set mu := s.groundCosine r d
    -- the two roots of the ray's quadratic are `d` and `ρ² / d`
    have hdown : d + r * mu ≤ 0 := by nlinarith [hd.2]
    have hneg : mu < 0 := by nlinarith
    have hsteep : -1 ≤ mu := by
      have hnear : r - d ≤ s.bottom := by linarith [hd.1]
      have hbelow : 0 < r - d := by linarith [hd.2, horizonDistance_lt_self hs hr]
      have : 0 ≤ 2 * r * d * (mu + 1) := by nlinarith
      nlinarith [mul_pos hr0 hdpos]
    have hdisc : r ^ 2 - s.bottom ^ 2 ≤ (r * mu) ^ 2 := by
      have hroot : 2 * d * (r * mu) = -(s.horizonDistance r ^ 2 + d ^ 2) := by linarith
      have hsq : (2 * d) ^ 2 * s.horizonDistance r ^ 2 ≤ (2 * d) ^ 2 * (r * mu) ^ 2 := by
        rw [← mul_pow, ← mul_pow, hroot]
        nlinarith [sq_nonneg (s.horizonDistance r ^ 2 - d ^ 2)]
      rw [← hrho]
      exact le_of_mul_le_mul_left hsq (by positivity)
    exact ⟨⟨hsteep, by linarith⟩, (meetsGround_iff _ _ _).mpr ⟨hneg, hdisc⟩,
      distanceToBottom_eq hdpos.le hreach hdown⟩

/-- Between the vertical way and the way over the horizon every distance is the length of a ray that
reaches the top without falling steeper than the ray to the horizon. -/
theorem skyCosine_spec (hs : s.Proper) (hr : r ∈ Set.Icc s.bottom s.top)
    (hd : d ∈ Set.Icc (s.top - r) (s.horizonDistance r + s.horizonLength)) :
    s.skyCosine r d ∈ Set.Icc (-1) 1 ∧ -s.horizonDistance r ≤ r * s.skyCosine r d ∧
      s.distanceToTop r (s.skyCosine r d) = d := by
  have hb := hs.bottom_pos
  have hr0 : 0 < r := hb.trans_le hr.1
  have hrho := sq_horizonDistance hs hr.1
  have hrho0 := horizonDistance_nonneg s r
  have hlen := sq_horizonLength hs
  have hle := horizonDistance_le_horizonLength hs hr
  rcases eq_or_ne d 0 with hzero | hne
  · have htop : r = s.top := le_antisymm hr.2 (by linarith [hd.1])
    have hcos : s.skyCosine r d = 1 := if_pos hzero
    rw [hcos, htop, hzero]
    refine ⟨by norm_num, ?_, distanceToTop_top (by norm_num) hs.top_pos.le⟩
    linarith [horizonDistance_nonneg s s.top, hs.top_pos]
  · have hdpos : 0 < d := lt_of_le_of_ne (by linarith [hd.1, hr.2]) hne.symm
    have hreach := (skyCosine_eq_iff hs hr.1 hne).mp rfl
    set mu := s.skyCosine r d
    have hup : 0 ≤ d + r * mu := by nlinarith
    have hrise : mu ≤ 1 := by
      have : 0 ≤ 2 * r * d * (1 - mu) := by nlinarith [hd.1, hs.top_pos]
      nlinarith [mul_pos hr0 hdpos]
    have hflat : -s.horizonDistance r ≤ r * mu := by
      have hfar : |d - s.horizonDistance r| ≤ s.horizonLength :=
        abs_le.mpr ⟨by linarith [hd.1, hr.2], by linarith [hd.2]⟩
      have hsq := sq_le_sq' (abs_le.mp hfar).1 (abs_le.mp hfar).2
      have : 0 ≤ 2 * d * (r * mu + s.horizonDistance r) := by nlinarith
      nlinarith
    have hsteep : -1 ≤ mu := by nlinarith [horizonDistance_lt_self hs hr.1]
    exact ⟨⟨hsteep, hrise⟩, hflat, distanceToTop_eq hdpos.le hreach hup⟩

/-- In the lower half the coordinate of a row yields a ray that hits the ground, at the distance
from which its view cosine is computed. -/
theorem viewCosineAt_ground_spec {half rSize uR : ℝ} (hs : s.Proper)
    (hr : r ∈ Set.Icc s.bottom s.top) (hrad : s.radiusAt rSize uR = (r, s.horizonDistance r))
    (hlt : u < 1 / 2) (hunit : unitOfCoord (1 - 2 * u) half ∈ Set.Icc (0 : ℝ) 1) :
    let mu := s.viewCosineAt half rSize u uR
    let d := s.viewDistanceAt half rSize u uR
    mu ∈ Set.Icc (-1) 1 ∧ s.meetsGround r mu = true ∧ s.distanceToBottom r mu = d ∧
      (r = s.bottom → d = 0) := by
  have hd : s.viewDistanceAt half rSize u uR = _ := viewDistanceAt_ground hrad hlt
  have hmem : s.viewDistanceAt half rSize u uR ∈ Set.Icc (r - s.bottom) (s.horizonDistance r) := by
    rw [hd]
    exact between_of_fraction (altitude_le_horizonDistance hs hr.1) hunit
  obtain ⟨hmu, hmeets, hdist⟩ := groundCosine_spec hs hr.1 hmem
  simp only [viewCosineAt_ground hrad hlt rfl, clampCosine_eq_self hmu.1 hmu.2]
  refine ⟨hmu, hmeets, hdist, fun hbottom => ?_⟩
  rw [hd, hbottom, horizonDistance_bottom]
  ring

/-- In the upper half the coordinate of a row yields a ray that stays above the ground, with the
distance to the top from which its view cosine is computed. -/
theorem viewCosineAt_sky_spec {half rSize uR : ℝ} (hs : s.Proper)
    (hr : r ∈ Set.Icc s.bottom s.top) (hrad : s.radiusAt rSize uR = (r, s.horizonDistance r))
    (hle : 1 / 2 ≤ u) (hunit : unitOfCoord (2 * u - 1) half ∈ Set.Icc (0 : ℝ) 1) :
    let mu := s.viewCosineAt half rSize u uR
    mu ∈ Set.Icc (-1) 1 ∧ -s.horizonDistance r ≤ r * mu ∧
      s.distanceToTop r mu = s.viewDistanceAt half rSize u uR := by
  have hmem : s.viewDistanceAt half rSize u uR ∈
      Set.Icc (s.top - r) (s.horizonDistance r + s.horizonLength) := by
    rw [viewDistanceAt_sky hrad hle]
    refine between_of_fraction ?_ hunit
    have := thickness_lt_horizonLength hs
    have := horizonDistance_nonneg s r
    linarith [hr.1]
  obtain ⟨hmu, hflat, hdist⟩ := skyCosine_spec hs hr hmem
  simp only [viewCosineAt_sky hrad hle rfl, clampCosine_eq_self hmu.1 hmu.2]
  exact ⟨hmu, hflat, hdist⟩

end Shell

/-- A coordinate that stands for a fraction yields a sun cosine in the range of the grid, with the
fraction from which it is computed. -/
theorem LitShell.sunCosineAt_spec {s : LitShell ℝ} {u size : ℝ} (hs : s.Proper)
    (hu : unitOfCoord u size ∈ Set.Icc (0 : ℝ) 1) :
    s.sunCosineAt size u ∈ Set.Icc s.muSMin 1 ∧
      s.sunFraction (s.sunCosineAt size u) =
        min ((s.sunFraction s.muSMin - unitOfCoord u size * s.sunFraction s.muSMin) /
          (1 + unitOfCoord u size * s.sunFraction s.muSMin)) (s.sunFraction s.muSMin) := by
  have hb := hs.shell.bottom_pos
  have ht := hs.shell.bottom_lt_top
  have hspan := sunSpan_pos hs
  have ha := fraction_mem_of_unit hu (sunFraction_muSMin_pos hs)
  rw [sunCosineAt_real s rfl rfl rfl]
  set a := min ((s.sunFraction s.muSMin - unitOfCoord u size * s.sunFraction s.muSMin) /
    (1 + unitOfCoord u size * s.sunFraction s.muSMin)) (s.sunFraction s.muSMin)
  set d := s.top - s.bottom + a * (s.toShell.horizonLength - (s.top - s.bottom)) with hd
  have hnear : s.top - s.bottom ≤ d := by
    rw [hd]
    linarith [mul_nonneg ha.1 hspan.le]
  have hfar : d ≤ s.sunDistance s.muSMin := by
    rw [sunDistance_eq hs, hd]
    linarith [mul_le_mul_of_nonneg_right ha.2 hspan.le]
  have hdpos : 0 < d := by linarith
  have hreach := (Shell.skyCosine_eq_iff hs.shell le_rfl hdpos.ne').mp rfl
  set m := s.toShell.skyCosine s.bottom d
  have hdist : s.sunDistance m = d :=
    Shell.distanceToTop_eq hdpos.le hreach (by nlinarith)
  -- the sun cosine falls with the distance, so the limits of one are those of the other
  have hlo : s.muSMin ≤ m := by
    rwa [← (sunDistance_strictAnti hs).le_iff_ge, hdist]
  have hhi : m ≤ 1 := by
    rwa [← (sunDistance_strictAnti hs).le_iff_ge, hdist, sunDistance_one hs]
  have hfraction : s.sunFraction m = a := by
    rw [sunFraction_real, hdist, hd, add_sub_cancel_left, mul_div_cancel_right₀ _ hspan.ne']
  rw [clampCosine_eq_self (hs.neg_one_le_muSMin.trans hlo) hhi]
  exact ⟨⟨hlo, hhi⟩, hfraction⟩

/-- The check of ray parameters passes for a ray exactly if its parameters lie in their ranges. -/
theorem Ray.checkAll_singleton_iff {s : Shell ℝ} {ray : Ray ℝ} :
    Ray.checkAll s #[ray] = .ok () ↔
      ray.r ∈ Set.Icc s.bottom s.top ∧ ray.mu ∈ Set.Icc (-1) 1 ∧ ray.muS ∈ Set.Icc (-1) 1 ∧
        ray.nu ∈ Set.Icc (-1) 1 := by
  have hwithin : ∀ lo hi x : ℝ, allWithin lo hi #[x] = true ↔ x ∈ Set.Icc lo hi := by
    intro lo hi x
    simp [allWithin]
  have hone : ∀ x : ℝ, allWithin (-1.0) 1.0 #[x] = true ↔ x ∈ Set.Icc (-1) 1 := by
    intro x
    norm_num [hwithin]
  simp only [checkAll, checkRanges, List.map_toArray, List.map_cons, List.map_nil]
  rw [← hwithin, ← hone, ← hone, ← hone]
  split_ifs <;> simp_all

namespace Grid

variable {mu muS nu : ℝ}

/-- The cosine between view and sun is limited to those of two directions with the given angles. -/
theorem abs_limitNu_sub_le (mu muS nu : ℝ) :
    |limitNu mu muS nu - mu * muS| ≤ √((1 - mu ^ 2) * (1 - muS ^ 2)) := by
  have hspread : √((1.0 - mu * mu) * (1.0 - muS * muS)) = √((1 - mu ^ 2) * (1 - muS ^ 2)) := by
    norm_num [sq]
  have h0 := Real.sqrt_nonneg ((1 - mu ^ 2) * (1 - muS ^ 2))
  simp only [limitNu, sqrt_real, hspread]
  rw [abs_le]
  set spread := √((1 - mu ^ 2) * (1 - muS ^ 2))
  have hle : mu * muS - spread ≤ mu * muS + spread := by linarith
  exact ⟨by linarith [le_clamp nu hle],
    by linarith [clamp_le nu (mu * muS - spread) (mu * muS + spread)]⟩

/-- The cosines that two directions with given angles can have are cosines. -/
theorem limitNu_mem (hmu : mu ∈ Set.Icc (-1) 1) (hmuS : muS ∈ Set.Icc (-1) 1) (nu : ℝ) :
    limitNu mu muS nu ∈ Set.Icc (-1) 1 := by
  have hlimit := abs_le.mp (abs_limitNu_sub_le mu muS nu)
  have hprod : |mu * muS| ≤ 1 := by
    rw [abs_mul]
    exact mul_le_one₀ (abs_le.mpr hmu) (abs_nonneg _) (abs_le.mpr hmuS)
  have hspread : √((1 - mu ^ 2) * (1 - muS ^ 2)) ≤ 1 - |mu * muS| := by
    refine Real.sqrt_le_iff.mpr ⟨by linarith, ?_⟩
    rcases abs_cases (mu * muS) with ⟨h, -⟩ | ⟨h, -⟩ <;> rw [h]
    · nlinarith [sq_nonneg (mu - muS)]
    · nlinarith [sq_nonneg (mu + muS)]
  exact ⟨by linarith [neg_abs_le (mu * muS)], by linarith [le_abs_self (mu * muS)]⟩

variable {e : Extents} {v : Voxel}

/-- Rows, columns and slices are counted from texel centre to texel centre. -/
theorem fraction_of_index {i n : ℕ} (hn : (1 : ℝ) < n) (hi : i < n) :
    unitOfCoord (((i : ℝ) + 1 / 2) / n) (n : ℝ) ∈ Set.Icc (0 : ℝ) 1 := by
  have hlast : (i : ℝ) ≤ n - 1 := by
    have : (i : ℝ) + 1 ≤ n := by exact_mod_cast hi
    linarith
  rw [unitOfCoord_centre hn]
  exact ⟨div_nonneg i.cast_nonneg (by linarith), div_le_one_of_le₀ hlast (by linarith)⟩

/-- The column of the view-sun cosine that a position along the width falls into. -/
theorem floor_centre {k n : ℕ} (hn : 0 < n) : ⌊((k : ℝ) + 1 / 2) / n⌋ = ((k / n : ℕ) : ℤ) := by
  have hn0 : (0 : ℝ) < n := by exact_mod_cast hn
  have hsplit : (k : ℝ) = n * (k / n : ℕ) + (k % n : ℕ) := by
    exact_mod_cast (Nat.div_add_mod k n).symm
  have hmod : ((k % n : ℕ) : ℝ) + 1 ≤ n := by exact_mod_cast Nat.mod_lt k hn
  rw [Int.floor_eq_iff, le_div_iff₀ hn0, div_lt_iff₀ hn0, Int.cast_natCast, hsplit]
  have : (0 : ℝ) ≤ (k % n : ℕ) := Nat.cast_nonneg _
  constructor <;> nlinarith

/-- The column of the sun cosine that a position along the width falls into. -/
theorem floorMod_centre {k n : ℕ} (hn : 0 < n) :
    floorMod ((k : ℝ) + 1 / 2) n = ((k % n : ℕ) : ℝ) + 1 / 2 := by
  have hsplit : (k : ℝ) = n * (k / n : ℕ) + (k % n : ℕ) := by
    exact_mod_cast (Nat.div_add_mod k n).symm
  rw [floorMod_real, floor_centre hn, Int.cast_natCast]
  linarith

/-- Sizes that have numbers enter the maps by these. -/
theorem GridSizes.scale_ofExtents_of_number {α : Type} [Scalar α]
    (hnumber : ∀ n : ℕ, (Quantity.whole n : Quantity α).number = .ok (n : α)) (e : Extents) :
    (ofExtents e).scale = .ok (e.scale : GridScale α) := by
  have hsteps : (Quantity.whole (e.nuSize : ℤ) : Quantity α).pred.number =
      .ok ((e.nuSize - 1 : ℕ) : α) := by
    have hnu : ((e.nuSize : ℤ) - 1 : ℤ) = ((e.nuSize - 1 : ℕ) : ℤ) := by
      have := e.two_le_nuSize
      omega
    rw [Quantity.pred, hnu, hnumber]
  have hhalf : (Quantity.whole (e.muSize : ℤ) : Quantity α).half.number =
      .ok ((e.muSize / 2 : ℕ) : α) := hnumber (e.muSize / 2)
  simp only [scale, ofExtents, hsteps, hhalf, hnumber, ok_bind, pure_eq_ok, Extents.scale]

/-- The sizes of extents enter the maps by their own numbers. -/
theorem GridSizes.scale_ofExtents (e : Extents) :
    (ofExtents e).scale = .ok (e.scale : GridScale ℝ) :=
  scale_ofExtents_of_number (fun _ => rfl) e

theorem GridSizes.raysAt_single (e : Extents) (s : LitShell ℝ) (v : Voxel) :
    (ofExtents e).raysAt s (.single v) =
      .ok (.single ((e.scale.rayAt s v).1, (e.scale.rayAt s v).2)) := by
  simp only [raysAt, scale_ofExtents, ok_bind, Tensor.map_single, pure_eq_ok]

namespace GridScale

theorem centre_uR (e : Extents) (v : Voxel) :
    (e.scale.centre v : Coords ℝ).uR = ((v.z : ℝ) + 1 / 2) / e.rSize := by
  norm_num [centre]

theorem centre_uMu (e : Extents) (v : Voxel) :
    (e.scale.centre v : Coords ℝ).uMu = ((v.y : ℝ) + 1 / 2) / (2 * (e.muSize / 2 : ℕ)) := by
  norm_num [centre]

theorem centre_uMuS (e : Extents) (v : Voxel) :
    (e.scale.centre v : Coords ℝ).uMuS = floorMod ((v.x : ℝ) + 1 / 2) e.muSSize / e.muSSize := by
  norm_num [centre]

theorem rayAt_r (g : GridScale ℝ) (s : LitShell ℝ) (v : Voxel) :
    (g.rayAt s v).1.r = (s.toShell.radiusAt g.r (g.centre v).uR).1 := rfl

theorem rayAt_mu (g : GridScale ℝ) (s : LitShell ℝ) (v : Voxel) :
    (g.rayAt s v).1.mu =
      s.toShell.viewCosineAt g.halfMu g.r (g.centre v).uMu (g.centre v).uR := rfl

theorem rayAt_muS (g : GridScale ℝ) (s : LitShell ℝ) (v : Voxel) :
    (g.rayAt s v).1.muS = s.sunCosineAt g.muS (g.centre v).uMuS := rfl

theorem rayAt_nu (g : GridScale ℝ) (s : LitShell ℝ) (v : Voxel) :
    (g.rayAt s v).1.nu =
      limitNu (g.rayAt s v).1.mu (g.rayAt s v).1.muS (nuAt (g.centre v).uNu) := rfl

theorem rayAt_ground (g : GridScale ℝ) (s : LitShell ℝ) (v : Voxel) :
    (g.rayAt s v).2 = decide ((g.centre v).uMu < 1 / 2) := by
  have h : (g.rayAt s v).2 = decide ((g.centre v).uMu < 0.5) := rfl
  rw [h]
  norm_num

/-! ## Fractions of rows, columns and slices -/

/-- The lower half of the rows has the coordinates below one half. -/
theorem uMu_lt_half_iff :
    (e.scale.centre v : Coords ℝ).uMu < 1 / 2 ↔ v.y < (e.muSize / 2 : ℕ) := by
  have hhalf := e.one_lt_halfMu
  rw [centre_uMu, div_lt_iff₀ (by linarith)]
  generalize e.muSize / 2 = half at *
  constructor
  · intro h
    have : (v.y : ℝ) < half := by linarith
    exact_mod_cast this
  · intro h
    have : (v.y : ℝ) + 1 ≤ half := by exact_mod_cast h
    linarith

variable (hv : e.shape.contains v = true)

include hv

theorem unit_uR_mem : unitOfCoord (e.scale.centre v : Coords ℝ).uR (e.rSize : ℝ) ∈
    Set.Icc (0 : ℝ) 1 := by
  obtain ⟨-, -, hz, hlt⟩ := contains_iff.mp hv
  lift v.z to ℕ using hz with i hi
  rw [centre_uR, ← hi, Int.cast_natCast]
  exact fraction_of_index e.one_lt_rSize (by exact_mod_cast hlt)

theorem unit_uMuS_mem : unitOfCoord (e.scale.centre v : Coords ℝ).uMuS (e.muSSize : ℝ) ∈
    Set.Icc (0 : ℝ) 1 := by
  obtain ⟨⟨hx, -⟩, -⟩ := contains_iff.mp hv
  have hpos : 0 < e.muSSize := by have := e.two_le_muSSize; omega
  lift v.x to ℕ using hx with k hk
  rw [centre_uMuS, ← hk, Int.cast_natCast, floorMod_centre hpos]
  exact fraction_of_index e.one_lt_muSSize (Nat.mod_lt k hpos)

/-- The rows of the lower half are counted downwards from the horizon. -/
theorem unit_ground_mem (hlow : v.y < (e.muSize / 2 : ℕ)) :
    unitOfCoord (1 - 2 * (e.scale.centre v : Coords ℝ).uMu) ((e.muSize / 2 : ℕ) : ℝ) ∈
      Set.Icc (0 : ℝ) 1 := by
  obtain ⟨-, ⟨hy, -⟩, -⟩ := contains_iff.mp hv
  have hhalf := e.one_lt_halfMu
  obtain ⟨i, hi⟩ := Int.eq_ofNat_of_zero_le (by omega : 0 ≤ ((e.muSize / 2 : ℕ) : ℤ) - 1 - v.y)
  have hi_lt : i < e.muSize / 2 := by omega
  rw [centre_uMu]
  generalize e.muSize / 2 = half at *
  have hrow : 1 - 2 * (((v.y : ℝ) + 1 / 2) / (2 * half)) = ((i : ℝ) + 1 / 2) / half := by
    have : (half : ℝ) - 1 - v.y = i := by exact_mod_cast hi
    rw [← this]
    field_simp
    ring
  rw [hrow]
  exact fraction_of_index hhalf hi_lt

/-- The rows of the upper half are counted upwards from the horizon. -/
theorem unit_sky_mem (hhigh : (e.muSize / 2 : ℕ) ≤ v.y) :
    unitOfCoord (2 * (e.scale.centre v : Coords ℝ).uMu - 1) ((e.muSize / 2 : ℕ) : ℝ) ∈
      Set.Icc (0 : ℝ) 1 := by
  obtain ⟨-, ⟨-, hlt⟩, -⟩ := contains_iff.mp hv
  have hhalf := e.one_lt_halfMu
  have heven := e.even_muSize
  obtain ⟨i, hi⟩ := Int.eq_ofNat_of_zero_le (by omega : 0 ≤ v.y - ((e.muSize / 2 : ℕ) : ℤ))
  have hi_lt : i < e.muSize / 2 := by omega
  rw [centre_uMu]
  generalize e.muSize / 2 = half at *
  have hrow : 2 * (((v.y : ℝ) + 1 / 2) / (2 * half)) - 1 = ((i : ℝ) + 1 / 2) / half := by
    have : (v.y : ℝ) - half = i := by exact_mod_cast hi
    rw [← this]
    field_simp
    ring
  rw [hrow]
  exact fraction_of_index hhalf hi_lt

/-! ## Consistency -/

variable {s : LitShell ℝ}

/-- The rays of the lower half of the rows hit the ground at the distance from which their view
cosine is computed. -/
theorem rayAt_ground_spec (hs : s.Proper) (hlow : v.y < (e.muSize / 2 : ℕ)) :
    let ray := (e.scale.rayAt s v).1
    let c : Coords ℝ := e.scale.centre v
    let d := s.toShell.viewDistanceAt (e.muSize / 2 : ℕ) e.rSize c.uMu c.uR
    ray.r ∈ Set.Icc s.bottom s.top ∧ ray.mu ∈ Set.Icc (-1) 1 ∧
      s.toShell.meetsGround ray.r ray.mu = true ∧
      s.toShell.distanceToBottom ray.r ray.mu = d ∧ (v.z = 0 → d = 0) := by
  obtain ⟨r, hr, hrad, hfirst⟩ := Shell.exists_radiusAt hs.shell (unit_uR_mem hv)
  obtain ⟨hmu, hmeets, hdist, hzero⟩ := Shell.viewCosineAt_ground_spec hs.shell hr hrad
    (uMu_lt_half_iff.mpr hlow) (unit_ground_mem hv hlow)
  simp only [rayAt_r, rayAt_mu, Extents.scale_r, Extents.scale_halfMu, hrad]
  refine ⟨hr, hmu, hmeets, hdist, fun hz => hzero (hfirst ?_)⟩
  rw [centre_uR, hz, unitOfCoord_centre e.one_lt_rSize, Int.cast_zero, zero_div]

/-- The rays of the upper half of the rows do not fall steeper than the ray to the horizon and have
the distance to the top from which their view cosine is computed. -/
theorem rayAt_sky_spec (hs : s.Proper) (hhigh : (e.muSize / 2 : ℕ) ≤ v.y) :
    let ray := (e.scale.rayAt s v).1
    let c : Coords ℝ := e.scale.centre v
    ray.r ∈ Set.Icc s.bottom s.top ∧ ray.mu ∈ Set.Icc (-1) 1 ∧
      -s.toShell.horizonDistance ray.r ≤ ray.r * ray.mu ∧
      s.toShell.distanceToTop ray.r ray.mu =
        s.toShell.viewDistanceAt (e.muSize / 2 : ℕ) e.rSize c.uMu c.uR := by
  obtain ⟨r, hr, hrad, -⟩ := Shell.exists_radiusAt hs.shell (unit_uR_mem hv)
  obtain ⟨hmu, hflat, hdist⟩ := Shell.viewCosineAt_sky_spec hs.shell hr hrad
    (not_lt.mp fun h => absurd (uMu_lt_half_iff.mp h) (not_lt.mpr hhigh)) (unit_sky_mem hv hhigh)
  simp only [rayAt_r, rayAt_mu, Extents.scale_r, Extents.scale_halfMu, hrad]
  exact ⟨hr, hmu, hflat, hdist⟩

theorem rayAt_muS_mem (hs : s.Proper) : (e.scale.rayAt s v).1.muS ∈ Set.Icc s.muSMin 1 := by
  rw [rayAt_muS]
  exact (LitShell.sunCosineAt_spec hs (unit_uMuS_mem hv)).1

/-- The ray of a voxel passes the check of ray parameters. -/
theorem checkAll_rayAt (hs : s.Proper) :
    Ray.checkAll s.toShell #[(e.scale.rayAt s v).1] = .ok () := by
  have hmuS := rayAt_muS_mem hv hs
  have hsun : (e.scale.rayAt s v).1.muS ∈ Set.Icc (-1) 1 :=
    ⟨hs.neg_one_le_muSMin.trans hmuS.1, hmuS.2⟩
  have hray : (e.scale.rayAt s v).1.r ∈ Set.Icc s.bottom s.top ∧
      (e.scale.rayAt s v).1.mu ∈ Set.Icc (-1) 1 := by
    rcases lt_or_ge v.y (e.muSize / 2 : ℕ) with hlow | hhigh
    · obtain ⟨hr, hmu, -⟩ := rayAt_ground_spec hv hs hlow
      exact ⟨hr, hmu⟩
    · obtain ⟨hr, hmu, -⟩ := rayAt_sky_spec hv hs hhigh
      exact ⟨hr, hmu⟩
  refine Ray.checkAll_singleton_iff.mpr ⟨hray.1, hray.2, hsun, ?_⟩
  rw [rayAt_nu]
  exact limitNu_mem hray.2 hsun _

end GridScale

/-- In checked parameters every voxel of a grid is mapped to a ray that can exist. The ray passes
the check of ray parameters, its sun stands in the range of the grid and its angles fit together.
The flag tells the lower half of the rows from the upper one: rays of the lower half hit the ground,
rays of the upper half never come below it. The distance to the boundary that the flag names is the
one from which the view cosine was computed, and it is zero for rays that start on the ground and
hit it. -/
theorem GridSizes.raysAt_consistent {p : Parameters ℝ} (hp : p.validate = .ok ()) (e : Extents)
    (v : Voxel) (hv : e.shape.contains v = true) :
    ∃ ray ground, (ofExtents e).raysAt p.toLitShell (.single v) = .ok (.single (ray, ground)) ∧
      Ray.checkAll p.shell #[ray] = .ok () ∧
      p.muSMin ≤ ray.muS ∧
      |ray.nu - ray.mu * ray.muS| ≤ √((1 - ray.mu ^ 2) * (1 - ray.muS ^ 2)) ∧
      ground = decide (v.y < e.muSize / 2) ∧
      (ground = true → p.shell.meetsGround ray.r ray.mu = true) ∧
      (ground = false → ∀ t, 0 ≤ t → p.bottom ≤ Shell.radiusAlong ray.r ray.mu t) ∧
      let c : Coords ℝ := e.scale.centre v
      let d := p.shell.viewDistanceAt (e.muSize / 2 : ℕ) e.rSize c.uMu c.uR
      p.shell.distanceToNearest ray.r ray.mu ground = d ∧ (ground = true → v.z = 0 → d = 0) := by
  have hs := Parameters.proper_of_validate hp
  have hflag := GridScale.rayAt_ground e.scale p.toLitShell v
  refine ⟨_, _, raysAt_single e p.toLitShell v, GridScale.checkAll_rayAt hv hs,
    (GridScale.rayAt_muS_mem hv hs).1, abs_limitNu_sub_le _ _ _, ?_⟩
  rcases lt_or_ge v.y (e.muSize / 2 : ℕ) with hlow | hhigh
  · obtain ⟨-, -, hmeets, hdist, hzero⟩ := GridScale.rayAt_ground_spec hv hs hlow
    rw [decide_eq_true (GridScale.uMu_lt_half_iff.mpr hlow)] at hflag
    simp only [hflag]
    exact ⟨(decide_eq_true hlow).symm, fun _ => hmeets, (fun h => nomatch h), hdist, fun _ => hzero⟩
  · obtain ⟨hr, -, hflat, hdist⟩ := GridScale.rayAt_sky_spec hv hs hhigh
    rw [decide_eq_false fun h => absurd (GridScale.uMu_lt_half_iff.mp h) (not_lt.mpr hhigh)]
      at hflag
    simp only [hflag]
    exact ⟨(decide_eq_false (not_lt.mpr hhigh)).symm, (fun h => nomatch h),
      fun _ t ht => Shell.bottom_le_radiusAlong hs.shell hr.1 hflat ht, hdist,
      (fun h => nomatch h)⟩

/-- The first voxel of the standard grid stands on the ground and looks at it. -/
theorem GridSizes.raysAt_consistent_first :
    ∃ ray, (ofExtents .standard).raysAt (Parameters.earth : Parameters ℝ).toLitShell
        (.single ⟨0, 0, 0⟩) = .ok (.single (ray, true)) ∧
      Ray.checkAll (Parameters.earth : Parameters ℝ).shell #[ray] = .ok () ∧
      (Parameters.earth : Parameters ℝ).shell.distanceToNearest ray.r ray.mu true = 0 := by
  obtain ⟨ray, ground, hray, hcheck, -, -, hground, -, -, hdist, hzero⟩ :=
    raysAt_consistent Parameters.validate_earth .standard ⟨0, 0, 0⟩ (by decide)
  obtain rfl : ground = true := hground.trans (by decide)
  exact ⟨ray, hray, hcheck, hdist.trans (hzero rfl rfl)⟩

end Grid

end Airlight
