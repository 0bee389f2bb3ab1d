import Airlight.Proofs.FirstExit
import Airlight.Proofs.VoxelRays
import Airlight.Scattering.Integral

/-!
# Limits that change nothing

Where light is scattered into a ray, the radius of the point and the cosines of the view and of the
sun there are limited to their ranges before they are used. Over the real numbers none of these
limits changes a value on the ray of a voxel: the path to the boundary stays in the shell, and the
cosines belong to angles that directions can have. For the sun this is an inequality about the three
angles of two directions with the vertical, so it rests on the limit that the map of voxels sets to
the cosine between view and sun.

## Main definitions

* `Shell.WithinLimits` — a point of a ray at which no limit changes a value.
* `ScatteringMedium.unlimitedIntegrand`, `Texture.Table.unlimitedBetween` — the integrand and the
  transmittance along a ray without limits.
-/

namespace Airlight

open Scalar Texture

/-! ## Integrands without limits -/

section

variable {α : Type} [Scalar α]

/-- The transmittance up to distance `d` along a ray, with the radius and the cosine at that
distance taken as they are. -/
def Texture.Table.unlimitedBetween (t : Table α 4) (s : Shell α) (r mu d : α) (ground : Bool) :
    Except (Failure α) (Spectrum α) := do
  let rD := Shell.radiusAlong r mu d
  let muD := (r * mu + d) / rD
  let farBack ← t.toTop s rD (-muD)
  let nearBack ← t.toTop s r (-mu)
  let near ← t.toTop s r mu
  let far ← t.toTop s rD muD
  let (whole, rest) := if ground then (farBack, nearBack) else (near, far)
  return Spectrum.combine (fun a b => smaller (ratioOrZero a b) 1.0) whole rest

/-- The integrands at distance `d` along a ray, with the radius and the sun cosine at that distance
taken as they are. -/
def ScatteringMedium.unlimitedIntegrand (m : ScatteringMedium α) (oracle : Oracle α) (ray : Ray α)
    (d : α) (ground : Bool) : Except (Failure α) (Scattered α) := do
  let rD := Shell.radiusAlong ray.r ray.mu d
  let muSD := (ray.r * ray.muS + d * ray.nu) / rD
  let back ← oracle.between ray.r ray.mu d ground
  let sun ← oracle.toSun rD muSD
  let altitude := rD - m.bottom
  let rayleigh := m.rayleighDensity.density altitude
  let mie := m.mieDensity.density altitude
  let transmittance := Spectrum.combine (· * ·) back sun
  return ⟨transmittance.each (· * rayleigh), transmittance.each (· * mie)⟩

end

namespace Shell

variable {s : Shell ℝ} {ray : Ray ℝ} {d : ℝ}

/-- The point at distance `d` of a ray lies in the shell, and the cosines of the view and of the sun
there are cosines. -/
structure WithinLimits (s : Shell ℝ) (ray : Ray ℝ) (d : ℝ) : Prop where
  radius_mem : radiusAlong ray.r ray.mu d ∈ Set.Icc s.bottom s.top
  viewCosine_mem : (ray.r * ray.mu + d) / radiusAlong ray.r ray.mu d ∈ Set.Icc (-1) 1
  sunCosine_mem : (ray.r * ray.muS + d * ray.nu) / radiusAlong ray.r ray.mu d ∈ Set.Icc (-1) 1

namespace WithinLimits

variable (h : s.WithinLimits ray d)

include h

theorem clampRadius_eq :
    s.clampRadius (radiusAlong ray.r ray.mu d) = radiusAlong ray.r ray.mu d :=
  clampRadius_eq_self h.radius_mem

theorem clampCosine_view_eq :
    clampCosine ((ray.r * ray.mu + d) / radiusAlong ray.r ray.mu d) =
      (ray.r * ray.mu + d) / radiusAlong ray.r ray.mu d :=
  clampCosine_eq_self h.viewCosine_mem.1 h.viewCosine_mem.2

theorem clampCosine_sun_eq :
    clampCosine ((ray.r * ray.muS + d * ray.nu) / radiusAlong ray.r ray.mu d) =
      (ray.r * ray.muS + d * ray.nu) / radiusAlong ray.r ray.mu d :=
  clampCosine_eq_self h.sunCosine_mem.1 h.sunCosine_mem.2

theorem between_eq (t : Table ℝ 4) (ground : Bool) :
    t.between s ray.r ray.mu d ground = t.unlimitedBetween s ray.r ray.mu d ground := by
  simp only [Table.between, Table.unlimitedBetween, h.clampRadius_eq, h.clampCosine_view_eq]

theorem integrand_eq {m : ScatteringMedium ℝ} (hm : m.toShell = s) (oracle : Oracle ℝ)
    (ground : Bool) :
    m.integrand oracle ray d ground = m.unlimitedIntegrand oracle ray d ground := by
  subst hm
  simp only [ScatteringMedium.integrand, ScatteringMedium.unlimitedIntegrand, h.clampRadius_eq,
    h.clampCosine_sun_eq]

end WithinLimits

end Shell

/-! ## Cosines along a ray -/

/-- With the cosines `mu` and `muS` to the vertical and `nu` to each other, no component of the
point at distance `d` is larger than its radius: the determinant of the scalar products is not
negative. -/
theorem sq_sunComponent_le {r mu muS nu d : ℝ} (hmu : mu ∈ Set.Icc (-1) 1)
    (hmuS : muS ∈ Set.Icc (-1) 1)
    (hnu : (nu - mu * muS) ^ 2 ≤ (1 - mu ^ 2) * (1 - muS ^ 2)) :
    (r * muS + d * nu) ^ 2 ≤ r ^ 2 + 2 * r * mu * d + d ^ 2 := by
  have hsin : 0 ≤ 1 - mu ^ 2 := by nlinarith [hmu.1, hmu.2]
  have hsinS : 0 ≤ 1 - muS ^ 2 := by nlinarith [hmuS.1, hmuS.2]
  set x := nu - mu * muS with hx
  -- the difference of both sides, in the direction of the vertical and across it
  have hsplit : r ^ 2 + 2 * r * mu * d + d ^ 2 - (r * muS + d * nu) ^ 2 =
      (1 - muS ^ 2) * (r + d * mu) ^ 2 - 2 * muS * (r + d * mu) * (d * x) +
        d ^ 2 * (1 - mu ^ 2 - x ^ 2) := by
    rw [hx]
    ring
  rw [← sub_nonneg, hsplit]
  rcases hsinS.eq_or_lt with hzero | hpos
  · -- the sun stands in the zenith or in the nadir
    have hx0 : x = 0 := by
      rw [← hzero, mul_zero] at hnu
      exact pow_eq_zero_iff two_ne_zero |>.mp (le_antisymm hnu (sq_nonneg x))
    rw [← hzero, hx0]
    nlinarith [mul_nonneg (sq_nonneg d) hsin]
  · refine nonneg_of_mul_nonneg_right ?_ hpos
    have hdet : 0 ≤ d ^ 2 * ((1 - mu ^ 2) * (1 - muS ^ 2) - x ^ 2) :=
      mul_nonneg (sq_nonneg d) (sub_nonneg.mpr hnu)
    have hsquare := sq_nonneg ((1 - muS ^ 2) * (r + d * mu) - muS * (d * x))
    linarith

/-- A component of a point divided by its radius is a cosine. -/
theorem div_sqrt_mem {x q : ℝ} (hq : x ^ 2 ≤ q) (hpos : 0 < √q) : x / √q ∈ Set.Icc (-1) 1 := by
  rw [Set.mem_Icc, ← abs_le, abs_div, abs_of_pos hpos, div_le_one hpos]
  exact Real.abs_le_sqrt hq

/-- On a path that stays in the shell nothing is limited, if the angles of the ray fit together. -/
theorem Shell.withinLimits_of_mem {s : Shell ℝ} (hs : s.Proper) {ray : Ray ℝ} {d : ℝ}
    (hmu : ray.mu ∈ Set.Icc (-1) 1) (hmuS : ray.muS ∈ Set.Icc (-1) 1)
    (hnu : |ray.nu - ray.mu * ray.muS| ≤ √((1 - ray.mu ^ 2) * (1 - ray.muS ^ 2)))
    (hradius : radiusAlong ray.r ray.mu d ∈ Set.Icc s.bottom s.top) : s.WithinLimits ray d := by
  have hpos : 0 < radiusAlong ray.r ray.mu d := hs.bottom_pos.trans_le hradius.1
  have hangles : (ray.nu - ray.mu * ray.muS) ^ 2 ≤ (1 - ray.mu ^ 2) * (1 - ray.muS ^ 2) := by
    have hsin : 0 ≤ (1 - ray.mu ^ 2) * (1 - ray.muS ^ 2) :=
      mul_nonneg (by nlinarith [hmu.1, hmu.2]) (by nlinarith [hmuS.1, hmuS.2])
    rw [← Real.sq_sqrt hsin, ← sq_abs]
    exact pow_le_pow_left₀ (abs_nonneg _) hnu 2
  have hview : (ray.r * ray.mu + d) ^ 2 ≤ ray.r ^ 2 + 2 * ray.r * ray.mu * d + d ^ 2 := by
    nlinarith [mul_nonneg (sq_nonneg ray.r) (by nlinarith [hmu.1, hmu.2] : 0 ≤ 1 - ray.mu ^ 2)]
  refine ⟨hradius, ?_, ?_⟩ <;> rw [radiusAlong_real] at hpos ⊢
  · exact div_sqrt_mem hview hpos
  · exact div_sqrt_mem (sq_sunComponent_le hmu hmuS hangles) hpos

/-! ## Rays of voxels -/

namespace Grid

namespace GridScale

variable {e : Extents} {v : Voxel} {s : LitShell ℝ} {d : ℝ}

/-- Up to the boundary that its flag names the ray of a voxel stays in the shell. -/
theorem radiusAlong_rayAt_mem (hv : e.shape.contains v = true) (hs : s.Proper) {ray : Ray ℝ}
    {ground : Bool} (hray : e.scale.rayAt s v = (ray, ground))
    (hd : d ∈ Set.Icc 0 (s.toShell.distanceToNearest ray.r ray.mu ground)) :
    Shell.radiusAlong ray.r ray.mu d ∈ Set.Icc s.bottom s.top := by
  have hflag := rayAt_ground e.scale s v
  rcases lt_or_ge v.y (e.muSize / 2 : ℕ) with hlow | hhigh
  · obtain ⟨hr, -, hmeets, -⟩ := rayAt_ground_spec hv hs hlow
    rw [decide_eq_true (uMu_lt_half_iff.mpr hlow)] at hflag
    rw [hray] at hflag hr hmeets
    cases hflag
    exact Shell.radiusAlong_mem_of_meetsGround hs.shell hr hmeets hd
  · obtain ⟨hr, -, hflat, -⟩ := rayAt_sky_spec hv hs hhigh
    rw [decide_eq_false fun h => absurd (uMu_lt_half_iff.mp h) (not_lt.mpr hhigh)] at hflag
    rw [hray] at hflag hr hflat
    cases hflag
    exact Shell.radiusAlong_mem_of_flat hs.shell hr hflat hd

/-- Up to that boundary no limit changes a value. -/
theorem withinLimits_rayAt (hv : e.shape.contains v = true) (hs : s.Proper) {ray : Ray ℝ}
    {ground : Bool} (hray : e.scale.rayAt s v = (ray, ground))
    (hd : d ∈ Set.Icc 0 (s.toShell.distanceToNearest ray.r ray.mu ground)) :
    s.toShell.WithinLimits ray d := by
  have hradius := radiusAlong_rayAt_mem hv hs hray hd
  have hcheck := checkAll_rayAt hv hs
  have hnu := rayAt_nu e.scale s v
  rw [hray] at hcheck hnu
  obtain ⟨-, hmu, hmuS, -⟩ := Ray.checkAll_singleton_iff.mp hcheck
  refine Shell.withinLimits_of_mem hs.shell hmu hmuS ?_ hradius
  rw [hnu]
  exact abs_limitNu_sub_le _ _ _

end GridScale

/-- The distances of the trapezoidal rule lie on the way to the boundary. -/
theorem quadrature_mem {length : ℝ} (hlength : 0 ≤ length) {n i : ℕ} (hn : 0 < n) (hi : i ≤ n) :
    (i : ℝ) * (length / n) ∈ Set.Icc 0 length := by
  have hn0 : (0 : ℝ) < n := by exact_mod_cast hn
  have hin : (i : ℝ) ≤ n := by exact_mod_cast hi
  refine ⟨by positivity, ?_⟩
  calc (i : ℝ) * (length / n) ≤ n * (length / n) := by gcongr
    _ = length := mul_div_cancel₀ length hn0.ne'

/-- In checked parameters no limit of the scattering integral changes a value on the ray of a voxel.
At every distance of the trapezoidal rule the point lies in the shell, its altitude is not negative
and the cosines of the view and of the sun are cosines; the integrands and the transmittance up to
there are those without limits. -/
theorem GridSizes.raysAt_withinLimits {p : Parameters ℝ} (hp : p.validate = .ok ()) (e : Extents)
    (v : Voxel) (hv : e.shape.contains v = true) :
    ∃ ray ground, (ofExtents e).raysAt p.toLitShell (.single v) = .ok (.single (ray, ground)) ∧
      ∀ n i : ℕ, 0 < n → i ≤ n →
        let d := (i : ℝ) * (p.shell.distanceToNearest ray.r ray.mu ground / n)
        let rD := Shell.radiusAlong ray.r ray.mu d
        let muD := (ray.r * ray.mu + d) / rD
        let muSD := (ray.r * ray.muS + d * ray.nu) / rD
        rD ∈ Set.Icc p.bottom p.top ∧ muD ∈ Set.Icc (-1) 1 ∧ muSD ∈ Set.Icc (-1) 1 ∧
          0 ≤ rD - p.bottom ∧
          p.shell.clampRadius rD = rD ∧ clampCosine muD = muD ∧ clampCosine muSD = muSD ∧
          (∀ t : Table ℝ 4, t.between p.shell ray.r ray.mu d ground =
            t.unlimitedBetween p.shell ray.r ray.mu d ground) ∧
          (∀ rayleigh mie oracle, (p.medium rayleigh mie).integrand oracle ray d ground =
            (p.medium rayleigh mie).unlimitedIntegrand oracle ray d ground) := by
  have hs := Parameters.proper_of_validate hp
  refine ⟨_, _, raysAt_single e p.toLitShell v, fun n i hn hi => ?_⟩
  have h : p.shell.WithinLimits (e.scale.rayAt p.toLitShell v).1 _ :=
    GridScale.withinLimits_rayAt hv hs rfl
      (quadrature_mem (Shell.distanceToNearest_nonneg _ _ _ _) hn hi)
  exact ⟨h.radius_mem, h.viewCosine_mem, h.sunCosine_mem, sub_nonneg.mpr h.radius_mem.1,
    h.clampRadius_eq, h.clampCosine_view_eq, h.clampCosine_sun_eq, fun t => h.between_eq t _,
    fun _ _ oracle => h.integrand_eq rfl oracle _⟩

/-- Half way to its boundary the ray of the last voxel of the standard grid lies in the shell of the
Earth. -/
theorem GridSizes.raysAt_withinLimits_last :
    ∃ ray ground, (ofExtents .standard).raysAt (Parameters.earth : Parameters ℝ).toLitShell
        (.single ⟨255, 127, 31⟩) = .ok (.single (ray, ground)) ∧
      let p : Parameters ℝ := .earth
      let d := ((1 : ℕ) : ℝ) * (p.shell.distanceToNearest ray.r ray.mu ground / (2 : ℕ))
      p.shell.clampRadius (Shell.radiusAlong ray.r ray.mu d) = Shell.radiusAlong ray.r ray.mu d ∧
        0 ≤ Shell.radiusAlong ray.r ray.mu d - p.bottom := by
  obtain ⟨ray, ground, hray, hlimits⟩ :=
    raysAt_withinLimits Parameters.validate_earth .standard ⟨255, 127, 31⟩ (by decide)
  obtain ⟨-, -, -, haltitude, hradius, -⟩ := hlimits 2 1 (by decide) (by decide)
  exact ⟨ray, ground, hray, hradius, haltitude⟩

end Grid

end Airlight
