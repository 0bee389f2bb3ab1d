import Airlight.Proofs.RayCoordinates
import Airlight.Transmittance.Table

/-!
# Geometry in another length unit

In a length unit `k` times larger every length is divided by `k`. Distances follow, while the
cosines and the coordinates of a ray, its flags and the texels of the tables stay.

## Main definitions

* `Shell.inUnit`, `LitShell.inUnit`, `SunlitShell.inUnit` — shells in another length unit.
* `Ray.inUnit` — a ray in another length unit.
-/

namespace Airlight

open Scalar Texture

variable {k r mu d width height size half rSize u v uR : ℝ}

/-! ## Real functions -/

theorem sqrt_div_sq (hk : 0 < k) (x : ℝ) : √(x / (k * k)) = √x / k := by
  rw [Real.sqrt_div' x (mul_self_nonneg k), Real.sqrt_mul_self hk.le]

theorem clamp_div (hk : 0 < k) (x lo hi : ℝ) :
    clamp (x / k) (lo / k) (hi / k) = clamp x lo hi / k := by
  rw [clamp_real, clamp_real, max_div_div_right hk.le, min_div_div_right hk.le]

/-- The fraction of the way between two lengths does not depend on the unit. -/
theorem fraction_div (hk : 0 < k) (x lo hi : ℝ) :
    (x / k - lo / k) / (hi / k - lo / k) = (x - lo) / (hi - lo) := by
  rw [← sub_div, ← sub_div, div_div_div_cancel_right₀ hk.ne']

theorem sub_sq_sub_sq_div (k h rho d : ℝ) :
    h / k * (h / k) - rho / k * (rho / k) - d / k * (d / k) =
      (h * h - rho * rho - d * d) / (k * k) := by
  ring

/-! ## Shells -/

namespace Shell

/-- A shell in a length unit that is larger by a factor. -/
noncomputable def inUnit (s : Shell ℝ) (k : ℝ) : Shell ℝ := ⟨s.bottom / k, s.top / k⟩

variable (s : Shell ℝ)

@[simp] theorem inUnit_bottom (k : ℝ) : (s.inUnit k).bottom = s.bottom / k := rfl

@[simp] theorem inUnit_top (k : ℝ) : (s.inUnit k).top = s.top / k := rfl

theorem horizonLength_inUnit (hk : 0 < k) : (s.inUnit k).horizonLength = s.horizonLength / k := by
  have hsq : (s.top / k) ^ 2 - (s.bottom / k) ^ 2 = (s.top ^ 2 - s.bottom ^ 2) / (k * k) := by ring
  rw [horizonLength_real, horizonLength_real, inUnit_bottom, inUnit_top, hsq, sqrt_div_sq hk]

theorem horizonDistance_inUnit (hk : 0 < k) (r : ℝ) :
    (s.inUnit k).horizonDistance (r / k) = s.horizonDistance r / k := by
  have hsq : (r / k) ^ 2 - (s.bottom / k) ^ 2 = (r ^ 2 - s.bottom ^ 2) / (k * k) := by ring
  rw [horizonDistance_real, horizonDistance_real, inUnit_bottom, hsq, sqrt_div_sq hk]

theorem distanceToTop_inUnit (hk : 0 < k) (r mu : ℝ) :
    (s.inUnit k).distanceToTop (r / k) mu = s.distanceToTop r mu / k := by
  have hroot : (-(r / k * mu)) ^ 2 + ((s.top / k) ^ 2 - (r / k) ^ 2) =
      ((-(r * mu)) ^ 2 + (s.top ^ 2 - r ^ 2)) / (k * k) := by ring
  have hsum : ∀ x : ℝ, -(r / k * mu) + x / k = (-(r * mu) + x) / k := fun x => by ring
  rw [distanceToTop_real, distanceToTop_real, inUnit_top, hroot, sqrt_div_sq hk, hsum,
    ← max_div_div_right hk.le, zero_div]

theorem distanceToBottom_inUnit (hk : 0 < k) (r mu : ℝ) :
    (s.inUnit k).distanceToBottom (r / k) mu = s.distanceToBottom r mu / k := by
  have hroot : (-(r / k * mu)) ^ 2 + ((s.bottom / k) ^ 2 - (r / k) ^ 2) =
      ((-(r * mu)) ^ 2 + (s.bottom ^ 2 - r ^ 2)) / (k * k) := by ring
  have hsum : ∀ x : ℝ, -(r / k * mu) - x / k = (-(r * mu) - x) / k := fun x => by ring
  rw [distanceToBottom_real, distanceToBottom_real, inUnit_bottom, hroot, sqrt_div_sq hk, hsum,
    ← max_div_div_right hk.le, zero_div]

theorem distanceToNearest_inUnit (hk : 0 < k) (r mu : ℝ) (ground : Bool) :
    (s.inUnit k).distanceToNearest (r / k) mu ground = s.distanceToNearest r mu ground / k := by
  cases ground
  · exact distanceToTop_inUnit s hk r mu
  · exact distanceToBottom_inUnit s hk r mu

theorem clampRadius_inUnit (hk : 0 < k) (r : ℝ) :
    (s.inUnit k).clampRadius (r / k) = s.clampRadius r / k :=
  clamp_div hk r s.bottom s.top

theorem radiusAlong_div (hk : 0 < k) (r mu d : ℝ) :
    radiusAlong (r / k) mu (d / k) = radiusAlong r mu d / k := by
  have hsq : (r / k) ^ 2 + 2 * (r / k) * mu * (d / k) + (d / k) ^ 2 =
      (r ^ 2 + 2 * r * mu * d + d ^ 2) / (k * k) := by ring
  rw [radiusAlong_real, radiusAlong_real, hsq, sqrt_div_sq hk]

/-- The radius of a point on a ray, limited to the shell. -/
theorem clampRadius_radiusAlong_inUnit (hk : 0 < k) (r mu d : ℝ) :
    (s.inUnit k).clampRadius (radiusAlong (r / k) mu (d / k)) =
      s.clampRadius (radiusAlong r mu d) / k := by
  rw [radiusAlong_div hk, clampRadius_inUnit s hk]

/-! ### Coordinates of the transmittance table -/

theorem tableU_inUnit (hk : 0 < k) (width r mu : ℝ) :
    (s.inUnit k).tableU width (r / k) mu = s.tableU width r mu := by
  have hrho := horizonDistance_inUnit s hk r
  unfold horizonDistance at hrho
  unfold tableU
  rw [hrho, horizonLength_inUnit s hk, distanceToTop_inUnit s hk, inUnit_top]
  dsimp only
  rw [← sub_div, ← add_div, fraction_div hk]

theorem tableV_inUnit (hk : 0 < k) (height r : ℝ) :
    (s.inUnit k).tableV height (r / k) = s.tableV height r := by
  have hrho := horizonDistance_inUnit s hk r
  unfold horizonDistance at hrho
  unfold tableV
  rw [hrho, horizonLength_inUnit s hk, div_div_div_cancel_right₀ hk.ne']

theorem tableRho_inUnit (hk : 0 < k) (height v : ℝ) :
    (s.inUnit k).tableRho height v = s.tableRho height v / k := by
  rw [tableRho, tableRho, horizonLength_inUnit s hk, div_mul_eq_mul_div]

theorem tableRadius_inUnit (hk : 0 < k) (height v : ℝ) :
    (s.inUnit k).tableRadius height v = s.tableRadius height v / k := by
  have hsq : s.tableRho height v / k * (s.tableRho height v / k) + s.bottom / k * (s.bottom / k) =
      (s.tableRho height v * s.tableRho height v + s.bottom * s.bottom) / (k * k) := by ring
  unfold tableRadius
  simp only [tableRho_inUnit s hk, inUnit_bottom, sqrt_real, hsq, sqrt_div_sq hk]

/-- The cosine that belongs to distances is the same in every unit. -/
theorem cosine_inUnit (hk : 0 < k) (x r d default : ℝ) :
    (if same (d / k) 0.0 then default else x / (k * k) / (2.0 * (r / k) * (d / k))) =
      if same d 0.0 then default else x / (2.0 * r * d) := by
  have hsame : same (d / k) 0.0 = same d (0.0 : ℝ) := by
    norm_num [same_real, div_eq_zero_iff, hk.ne']
  have hproduct : ∀ c : ℝ, c * (r / k) * (d / k) = c * r * d / (k * k) := fun c => by ring
  rw [hsame, hproduct, div_div_div_cancel_right₀ (mul_pos hk hk).ne']

theorem tableCosine_inUnit (hk : 0 < k) (width height u v : ℝ) :
    (s.inUnit k).tableCosine width height u v = s.tableCosine width height u v := by
  have hd : ∀ r rho h t : ℝ, s.top / k - r / k + t * (rho / k + h / k - (s.top / k - r / k)) =
      (s.top - r + t * (rho + h - (s.top - r))) / k := fun r rho h t => by ring
  simp only [tableCosine, horizonLength_inUnit s hk, tableRho_inUnit s hk, tableRadius_inUnit s hk,
    inUnit_top, hd, sub_sq_sub_sq_div, cosine_inUnit hk]

/-! ### Rays of the grid -/

theorem radiusAt_inUnit (hk : 0 < k) (size u : ℝ) :
    (s.inUnit k).radiusAt size u = ((s.radiusAt size u).1 / k, (s.radiusAt size u).2 / k) := by
  have hrho : s.horizonLength / k * unitOfCoord u size =
      s.horizonLength * unitOfCoord u size / k := by ring
  have hsq : ∀ rho : ℝ, rho / k * (rho / k) + s.bottom / k * (s.bottom / k) =
      (rho * rho + s.bottom * s.bottom) / (k * k) := fun rho => by ring
  simp only [radiusAt, horizonLength_inUnit s hk, inUnit_bottom, hrho, hsq, sqrt_real,
    sqrt_div_sq hk, clampRadius_inUnit s hk]

theorem viewDistanceAt_inUnit (hk : 0 < k) (half rSize u uR : ℝ) :
    (s.inUnit k).viewDistanceAt half rSize u uR = s.viewDistanceAt half rSize u uR / k := by
  simp only [viewDistanceAt, radiusAt_inUnit s hk, horizonLength_inUnit s hk, inUnit_bottom,
    inUnit_top]
  split_ifs <;> ring

theorem viewCosineAt_inUnit (hk : 0 < k) (half rSize u uR : ℝ) :
    (s.inUnit k).viewCosineAt half rSize u uR = s.viewCosineAt half rSize u uR := by
  have hground : ∀ rho d : ℝ, -(rho / k * (rho / k) + d / k * (d / k)) =
      -(rho * rho + d * d) / (k * k) := fun rho d => by ring
  simp only [viewCosineAt, radiusAt_inUnit s hk, viewDistanceAt_inUnit s hk,
    horizonLength_inUnit s hk, hground, sub_sq_sub_sq_div, cosine_inUnit hk]

end Shell

namespace LitShell

/-- A lit shell in a length unit that is larger by a factor. -/
noncomputable def inUnit (s : LitShell ℝ) (k : ℝ) : LitShell ℝ := ⟨s.toShell.inUnit k, s.muSMin⟩

variable (s : LitShell ℝ)

theorem sunFraction_inUnit (hk : 0 < k) (muS : ℝ) :
    (s.inUnit k).sunFraction muS = s.sunFraction muS := by
  have hdistance := s.toShell.distanceToTop_inUnit hk s.bottom muS
  simp only [sunFraction, inUnit, hdistance, s.toShell.horizonLength_inUnit hk,
    Shell.inUnit_bottom, Shell.inUnit_top, ← sub_div]
  rw [div_div_div_cancel_right₀ hk.ne']

theorem sunCosineAt_inUnit (hk : 0 < k) (size u : ℝ) :
    (s.inUnit k).sunCosineAt size u = s.sunCosineAt size u := by
  have hd : ∀ t : ℝ, s.top / k - s.bottom / k +
      t * (s.toShell.horizonLength / k - (s.top / k - s.bottom / k)) =
        (s.top - s.bottom + t * (s.toShell.horizonLength - (s.top - s.bottom))) / k :=
    fun t => by ring
  have hsq : ∀ h d : ℝ, h / k * (h / k) - d / k * (d / k) = (h * h - d * d) / (k * k) :=
    fun h d => by ring
  have hlimit : (s.inUnit k).muSMin = s.muSMin := rfl
  have hshell : (s.inUnit k).toShell = s.toShell.inUnit k := rfl
  simp only [sunCosineAt, sunFraction_inUnit s hk, hlimit, hshell,
    s.toShell.horizonLength_inUnit hk, Shell.inUnit_bottom, Shell.inUnit_top, hd, hsq,
    Shell.cosine_inUnit hk]

end LitShell

/-- A ray in a length unit that is larger by a factor. -/
noncomputable def Ray.inUnit (ray : Ray ℝ) (k : ℝ) : Ray ℝ := { ray with r := ray.r / k }

/-- The rays of a grid start at the same places in every unit, in the same directions. -/
theorem Grid.GridScale.rayAt_inUnit (g : GridScale ℝ) (s : LitShell ℝ) (hk : 0 < k) (v : Voxel) :
    g.rayAt (s.inUnit k) v = ((g.rayAt s v).1.inUnit k, (g.rayAt s v).2) := by
  have hshell : (s.inUnit k).toShell = s.toShell.inUnit k := rfl
  simp only [rayAt, decode, hshell, s.toShell.radiusAt_inUnit hk, s.toShell.viewCosineAt_inUnit hk,
    s.sunCosineAt_inUnit hk, Ray.inUnit]

/-! ## Lookups -/

namespace SunlitShell

/-- A sunlit shell in a length unit that is larger by a factor. -/
noncomputable def inUnit (s : SunlitShell ℝ) (k : ℝ) : SunlitShell ℝ :=
  ⟨s.toShell.inUnit k, s.sunAngularRadius⟩

theorem visiblePart_inUnit (s : SunlitShell ℝ) (k sine muS : ℝ) :
    (s.inUnit k).visiblePart sine muS = s.visiblePart sine muS := rfl

end SunlitShell

namespace Texture.Table

variable (t : Table ℝ 4) (s : Shell ℝ)

theorem toTop_inUnit (hk : 0 < k) (r mu : ℝ) :
    t.toTop (s.inUnit k) (r / k) mu = t.toTop s r mu := by
  rw [toTop, toTop, s.tableU_inUnit hk, s.tableV_inUnit hk]

theorem between_inUnit (hk : 0 < k) (r mu d : ℝ) (ground : Bool) :
    t.between (s.inUnit k) (r / k) mu (d / k) ground = t.between s r mu d ground := by
  have hcosine : ∀ rD : ℝ, (r / k * mu + d / k) / (rD / k) = (r * mu + d) / rD := fun rD => by
    rw [div_mul_eq_mul_div, ← add_div, div_div_div_cancel_right₀ hk.ne']
  simp only [between, s.clampRadius_radiusAlong_inUnit hk, hcosine, toTop_inUnit t s hk]

theorem toSun_inUnit (s : SunlitShell ℝ) (hk : 0 < k) (r muS : ℝ) :
    t.toSun (s.inUnit k) (r / k) muS = t.toSun s r muS := by
  have hsine : (s.inUnit k).bottom / (r / k) = s.bottom / r := div_div_div_cancel_right₀ hk.ne' _ _
  have htop : t.toTop (s.inUnit k).toShell (r / k) muS = t.toTop s.toShell r muS :=
    toTop_inUnit t s.toShell hk r muS
  simp only [toSun, hsine, htop, SunlitShell.visiblePart_inUnit]

end Texture.Table

end Airlight
