import Airlight.Proofs.RegularLayers
import Airlight.Proofs.TrapezoidalRule
import Airlight.Proofs.UnitGeometry
import Airlight.Scattering.Integral

/-!
# Air in another length unit

The density at a place does not depend on the length unit, and neither does a coefficient per length
times a length: optical depths, transmittances and the light scattered into a ray are the same in
every unit.

## Main definitions

* `LayerStack.inUnit`, `ScatteringMedium.inUnit`, `Transmittance.inUnit` — layers, media and
  transmittances in another length unit.
-/

namespace Airlight

open Scalar Texture

variable {k : ℝ}

/-- A quantity per length times a length does not depend on the unit. -/
theorem mul_mul_div (hk : 0 < k) (a x : ℝ) : a * k * (x / k) = a * x := by
  field_simp

/-! ## Densities -/

theorem DensityLayer.density_scaled (layer : DensityLayer ℝ) (hk : 0 < k) (h : ℝ) :
    (layer.scaled k).density (h / k) = layer.density h := by
  simp only [density, scaled, mul_mul_div hk]

namespace LayerStack

/-- A layer of a stack in a length unit that is larger by a factor. -/
noncomputable def stratumInUnit (k : ℝ) (s : Stratum ℝ) : Stratum ℝ := ⟨s.layer.scaled k, s.clears⟩

/-- A stack in a length unit that is larger by a factor. -/
noncomputable def inUnit (stack : LayerStack ℝ) (k : ℝ) : LayerStack ℝ where
  bounded := stack.bounded.map (Prod.map (· / k) (stratumInUnit k))
  top := stack.top.map (stratumInUnit k)

theorem density_stratumInUnit (hk : 0 < k) (s : Stratum ℝ) (h : ℝ) :
    (stratumInUnit k s).density (h / k) = s.density h := by
  simp only [Stratum.density, stratumInUnit, DensityLayer.density_scaled _ hk]

/-- The density of a stack at a place is the same in every unit. -/
theorem density_inUnit (stack : LayerStack ℝ) (hk : 0 < k) (h : ℝ) :
    (stack.inUnit k).density (h / k) = stack.density h := by
  obtain ⟨bounded, top⟩ := stack
  unfold density inUnit
  dsimp only
  induction bounded with
  | nil =>
    cases top with
    | none => rfl
    | some s => exact density_stratumInUnit hk s h
  | cons first rest ih =>
    simp only [List.map_cons, densityAmong, Prod.map, div_lt_div_iff_of_pos_right hk,
      density_stratumInUnit hk, ih]

theorem altitudesFrom_div (k base : ℝ) (widths : List ℝ) :
    Profile.altitudesFrom (base / k) (widths.map (· / k)) =
      (Profile.altitudesFrom base widths).map (· / k) := by
  induction widths generalizing base with
  | nil => rfl
  | cons width widths ih =>
    simp only [List.map_cons, Profile.altitudesFrom, ← add_div, ih]

theorem stratum_scaled (layer : DensityLayer ℝ) (k : ℝ) :
    stratum (layer.scaled k) = stratumInUnit k (stratum layer) := by
  have hwidth : (0.0 : ℝ) / k = 0.0 := by norm_num
  simp only [stratum, stratumInUnit, DensityLayer.scaled, hwidth]

/-- The stack of scaled layers is the stack of the layers in the other unit. -/
theorem ofLayers_scaled (layers : Profile ℝ) (k : ℝ) :
    ofLayers (layers.map (·.scaled k)) = (ofLayers layers).inUnit k := by
  have hstrata : (layers.map (·.scaled k)).map stratum =
      (layers.map stratum).map (stratumInUnit k) := by
    simp only [List.map_map, Function.comp_def, stratum_scaled]
  have hwidths : (layers.map (·.scaled k)).dropLast.map DensityLayer.width =
      (layers.dropLast.map DensityLayer.width).map (· / k) := by
    rw [← List.map_dropLast]
    simp only [List.map_map, Function.comp_def, DensityLayer.scaled]
  have hends := altitudesFrom_div k 0 (layers.dropLast.map DensityLayer.width)
  rw [zero_div] at hends
  simp only [ofLayers, inUnit, hstrata, hwidths, hends, List.getLast?_map, List.zip_map]

end LayerStack

/-! ## Optical depths -/

theorem sumTo_div (k : ℝ) (f : Nat → ℝ) (n : Nat) : sumTo (fun i => f i / k) n = sumTo f n / k := by
  rw [sumTo_eq_sum, sumTo_eq_sum, Finset.sum_div]

namespace Shell

variable {density density' : ℝ → ℝ}

theorem opticalTerm_inUnit (s : Shell ℝ) (hk : 0 < k) (h : ∀ x, density' (x / k) = density x)
    (r mu dx : ℝ) (n i : Nat) :
    (s.inUnit k).opticalTerm density' (r / k) mu (dx / k) n i =
      s.opticalTerm density r mu dx n i / k := by
  have hplace : (i : ℝ) * (dx / k) = (i : ℝ) * dx / k := mul_div_assoc' _ _ _
  simp only [opticalTerm, inUnit_bottom]
  rw [hplace, radiusAlong_div hk, ← sub_div, h, mul_div_assoc']

/-- Optical lengths are lengths. -/
theorem opticalLengthOf_inUnit (s : Shell ℝ) (hk : 0 < k) (h : ∀ x, density' (x / k) = density x)
    (count : Int) (r mu : ℝ) :
    (s.inUnit k).opticalLengthOf density' count (r / k) mu =
      s.opticalLengthOf density count r mu / k := by
  have hdx : ∀ n : Nat, s.distanceToTop r mu / k / n = s.distanceToTop r mu / n / k :=
    fun n => div_right_comm _ _ _
  have hterm := opticalTerm_inUnit s hk h r mu
  have hzero : (0.0 : ℝ) = 0.0 / k := by norm_num
  unfold opticalLengthOf
  split_ifs
  · exact hzero
  · unfold opticalLength
    simp only [distanceToTop_inUnit s hk, hdx]
    rw [← sumTo_div]
    congr 1
    exact funext fun i => hterm _ _ i

end Shell

/-- Air in a length unit that is larger by a factor. -/
noncomputable def Constituents.inUnit (air : Constituents ℝ) (k : ℝ) : Constituents ℝ :=
  ⟨air.rayleigh.inUnit k, air.mie.inUnit k, air.absorption.inUnit k⟩

/-! ## Transmittances -/

/-- A transmittance in a length unit that is larger by a factor. -/
noncomputable def Transmittance.inUnit (k : ℝ) : Transmittance ℝ → Transmittance ℝ
  | table s t => table (s.inUnit k) t
  | constant value => constant value

namespace Transmittance

variable (x : Transmittance ℝ)

theorem between_inUnit (hk : 0 < k) (r mu d : ℝ) (ground : Bool) :
    (x.inUnit k).oracle.between (r / k) mu (d / k) ground = x.oracle.between r mu d ground := by
  cases x with
  | table s t => exact t.between_inUnit s.toShell hk r mu d ground
  | constant value => rfl

theorem toSun_inUnit (hk : 0 < k) (r muS : ℝ) :
    (x.inUnit k).oracle.toSun (r / k) muS = x.oracle.toSun r muS := by
  cases x with
  | table s t => exact t.toSun_inUnit s hk r muS
  | constant value => rfl

theorem texels?_inUnit (k : ℝ) : (x.inUnit k).texels? = x.texels? := by
  cases x <;> rfl

end Transmittance

/-! ## Scattered light -/

namespace ScatteringMedium

/-- A medium in a length unit that is larger by a factor. -/
noncomputable def inUnit (m : ScatteringMedium ℝ) (k : ℝ) : ScatteringMedium ℝ where
  toShell := m.toShell.inUnit k
  rayleighDensity := m.rayleighDensity.inUnit k
  mieDensity := m.mieDensity.inUnit k
  rayleighScattering := m.rayleighScattering.map (· * k)
  mieScattering := m.mieScattering.map (· * k)
  solarIrradiance := m.solarIrradiance

variable (m : ScatteringMedium ℝ) (x : Transmittance ℝ) (ray : Ray ℝ) (ground : Bool)

theorem integrand_inUnit (hk : 0 < k) (d : ℝ) :
    (m.inUnit k).integrand (x.inUnit k).oracle (ray.inUnit k) (d / k) ground =
      m.integrand x.oracle ray d ground := by
  have hshell : (m.inUnit k).toShell = m.toShell.inUnit k := rfl
  have hcosine : ∀ rD : ℝ, (ray.r / k * ray.muS + d / k * ray.nu) / (rD / k) =
      (ray.r * ray.muS + d * ray.nu) / rD := fun rD => by
    rw [div_mul_eq_mul_div, div_mul_eq_mul_div, ← add_div, div_div_div_cancel_right₀ hk.ne']
  simp only [integrand, hshell, Ray.inUnit, m.toShell.clampRadius_radiusAlong_inUnit hk, hcosine,
    x.between_inUnit hk, x.toSun_inUnit hk, Shell.inUnit_bottom, ← sub_div]
  simp only [inUnit, LayerStack.density_inUnit _ hk]

theorem sumSamples_inUnit (hk : 0 < k) (dx : ℝ) (n i remaining : Nat) (sum : Scattered ℝ) :
    (m.inUnit k).sumSamples (x.inUnit k).oracle (ray.inUnit k) ground (dx / k) n i remaining sum =
      m.sumSamples x.oracle ray ground dx n i remaining sum := by
  induction remaining generalizing i sum with
  | zero => rfl
  | succ remaining ih =>
    have hplace : (i : ℝ) * (dx / k) = (i : ℝ) * dx / k := mul_div_assoc' _ _ _
    simp only [sumSamples, hplace, integrand_inUnit m x ray ground hk, ih]

/-- The light scattered into a ray is the same in every unit. -/
theorem integrate_inUnit (hk : 0 < k) (n : Nat) :
    (m.inUnit k).integrate (x.inUnit k).oracle n (ray.inUnit k) ground =
      m.integrate x.oracle n ray ground := by
  have hlength : (m.inUnit k).distanceToNearest (ray.inUnit k).r (ray.inUnit k).mu ground =
      m.distanceToNearest ray.r ray.mu ground / k :=
    m.toShell.distanceToNearest_inUnit hk ray.r ray.mu ground
  have hdx : m.distanceToNearest ray.r ray.mu ground / k / n =
      m.distanceToNearest ray.r ray.mu ground / n / k := div_right_comm _ _ _
  have hfinish : ∀ (sum coefficient : Spectrum ℝ) (dx : ℝ) (c : Fin 4),
      sum.get c * (dx / k) * m.solarIrradiance.get c * (coefficient.map (· * k)).get c =
        sum.get c * dx * m.solarIrradiance.get c * coefficient.get c := by
    intro sum coefficient dx c
    rw [Spectrum.get_map]
    field_simp
  simp only [integrate, hlength, hdx, sumSamples_inUnit m x ray ground hk]
  simp only [inUnit, hfinish]

end ScatteringMedium

end Airlight
