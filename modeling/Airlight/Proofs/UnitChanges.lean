import Airlight.Proofs.LayerDensities
import Airlight.Proofs.ParameterReading

/-!
# Changes of the length unit

Checked parameters can be expressed in every length unit. It does not matter through which units
they have gone before, and in their own unit they stay as they are. A coefficient of a layer that is
given as a whole number or as a flag comes back as the real number that it counts as.

## Main definitions

* `Parameters.amounts` — the atmosphere of the numbers that the coefficients count as.
* `Parameters.RealLayers` — parameters whose layers have real numbers as coefficients.
-/

namespace Airlight

open Scalar

/-! ## Layers -/

namespace DensityLayer

theorem amounts_toValues (layer : DensityLayer ℝ) : layer.toValues.amounts = layer := rfl

theorem scaled_one (layer : DensityLayer ℝ) : layer.scaled 1 = layer := by
  simp only [scaled, div_one, mul_one]

theorem amounts_inUnit_one (layer : DensityLayer (Value ℝ)) :
    (layer.inUnit 1).amounts = layer.amounts := by
  rw [amounts_inUnit, scaled_one]

/-- A layer of real numbers stays as it is in its own unit. -/
theorem inUnit_one_toValues (layer : DensityLayer ℝ) :
    layer.toValues.inUnit 1 = layer.toValues := by
  simp only [inUnit, toValues, Value.amount, div_one, mul_one]

end DensityLayer

namespace Profile

variable {k : ℝ}

/-- The density of a profile at a place is the same in every unit. -/
theorem density_scaled (layers : Profile ℝ) (hk : 0 < k) (h : ℝ) :
    density (layers.map (·.scaled k)) (h / k) = density layers h := by
  rw [← LayerStack.density_ofLayers, LayerStack.ofLayers_scaled, LayerStack.density_inUnit _ hk,
    LayerStack.density_ofLayers]

end Profile

namespace Parameters

variable {p : Parameters ℝ} {k u : ℝ}

/-- The atmosphere of the numbers that the coefficients of the layers count as. -/
noncomputable def amounts (p : Parameters ℝ) : Atmosphere ℝ ℝ :=
  { p with
    rayleighDensity := p.rayleighDensity.map DensityLayer.amounts
    mieDensity := p.mieDensity.map DensityLayer.amounts
    absorptionDensity := p.absorptionDensity.map DensityLayer.amounts }

/-- The coefficients of all layers are real numbers. -/
def RealLayers (p : Parameters ℝ) : Prop :=
  ∀ f, ∃ layers : Profile ℝ, p.profile f = layers.map DensityLayer.toValues

/-- In their own unit parameters describe the same atmosphere. -/
theorem amounts_inUnit_one (p : Parameters ℝ) : (p.inUnit 1).amounts = p.amounts := by
  have hlayers : ∀ layers : Profile (Value ℝ),
      (layers.map (·.inUnit 1)).map DensityLayer.amounts = layers.map DensityLayer.amounts := by
    intro layers
    simp only [List.map_map, Function.comp_def, DensityLayer.amounts_inUnit_one]
  rw [inUnit_one, amounts, amounts]
  simp only [hlayers]

/-- Parameters with real numbers as coefficients stay as they are in their own unit. -/
theorem RealLayers.inUnit_one (h : p.RealLayers) : p.inUnit 1 = p := by
  have hprofile : ∀ f, (p.profile f).map (·.inUnit 1) = p.profile f := by
    intro f
    obtain ⟨layers, hlayers⟩ := h f
    rw [hlayers, List.map_map]
    exact List.map_congr_left fun layer _ => layer.inUnit_one_toValues
  have hrayleigh := hprofile .rayleighDensity
  have hmie := hprofile .mieDensity
  have habsorption := hprofile .absorptionDensity
  simp only [profile] at hrayleigh hmie habsorption
  rw [Parameters.inUnit_one, hrayleigh, hmie, habsorption]

/-- The density of a profile at a place is the same in every unit. -/
theorem density_profile_inUnit (p : Parameters ℝ) (hk : 0 < k) (f : ProfileField) (h : ℝ) :
    Profile.density (((p.inUnit k).profile f).map DensityLayer.amounts) (h / k) =
      Profile.density ((p.profile f).map DensityLayer.amounts) h := by
  rw [amounts_profile_inUnit, Profile.density_scaled _ hk]

/-- The stack of a regular profile has, in every unit, the same density at a place. -/
theorem exists_stacks_inUnit {f : ProfileField} (hk : 0 < k) (hregular : (p.profile f).Regular) :
    ∃ s t : LayerStack ℝ, (p.profile f).stack? = some s ∧ ((p.inUnit k).profile f).stack? = some t ∧
      ∀ h, t.density (h / k) = s.density h := by
  have hconverted : ((p.inUnit k).profile f).Regular := by
    rw [profile_inUnit]
    exact hregular.inUnit hk
  refine ⟨_, _, Profile.stack?_regular hregular, Profile.stack?_regular hconverted, fun h => ?_⟩
  rw [LayerStack.density_ofLayers, LayerStack.density_ofLayers, density_profile_inUnit p hk]

theorem lengthUnit_inUnit_div (hp : p.lengthUnit ≠ 0) (u : ℝ) :
    (p.inUnit (u / p.lengthUnit)).lengthUnit = u :=
  mul_div_cancel₀ u hp

/-- A change of the unit after another one is the last change alone. -/
theorem toLengthUnit_inUnit (hvalid : p.validate = .ok ()) (hlayers : p.Layered) (hk : 0 < k)
    (hu : 0 < u) : (p.inUnit k).toLengthUnit u = p.toLengthUnit u := by
  have hinv := (validate_eq_ok_iff p).mp hvalid
  have hvalid' : (p.inUnit k).validate = .ok () := (validate_eq_ok_iff _).mpr (hinv.inUnit hk)
  have hfactor : k * (u / (p.inUnit k).lengthUnit) = u / p.lengthUnit := by
    have hunit : (p.inUnit k).lengthUnit = p.lengthUnit * k := rfl
    rw [hunit, ← div_div, mul_div_cancel₀ _ hk.ne']
  rw [(toLengthUnit_of_layered hvalid' (hlayers.inUnit hk) hu).2,
    (toLengthUnit_of_layered hvalid hlayers hu).2, inUnit_inUnit, hfactor]

/-- Checked parameters whose layers have numbers as coefficients can be expressed in every unit.
Their own unit gives the same atmosphere again. Any unit gives checked parameters of the same kind,
for which each further change is that of the parameters themselves; the fields without a length
stay, and so does the density of each profile at each place. -/
theorem toLengthUnit_action (hvalid : p.validate = .ok ()) (hlayers : p.Layered) :
    (∃ own, p.toLengthUnit p.lengthUnit = .ok own ∧ own.amounts = p.amounts ∧
      (p.RealLayers → own = p)) ∧
    ∀ u, 0 < u → ∃ q, p.toLengthUnit u = .ok q ∧ q.validate = .ok () ∧ q.Layered ∧
      q.lengthUnit = u ∧
      (∀ v, 0 < v → q.toLengthUnit v = p.toLengthUnit v) ∧
      (q.wavelengths = p.wavelengths ∧ q.solarIrradiance = p.solarIrradiance ∧
        q.sunAngularRadius = p.sunAngularRadius ∧ q.miePhaseAsymmetry = p.miePhaseAsymmetry ∧
        q.groundAlbedo = p.groundAlbedo ∧ q.whitepoint = p.whitepoint ∧ q.muSMin = p.muSMin) ∧
      ∀ f,
        (∀ h, Profile.density ((q.profile f).map DensityLayer.amounts) (h / (u / p.lengthUnit)) =
          Profile.density ((p.profile f).map DensityLayer.amounts) h) ∧
        ((p.profile f).Regular →
          ∃ s t : LayerStack ℝ, (p.profile f).stack? = some s ∧ (q.profile f).stack? = some t ∧
            ∀ h, t.density (h / (u / p.lengthUnit)) = s.density h) := by
  have hinv := (validate_eq_ok_iff p).mp hvalid
  have hunit := zero_lt_lengthUnit hvalid
  constructor
  · obtain ⟨-, hown⟩ := toLengthUnit_of_layered hvalid hlayers hunit
    rw [div_self hunit.ne'] at hown
    exact ⟨p.inUnit 1, hown, amounts_inUnit_one p, RealLayers.inUnit_one⟩
  · intro u hu
    obtain ⟨hk, hconverted⟩ := toLengthUnit_of_layered hvalid hlayers hu
    exact ⟨_, hconverted, (validate_eq_ok_iff _).mpr (hinv.inUnit hk), hlayers.inUnit hk,
      lengthUnit_inUnit_div hunit.ne' u, fun v hv => toLengthUnit_inUnit hvalid hlayers hk hv,
      ⟨rfl, rfl, rfl, rfl, rfl, rfl, rfl⟩,
      fun f => ⟨density_profile_inUnit p hk f, exists_stacks_inUnit hk⟩⟩

theorem realLayers_earth : (earth : Parameters ℝ).RealLayers := by
  intro f
  cases f <;> exact ⟨_, rfl⟩

/-- The Earth by way of kilometres, with the upper end of the lower ozone layer at 25. -/
theorem toLengthUnit_action_earth :
    (earth : Parameters ℝ).validate = .ok () ∧ (earth : Parameters ℝ).Layered ∧
      (earth : Parameters ℝ).toLengthUnit (earth : Parameters ℝ).lengthUnit = .ok earth ∧
      ∃ q, (earth : Parameters ℝ).toLengthUnit 1000 = .ok q ∧
        q.toLengthUnit 1 = (earth : Parameters ℝ).toLengthUnit 1 ∧
        Profile.density ((q.profile .absorptionDensity).map DensityLayer.amounts) (25000 / 1000) =
          Profile.density Earth.ozoneProfile 25000 := by
  have hlayers : (earth : Parameters ℝ).Layered := regular_earth.layered
  obtain ⟨⟨own, hown, -, hsame⟩, hunits⟩ := toLengthUnit_action validate_earth hlayers
  obtain ⟨q, hq, -, -, -, hfurther, -, hprofile⟩ := hunits 1000 (by norm_num)
  have hmetres : (1000 : ℝ) / (earth : Parameters ℝ).lengthUnit = 1000 := by norm_num [earth]
  have hozone : ((earth : Parameters ℝ).profile .absorptionDensity).map DensityLayer.amounts =
      Earth.ozoneProfile := by
    rw [profile, earth, List.map_map]
    exact List.map_id'' (fun layer => layer.amounts_toValues) _
  have hdensity := (hprofile .absorptionDensity).1 25000
  rw [hmetres, hozone] at hdensity
  rw [hsame realLayers_earth] at hown
  exact ⟨validate_earth, hlayers, hown, q, hq, hfurther 1 one_pos, hdensity⟩

end Parameters

end Airlight
