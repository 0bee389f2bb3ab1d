import Airlight.Proofs.RayCoordinates
import Airlight.Proofs.Outcomes
import Airlight.Atmosphere.Parameters

/-!
# What the check of parameters establishes

The check of parameters asks a sequence of questions. It passes exactly when all invariants hold,
for any number type; comparisons that are asked in the negative leave room for undefined values,
which the real numbers do not have.

## Main definitions

* `Parameters.Invariants` — the invariants of checked parameters.
-/

namespace Airlight

open Scalar

namespace Parameters

section

variable {α : Type} [Scalar α]

/-- The invariants of checked parameters, in the order in which they are checked. -/
structure Invariants (p : Parameters α) : Prop where
  bottom_finite : isFinite p.bottom = true
  top_finite : isFinite p.top = true
  bottom_pos : 0.0 < p.bottom
  bottom_lt_top : p.bottom < p.top
  spectrum_nonneg : ∀ f, ∀ x ∈ p.spectrum f, ¬ x < 0.0
  wavelengths_pos : ∀ x ∈ p.wavelengths, ¬ x ≤ 0.0
  sunAngularRadius_nonneg : ¬ p.sunAngularRadius < 0.0
  neg_one_le_muSMin : -1.0 ≤ p.muSMin
  muSMin_lt_one : p.muSMin < 1.0
  neg_one_lt_asymmetry : -1.0 < p.miePhaseAsymmetry
  asymmetry_lt_one : p.miePhaseAsymmetry < 1.0
  lengthUnit_pos : ¬ p.lengthUnit ≤ 0.0
  rayleighDensity_ne_nil : p.rayleighDensity ≠ []
  mieDensity_ne_nil : p.mieDensity ≠ []

omit [Scalar α] in
theorem require_eq_ok_iff {c : Bool} {fault : ConfigFault α} {u : Unit} :
    require c fault = .ok u ↔ c = true := by
  cases c <;> simp [require]

/-- The check passes exactly when the invariants hold. -/
theorem validate_eq_ok_iff (p : Parameters α) : p.validate = .ok () ↔ p.Invariants := by
  unfold validate
  simp only [bind_eq_ok_iff, require_eq_ok_iff, exists_const, Bool.and_eq_true, Bool.not_eq_true',
    decide_eq_true_eq, decide_eq_false_iff_not, Vector.any_eq_false', List.isEmpty_eq_false_iff]
  constructor
  · rintro ⟨⟨hb, ht⟩, ⟨hpos, hlt⟩, hw, hs, hrs, hms, hme, hae, hga, hwp, hsun, ⟨hlo, hhi⟩,
      ⟨hg, hg'⟩, hunit, hr, hm⟩
    refine ⟨hb, ht, hpos, hlt, fun f => ?_, hwp, hsun, hlo, hhi, hg, hg', hunit, hr, hm⟩
    cases f <;> assumption
  · intro h
    exact ⟨⟨h.bottom_finite, h.top_finite⟩, ⟨h.bottom_pos, h.bottom_lt_top⟩,
      h.spectrum_nonneg .wavelengths, h.spectrum_nonneg .solarIrradiance,
      h.spectrum_nonneg .rayleighScattering, h.spectrum_nonneg .mieScattering,
      h.spectrum_nonneg .mieExtinction, h.spectrum_nonneg .absorptionExtinction,
      h.spectrum_nonneg .groundAlbedo, h.wavelengths_pos, h.sunAngularRadius_nonneg,
      ⟨h.neg_one_le_muSMin, h.muSMin_lt_one⟩, ⟨h.neg_one_lt_asymmetry, h.asymmetry_lt_one⟩,
      h.lengthUnit_pos, h.rayleighDensity_ne_nil, h.mieDensity_ne_nil⟩

end

variable {p : Parameters ℝ}

/-- Checked parameters have a proper shell and sun limit. -/
theorem Invariants.proper (hp : p.Invariants) : p.toLitShell.Proper where
  shell := by
    have := hp.bottom_pos
    norm_num at this
    exact ⟨this, hp.bottom_lt_top⟩
  neg_one_le_muSMin := by
    have := hp.neg_one_le_muSMin
    norm_num at this
    exact this
  muSMin_lt_one := by
    have := hp.muSMin_lt_one
    norm_num at this
    exact this

theorem proper_of_validate (hp : p.validate = .ok ()) : p.toLitShell.Proper :=
  ((validate_eq_ok_iff p).mp hp).proper

theorem zero_lt_lengthUnit (hp : p.validate = .ok ()) : 0 < p.lengthUnit := by
  have hunit := ((validate_eq_ok_iff p).mp hp).lengthUnit_pos
  norm_num at hunit
  exact hunit

theorem zero_le_sunAngularRadius (hp : p.validate = .ok ()) : 0 ≤ p.sunAngularRadius := by
  have hsun := ((validate_eq_ok_iff p).mp hp).sunAngularRadius_nonneg
  norm_num at hsun
  exact hsun

end Parameters

/-! ## The Earth -/

namespace Earth

theorem wavelengths_pos {w : ℝ} (hw : w ∈ (wavelengths : Spectrum ℝ)) : 0 < w := by
  simp only [wavelengths, redWavelength, greenWavelength, blueWavelength, violetWavelength,
    Vector.mem_mk, List.mem_toArray, List.mem_cons, List.not_mem_nil, or_false] at hw
  rcases hw with rfl | rfl | rfl | rfl <;> norm_num

theorem rayleighScattering_pos {w : ℝ} (hw : 0 < w) : 0 < rayleighScattering w :=
  mul_pos (by norm_num [rayleighStrength]) (Real.rpow_pos_of_pos (mul_pos hw (by norm_num)) _)

theorem mieScattering_nonneg {w : ℝ} (hw : 0 < w) : 0 ≤ mieScattering angstromBeta w :=
  mul_nonneg (mul_nonneg (by norm_num [angstromBeta, mieScaleHeight])
    (Real.rpow_nonneg (mul_nonneg hw.le (by norm_num)) _)) (by norm_num [mieSingleScatteringAlbedo])

end Earth

namespace Parameters

theorem spectrum_earth_nonneg (f : SpectralField) :
    ∀ x ∈ (earth : Parameters ℝ).spectrum f, 0 ≤ x := by
  intro x hx
  cases f with
  | wavelengths => exact (Earth.wavelengths_pos hx).le
  | solarIrradiance =>
    simp only [spectrum, earth, Earth.solarIrradiance, Vector.mem_mk, List.mem_toArray,
      List.mem_cons, List.not_mem_nil, or_false] at hx
    rcases hx with rfl | rfl | rfl | rfl <;> norm_num
  | rayleighScattering =>
    obtain ⟨w, hw, rfl⟩ := Vector.mem_map.mp hx
    exact (Earth.rayleighScattering_pos (Earth.wavelengths_pos hw)).le
  | mieScattering =>
    obtain ⟨w, hw, rfl⟩ := Vector.mem_map.mp hx
    exact Earth.mieScattering_nonneg (Earth.wavelengths_pos hw)
  | mieExtinction =>
    obtain ⟨w, hw, rfl⟩ := Vector.mem_map.mp hx
    exact div_nonneg (Earth.mieScattering_nonneg (Earth.wavelengths_pos hw))
      (by norm_num [Earth.mieSingleScatteringAlbedo])
  | absorptionExtinction =>
    simp only [spectrum, earth, Earth.ozoneAbsorption, Vector.mem_mk, List.mem_toArray,
      List.mem_cons, List.not_mem_nil, or_false] at hx
    rcases hx with rfl | rfl | rfl | rfl <;> norm_num
  | groundAlbedo =>
    obtain ⟨i, hi, rfl⟩ := Vector.getElem_of_mem hx
    norm_num [spectrum, earth, Earth.groundAlbedo]

/-- The sun limit of the Earth lies between the horizon and straight down. -/
theorem muSMin_earth_lt_one : (earth : Parameters ℝ).muSMin < 1 := by
  have hangle : (Earth.maxSunZenithAngle : ℝ) = 102 / 180 * Real.pi := by
    norm_num [Earth.maxSunZenithAngle]
    rfl
  have hpi := Real.pi_pos
  have hcos : Real.cos (102 / 180 * Real.pi) < 1 := by
    rw [← Real.cos_zero]
    exact Real.cos_lt_cos_of_nonneg_of_le_pi le_rfl (by nlinarith) (by nlinarith)
  simpa [earth, hangle] using hcos

/-- The atmosphere of the Earth passes its own check. -/
theorem validate_earth : (earth : Parameters ℝ).validate = .ok () := by
  rw [validate_eq_ok_iff]
  exact {
    bottom_finite := isFinite_real _
    top_finite := isFinite_real _
    bottom_pos := by norm_num [earth, Earth.radius]
    bottom_lt_top := by norm_num [earth, Earth.topRadius]
    spectrum_nonneg := fun f x hx => by
      have := spectrum_earth_nonneg f x hx
      norm_num
      exact this
    wavelengths_pos := fun x hx => by
      have := Earth.wavelengths_pos hx
      norm_num
      exact this
    sunAngularRadius_nonneg := by norm_num [earth, Earth.sunAngularRadius]
    neg_one_le_muSMin := by
      norm_num
      exact Real.neg_one_le_cos _
    muSMin_lt_one := by
      norm_num
      exact muSMin_earth_lt_one
    neg_one_lt_asymmetry := by norm_num [earth, Earth.miePhaseAsymmetry]
    asymmetry_lt_one := by norm_num [earth, Earth.miePhaseAsymmetry]
    lengthUnit_pos := by norm_num [earth]
    rayleighDensity_ne_nil := by simp [earth]
    mieDensity_ne_nil := by simp [earth] }

end Parameters

end Airlight
