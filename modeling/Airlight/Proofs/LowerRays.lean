import Airlight.Proofs.FirstExit
import Airlight.Proofs.LayerDensities
import Airlight.Proofs.LayeredAir

/-!
# Lower rays lose more light

A ray that rises less steeply is longer, and at each fraction of its way to the top of the
atmosphere it is lower: at the fraction `t` of the way from the radius `r` over a distance `d` the
squared radius is `(1 - t) r² + t top² - t (1 - t) d²`. So in air that is not denser higher up, each
sample of the optical length is at least as large for the lower ray, and no channel of its
transmittance is larger.

## Main definitions

* `Shell.Thins` — a density that does not rise with the altitude.
-/

namespace Airlight

open Scalar

/-! ## Densities that do not rise -/

/-- A layer without rising terms does not get denser with the altitude. -/
theorem DensityLayer.antitone_density {layer : DensityLayer ℝ} (hexp : 0 ≤ layer.expTerm)
    (hscale : layer.expScale ≤ 0) (hlinear : layer.linearTerm ≤ 0) : Antitone layer.density := by
  intro h h' hle
  have hexponential : layer.expTerm * Real.exp (layer.expScale * h') ≤
      layer.expTerm * Real.exp (layer.expScale * h) :=
    mul_le_mul_of_nonneg_left (Real.exp_le_exp.mpr (mul_le_mul_of_nonpos_left hle hscale)) hexp
  have hline : layer.linearTerm * h' ≤ layer.linearTerm * h := mul_le_mul_of_nonpos_left hle hlinear
  simp only [density, clamp_real, exp_real]
  gcongr

namespace Shell

variable {s : Shell ℝ} {r mu mu' d t : ℝ} {density : ℝ → ℝ}

/-- From the centre to the top of the atmosphere the density does not rise with the altitude. -/
def Thins (s : Shell ℝ) (density : ℝ → ℝ) : Prop :=
  AntitoneOn density (Set.Icc (-s.bottom) (s.top - s.bottom))

theorem thins_of_antitone (h : Antitone density) : s.Thins density := h.antitoneOn _

/-! ## Lower rays -/

/-- The squared radius at a fraction of the way to the top. -/
theorem sq_radius_fraction (hr : 0 ≤ r) (htop : r ≤ s.top) (mu t : ℝ) :
    let d := s.distanceToTop r mu
    r ^ 2 + 2 * r * mu * (t * d) + (t * d) ^ 2 =
      (1 - t) * r ^ 2 + t * s.top ^ 2 - t * (1 - t) * d ^ 2 := by
  intro d
  linear_combination t * (distanceToTop_reaches hr htop mu).2.1

/-- At each fraction of the way to the top the less rising ray is lower. -/
theorem radiusAlong_fraction_le (hr : 0 ≤ r) (htop : r ≤ s.top) (hmu : mu ≤ mu')
    (ht : t ∈ Set.Icc 0 1) :
    radiusAlong r mu (t * s.distanceToTop r mu) ≤
      radiusAlong r mu' (t * s.distanceToTop r mu') := by
  rw [radiusAlong_real, radiusAlong_real, sq_radius_fraction hr htop, sq_radius_fraction hr htop]
  have hlength : s.distanceToTop r mu' ^ 2 ≤ s.distanceToTop r mu ^ 2 :=
    pow_le_pow_left₀ (s.distanceToTop_nonneg r mu') (antitone_distanceToTop hr htop hmu) 2
  have hweight : 0 ≤ t * (1 - t) := mul_nonneg ht.1 (sub_nonneg.mpr ht.2)
  exact Real.sqrt_le_sqrt (by linarith [mul_le_mul_of_nonneg_left hlength hweight])

/-- The altitudes on the way to the top lie between the centre and the top. -/
theorem altitude_mem (hs : s.Proper) (hr : r ∈ Set.Icc s.bottom s.top) (ht : t ∈ Set.Icc 0 1) :
    radiusAlong r mu (t * s.distanceToTop r mu) - s.bottom ∈
      Set.Icc (-s.bottom) (s.top - s.bottom) := by
  have hd := s.distanceToTop_nonneg r mu
  have hway : t * s.distanceToTop r mu ∈ Set.Icc 0 (s.distanceToTop r mu) :=
    ⟨mul_nonneg ht.1 hd, mul_le_of_le_one_left hd ht.2⟩
  have hcentre : 0 ≤ radiusAlong r mu (t * s.distanceToTop r mu) := Real.sqrt_nonneg _
  exact ⟨by linarith, sub_le_sub_right (radiusAlong_le_top hs hr hway) _⟩

/-- In air that thins out no ray has a smaller optical length than a higher one. -/
theorem Thins.antitone_opticalLength (h : s.Thins density) (hs : s.Proper)
    (hdensity : ∀ x, 0 ≤ density x) (hr : r ∈ Set.Icc s.bottom s.top) {n : ℕ} (hn : 0 < n) :
    Antitone (s.opticalLength density n r) := by
  intro mu mu' hmu
  have hr0 : 0 ≤ r := hs.bottom_pos.le.trans hr.1
  have hn0 : (0 : ℝ) < n := Nat.cast_pos.mpr hn
  simp only [opticalLength, sumTo_eq_sum, opticalTerm]
  refine Finset.sum_le_sum fun i hi => ?_
  have hi' : (i : ℝ) ≤ n := Nat.cast_le.mpr (Nat.lt_succ_iff.mp (Finset.mem_range.mp hi))
  have ht : (i : ℝ) / n ∈ Set.Icc (0 : ℝ) 1 := ⟨by positivity, (div_le_one hn0).mpr hi'⟩
  have hplace : ∀ d : ℝ, (i : ℝ) * (d / n) = i / n * d := fun d => by ring
  rw [hplace, hplace]
  have hdenser : density (radiusAlong r mu' (i / n * s.distanceToTop r mu') - s.bottom) ≤
      density (radiusAlong r mu (i / n * s.distanceToTop r mu) - s.bottom) :=
    h (altitude_mem hs hr ht) (altitude_mem hs hr ht)
      (sub_le_sub_right (radiusAlong_fraction_le hr0 hr.2 hmu ht) _)
  have hstep : s.distanceToTop r mu' / n ≤ s.distanceToTop r mu / n :=
    div_le_div_of_nonneg_right (antitone_distanceToTop hr0 hr.2 hmu) hn0.le
  have hweight := (trapezoidWeight_pos n i).le
  exact mul_le_mul (mul_le_mul_of_nonneg_right hdenser hweight) hstep
    (div_nonneg (s.distanceToTop_nonneg r mu') hn0.le) (mul_nonneg (hdensity _) hweight)

end Shell

/-! ## Profiles and transmittances -/

namespace Profile

theorem antitone_exponential {H : ℝ} (hH : 0 < H) :
    Antitone fun h : ℝ => min (Real.exp (-(h / H))) 1 := by
  intro h h' hle
  dsimp only
  gcongr

end Profile

namespace Parameters

variable {p : Parameters ℝ}

/-- The density of each constituent does not rise with the altitude. -/
structure Thins (p : Parameters ℝ) (air : Constituents ℝ) : Prop where
  rayleigh : p.shell.Thins air.rayleigh.density
  mie : p.shell.Thins air.mie.density
  absorption : p.shell.Thins air.absorption.density

/-- In air that thins out no channel of a transmittance is larger for a lower ray. -/
theorem Thins.monotone_transmittanceToTop {air : Constituents ℝ} (h : p.Thins air)
    (hp : p.validate = .ok ()) {r : ℝ} (hr : r ∈ Set.Icc p.bottom p.top) {n : ℤ} (hn : 1 ≤ n)
    {c : ℕ} (hc : c < 4) : Monotone fun mu => (p.transmittanceToTop air n r mu)[c] := by
  intro mu mu' hmu
  have hlength : ∀ stack : LayerStack ℝ, p.shell.Thins stack.density →
      p.shell.opticalLengthOf stack.density n r mu' ≤
        p.shell.opticalLengthOf stack.density n r mu := by
    intro stack hthins
    have hcount : ¬ n < 0 := by omega
    simp only [Shell.opticalLengthOf, if_neg hcount]
    exact hthins.antitone_opticalLength (proper_of_validate hp).shell
      (fun x => (stack.density_mem_unit x).1) hr (by omega) hmu
  have hdepth : ∀ (f : SpectralField) (stack : LayerStack ℝ), p.shell.Thins stack.density →
      (p.spectrum f).get ⟨c, hc⟩ * p.shell.opticalLengthOf stack.density n r mu' ≤
        (p.spectrum f).get ⟨c, hc⟩ * p.shell.opticalLengthOf stack.density n r mu :=
    fun f stack hthins => mul_le_mul_of_nonneg_left (hlength stack hthins) (spectrum_nonneg hp f _)
  have hrayleigh := hdepth .rayleighScattering _ h.rayleigh
  have hmie := hdepth .mieExtinction _ h.mie
  have habsorption := hdepth .absorptionExtinction _ h.absorption
  simp only [Atmosphere.transmittanceToTop, Vector.getElem_ofFn, Atmosphere.attenuation, exp_real]
  exact Real.exp_le_exp.mpr (neg_le_neg (add_le_add (add_le_add hrayleigh hmie) habsorption))

/-- In checked parameters a lower ray is never less attenuated. For every profile with single
densities that do not rise with the altitude the optical length does not rise with the cosine of the
ray; uniform profiles and exponential ones with a positive scale height are such. If the densities
of all constituents do not rise, no channel of the transmittance falls with the cosine. -/
theorem lower_rays_attenuated (hp : p.validate = .ok ()) {r : ℝ}
    (hr : r ∈ Set.Icc p.bottom p.top) {n : ℤ} (hn : 1 ≤ n) :
    (∀ (layers : Profile (Tensor ℝ)) (density : ℝ → ℝ), layers.HasDensity density →
      p.shell.Thins density → ∃ length : ℝ → ℝ,
        (∀ mu, p.shell.opticalLengths layers (.integer n) (.single r) (.single mu) =
          .ok (.single (length mu))) ∧
        AntitoneOn length (Set.Icc (-1) 1)) ∧
    (∀ rho : ℝ, ∃ density : ℝ → ℝ,
      (Profile.uniformOver (.single rho)).HasDensity density ∧ Antitone density) ∧
    (∀ H : ℝ, 0 < H → ∃ (layers : Profile (Tensor ℝ)) (density : ℝ → ℝ),
      Profile.exponentialOver (.single H) = .ok layers ∧ layers.HasDensity density ∧
        Antitone density) ∧
    ∀ air : Constituents ℝ, p.HasAir air → p.Thins air → ∃ t : ℝ → Spectrum ℝ,
      (∀ mu, p.transmittances (.integer n) (.single r) (.single mu) = .ok (.single (t mu))) ∧
      ∀ c (hc : c < 4), MonotoneOn (fun mu => (t mu)[c]) (Set.Icc (-1) 1) := by
  refine ⟨fun layers density hdensity hthins => ?_, fun rho => ?_, fun H hH => ?_,
    fun air hair hthins => ?_⟩
  · obtain ⟨stack, -, rfl⟩ := hdensity.exists_stack
    refine ⟨_, hdensity.opticalLengths_single p.shell (by omega) r, ?_⟩
    exact (hthins.antitone_opticalLength (proper_of_validate hp).shell
      (fun x => (stack.density_mem_unit x).1) hr (by omega)).antitoneOn _
  · exact ⟨_, Profile.hasDensity_uniformOver rho, antitone_const⟩
  · obtain ⟨layers, hlayers, hdensity⟩ := Profile.exists_exponentialOver hH.ne'
    exact ⟨layers, _, hlayers, hdensity, Profile.antitone_exponential hH⟩
  · refine ⟨_, hair.transmittances_single hn r, fun c hc => ?_⟩
    exact (hthins.monotone_transmittanceToTop hp hr hn hc).monotoneOn _

/-- Without its ozone the air of the Earth thins out. -/
theorem thins_earth_withoutOzone :
    let p : Parameters ℝ := { earth with absorptionDensity := [] }
    p.HasAir ⟨p.stack .rayleighDensity, p.stack .mieDensity, .empty⟩ ∧
      p.Thins ⟨p.stack .rayleighDensity, p.stack .mieDensity, .empty⟩ := by
  intro p
  have hexponential : ∀ {layer : DensityLayer ℝ}, 0 ≤ layer.expTerm → layer.expScale ≤ 0 →
      layer.linearTerm ≤ 0 → p.shell.Thins (LayerStack.ofLayers [layer]).density :=
    fun hexp hscale hlinear =>
      Shell.thins_of_antitone (DensityLayer.antitone_density hexp hscale hlinear)
  refine ⟨⟨regular_earth.hasAir.rayleigh, regular_earth.hasAir.mie, rfl⟩, ?_, ?_, ?_⟩
  · refine hexponential ?_ ?_ ?_ <;>
      norm_num [DensityLayer.amounts, DensityLayer.toValues, Value.amount, DensityLayer.empty,
        Earth.rayleighScaleHeight]
  · refine hexponential ?_ ?_ ?_ <;>
      norm_num [DensityLayer.amounts, DensityLayer.toValues, Value.amount, DensityLayer.empty,
        Earth.mieScaleHeight]
  · exact Shell.thins_of_antitone antitone_const

/-- Seen from the ground of the Earth without ozone, the zenith is no darker than the horizon. -/
theorem lower_rays_attenuated_level :
    let p : Parameters ℝ := { earth with absorptionDensity := [] }
    ∃ t : ℝ → Spectrum ℝ,
      (∀ mu, p.transmittances (.integer 50) (.single p.bottom) (.single mu) =
        .ok (.single (t mu))) ∧ (t 0).get 0 ≤ (t 1).get 0 := by
  intro p
  have hbottom : p.bottom ∈ Set.Icc p.bottom p.top :=
    ⟨le_rfl, by norm_num [p, earth, Earth.radius, Earth.topRadius]⟩
  obtain ⟨hair, hthins⟩ := thins_earth_withoutOzone
  obtain ⟨-, -, -, htransmittance⟩ := lower_rays_attenuated (p := p) validate_earth hbottom
    (by decide : (1 : ℤ) ≤ 50)
  obtain ⟨t, ht, hmono⟩ := htransmittance _ hair hthins
  exact ⟨t, ht, hmono 0 (by decide) (by norm_num) (by norm_num) zero_le_one⟩

end Parameters

end Airlight
