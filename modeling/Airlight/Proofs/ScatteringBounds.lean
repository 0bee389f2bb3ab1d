import Airlight.Proofs.RayIntegrals
import Airlight.Proofs.SingleLookups
import Airlight.Proofs.TransmittanceBounds

/-!
# Scattered light is bounded by that of thin air

Over the real numbers every sample of the trapezoidal rule lies between zero and one, because
transmittances and densities are fractions, and the rule gives at most the length of the ray. So the
light that is scattered into a ray is at most what all of its air would scatter if nothing of the
light were lost: the length of the ray times the irradiance and the scattering coefficient.

## Main definitions

* `ScatteringMedium.Nonneg` — a medium whose irradiance and coefficients are not negative.
-/

namespace Airlight

open Scalar Texture

namespace ScatteringMedium

/-- The irradiance and the scattering coefficients are not negative. -/
structure Nonneg (m : ScatteringMedium ℝ) : Prop where
  irradiance : ∀ c (hc : c < 4), (0 : ℝ) ≤ m.solarIrradiance[c]
  rayleigh : ∀ c (hc : c < 4), (0 : ℝ) ≤ m.rayleighScattering[c]
  mie : ∀ c (hc : c < 4), (0 : ℝ) ≤ m.mieScattering[c]

variable {m : ScatteringMedium ℝ} {x : Transmittance ℝ} {ray : Ray ℝ} {ground : Bool}

/-- A sample of each constituent is a fraction. -/
theorem integrand_isFraction (hx : x.Fractional) {d : ℝ} {term : Scattered ℝ}
    (h : m.integrand x.oracle ray d ground = .ok term) :
    term.rayleigh.IsFraction ∧ term.mie.IsFraction := by
  obtain ⟨back, hback, h⟩ := bind_eq_ok_iff.mp h
  obtain ⟨sun, hsun, h⟩ := bind_eq_ok_iff.mp h
  cases h
  have hlight : ∀ c (hc : c < 4), back[c] * sun[c] ∈ Set.Icc (0 : ℝ) 1 := fun c hc =>
    mul_mem_unit (hx.between hback c hc) (hx.toSun hsun c hc)
  constructor <;> intro c hc <;> rw [Spectrum.getElem_each, Spectrum.getElem_combine]
  · exact mul_mem_unit (hlight c hc) (m.rayleighDensity.density_mem_unit _)
  · exact mul_mem_unit (hlight c hc) (m.mieDensity.density_mem_unit _)

/-- The light that is scattered into a ray is not negative, and at most that of thin air. -/
theorem integrate_mem (hm : m.Nonneg) (hx : x.Fractional) {n : ℕ} (hn : 0 < n)
    {light : Scattered ℝ} (h : m.integrate x.oracle n ray ground = .ok light) {c : ℕ}
    (hc : c < 4) :
    let length := m.distanceToNearest ray.r ray.mu ground
    light.rayleigh[c] ∈
        Set.Icc 0 (length * m.solarIrradiance[c] * m.rayleighScattering[c]) ∧
      light.mie[c] ∈ Set.Icc 0 (length * m.solarIrradiance[c] * m.mieScattering[c]) := by
  intro length
  obtain ⟨f, hf, rfl⟩ := (integrate_eq_ok_iff hn rfl).mp h
  have hlength : 0 ≤ length := m.distanceToNearest_nonneg ray.r ray.mu ground
  have hfinish : ∀ {collected coefficient : ℝ}, collected ∈ Set.Icc 0 length → 0 ≤ coefficient →
      collected * m.solarIrradiance[c] * coefficient ∈
        Set.Icc 0 (length * m.solarIrradiance[c] * coefficient) := by
    intro collected coefficient hcollected hcoefficient
    have hirradiance := hm.irradiance c hc
    exact ⟨mul_nonneg (mul_nonneg hcollected.1 hirradiance) hcoefficient,
      mul_le_mul_of_nonneg_right (mul_le_mul_of_nonneg_right hcollected.2 hirradiance)
        hcoefficient⟩
  simp only [collected, Vector.getElem_ofFn]
  exact ⟨hfinish (trapezoid_mem hn hlength fun i hi => (integrand_isFraction hx (hf i hi)).1 c hc)
      (hm.rayleigh c hc),
    hfinish (trapezoid_mem hn hlength fun i hi => (integrand_isFraction hx (hf i hi)).2 c hc)
      (hm.mie c hc)⟩

end ScatteringMedium

/-- A transmittance with something to look up answers every question. -/
theorem Transmittance.HasTexel.answers {x : Transmittance ℝ} (hx : x.HasTexel) :
    x.oracle.Answers := by
  cases x with
  | table s t => exact Table.answers hx.1 hx.2 s
  | constant value => exact Oracle.answers_constant value

namespace Parameters

variable {p : Parameters ℝ}

theorem nonneg_medium (hp : p.validate = .ok ()) (rayleigh mie : LayerStack ℝ) :
    (p.medium rayleigh mie).Nonneg where
  irradiance c hc := spectrum_nonneg hp .solarIrradiance ⟨c, hc⟩
  rayleigh c hc := spectrum_nonneg hp .rayleighScattering ⟨c, hc⟩
  mie c hc := spectrum_nonneg hp .mieScattering ⟨c, hc⟩

/-- A computed table holds fractions, unless they are stored as something else. -/
theorem fractional_ofTable (hp : p.validate = .ok ()) {store : ℝ → ℝ}
    (hstore : ∀ z ∈ Set.Ioc (0 : ℝ) 1, store z ∈ Set.Icc (0 : ℝ) 1) {width height count : Value ℝ}
    {table : Table ℝ 4} (h : p.transmittanceTable store width height count = .ok table) :
    (Transmittance.ofTable p table).Fractional := by
  intro texel htexel c hc
  obtain ⟨z, hz, hstored⟩ :=
    transmittanceTable_mem hp h texel htexel texel[c] (Vector.getElem_mem hc)
  rw [hstored]
  exact hstore z hz

/-- In checked parameters whose layers have numbers as coefficients, the light scattered into a
ray is bounded by that of thin air. Lookups in a table of fractions and constant fractions are
fractions wherever they are asked for. With them the light scattered into a ray that passes the
check is, in each channel, not negative and at most the length of the ray times irradiance and
scattering coefficient; a ray without length gets none. Computed tables hold numbers above zero and
up to one, as they are stored. -/
theorem scatterInto_le_thin (hp : p.validate = .ok ()) (hlayers : p.Layered) :
    (∀ x : Transmittance ℝ, x.Fractional →
      (∀ (r mu d : ℝ) (ground : Bool),
        let found := x.betweenAll (.single r) (.single mu) (.single d) (.single ground)
        (x.HasTexel → ∃ value, found = .ok (.single value)) ∧
          ∀ value, found = .ok (.single value) → value.IsFraction) ∧
      (∀ r muS : ℝ,
        let found := x.toSunAll (.single r) (.single muS)
        (x.HasTexel → ∃ value, found = .ok (.single value)) ∧
          ∀ value, found = .ok (.single value) → value.IsFraction) ∧
      ∀ (ray : Ray ℝ) (ground : Bool) (n : ℤ), Ray.checkAll p.shell #[ray] = .ok () → 1 ≤ n →
        (x.HasTexel → ∃ light, p.LitBy x (.integer n) (ray, ground) light) ∧
        ∀ light, p.LitBy x (.integer n) (ray, ground) light →
          let length := p.shell.distanceToNearest ray.r ray.mu ground
          (∀ c (hc : c < 4),
            light.rayleigh[c] ∈
              Set.Icc (0 : ℝ) (length * p.solarIrradiance[c] * p.rayleighScattering[c]) ∧
            light.mie[c] ∈
              Set.Icc (0 : ℝ) (length * p.solarIrradiance[c] * p.mieScattering[c])) ∧
          (length = 0 →
            light.rayleigh = Spectrum.constant 0 ∧ light.mie = Spectrum.constant 0)) ∧
    ∀ (store : ℝ → ℝ) (width height count : Value ℝ) (table : Table ℝ 4),
      p.transmittanceTable store width height count = .ok table →
      (∀ texel ∈ table.texels, ∀ a ∈ texel, ∃ z ∈ Set.Ioc (0 : ℝ) 1, a = store z) ∧
      ((∀ z ∈ Set.Ioc (0 : ℝ) 1, store z ∈ Set.Icc (0 : ℝ) 1) →
        (Transmittance.ofTable p table).Fractional) := by
  obtain ⟨air, hair⟩ := hlayers.exists_hasAir
  have hm := hair.medium?_eq_some
  refine ⟨fun x hx => ⟨fun r mu d ground => ⟨fun htexel => ?_, fun value hvalue => ?_⟩,
    fun r muS => ⟨fun htexel => ?_, fun value hvalue => ?_⟩,
    fun ray ground n hray hn => ⟨fun htexel => ?_, fun light hlight => ?_⟩⟩,
    fun store width height count table htable =>
      ⟨transmittanceTable_mem hp htable, fun hstore => fractional_ofTable hp hstore htable⟩⟩
  · obtain ⟨value, hvalue⟩ := htexel.answers.between r mu d ground
    exact ⟨value, Transmittance.betweenAll_single_iff.mpr ⟨value, hvalue, rfl⟩⟩
  · obtain ⟨_, hbetween, heq⟩ := Transmittance.betweenAll_single_iff.mp hvalue
    cases Tensor.single_inj.mp heq
    exact hx.between hbetween
  · obtain ⟨value, hvalue⟩ := htexel.answers.toSun r muS
    exact ⟨value, Transmittance.toSunAll_single_iff.mpr ⟨value, hvalue, rfl⟩⟩
  · obtain ⟨_, hsun, heq⟩ := Transmittance.toSunAll_single_iff.mp hvalue
    cases Tensor.single_inj.mp heq
    exact hx.toSun hsun
  · obtain ⟨light, hlight⟩ : ∃ light, (p.medium air.rayleigh air.mie).integrate x.oracle n.toNat
        ray ground = .ok light := ScatteringMedium.exists_integrate htexel.answers _ _ _
    exact ⟨light, (litBy_iff hm).mpr ⟨Value.isBelow_integer hn, hray, n, rfl, hlight⟩⟩
  · obtain ⟨-, -, n', hn', hlight⟩ := (litBy_iff hm).mp hlight
    cases hn'
    have hbounds := fun c (hc : c < 4) => ScatteringMedium.integrate_mem
      (nonneg_medium hp air.rayleigh air.mie) hx (by omega : 0 < n.toNat) hlight hc
    refine ⟨hbounds, fun hlength => ?_⟩
    have hnone : ∀ {a b c : ℝ},
        a ∈ Set.Icc 0 (p.shell.distanceToNearest ray.r ray.mu ground * b * c) → a = 0 := by
      intro a b c ha
      rw [hlength, zero_mul, zero_mul] at ha
      exact le_antisymm ha.2 ha.1
    constructor <;> refine Vector.ext fun c hc => ?_ <;> rw [Spectrum.getElem_constant]
    · exact hnone (hbounds c hc).1
    · exact hnone (hbounds c hc).2

/-- A level ray 40 km above the ground of the Earth, in light of which nothing is lost. -/
theorem scatterInto_le_thin_level :
    ∃ light, (earth : Parameters ℝ).LitBy (.constant (Spectrum.constant 1)) (.integer 50)
        (⟨6400000, 0, 1, 0⟩, false) light ∧
      ∀ c (hc : c < 4), light.rayleigh[c] ∈ Set.Icc (0 : ℝ)
        ((earth : Parameters ℝ).shell.distanceToNearest 6400000 0 false *
          (earth : Parameters ℝ).solarIrradiance[c] *
            (earth : Parameters ℝ).rayleighScattering[c]) := by
  have hfraction : (Transmittance.constant (Spectrum.constant (1 : ℝ))).Fractional := fun c hc => by
    rw [Spectrum.getElem_constant]
    exact ⟨zero_le_one, le_rfl⟩
  have hray : Ray.checkAll (earth : Parameters ℝ).shell #[⟨6400000, 0, 1, 0⟩] = .ok () := by
    refine Ray.checkAll_singleton_iff.mpr ⟨?_, by norm_num, by norm_num, by norm_num⟩
    norm_num [earth, Earth.radius, Earth.topRadius]
  obtain ⟨-, -, hlight⟩ := (scatterInto_le_thin validate_earth regular_earth.layered).1 _ hfraction
  obtain ⟨hexists, hbounds⟩ := hlight _ false 50 hray (by decide)
  obtain ⟨light, hlit⟩ := hexists trivial
  exact ⟨light, hlit, fun c hc => ((hbounds light hlit).1 c hc).1⟩

end Parameters

end Airlight
