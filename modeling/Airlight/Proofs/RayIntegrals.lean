import Airlight.Proofs.LayeredAir
import Airlight.Proofs.LayerDensities
import Airlight.Proofs.TrapezoidalRule
import Airlight.Proofs.VoxelLight

/-!
# Integrals along rays

Scattered light and optical lengths are computed by the trapezoidal rule over exactly the ray: the
samples run from its origin to the boundary, and all of them have to succeed. In uniform air with a
constant transmittance nothing varies along the ray, so that the rule gives the exact integral.

## Main definitions

* `ScatteringMedium.collected` — the light that a medium makes of an integrand.
-/

namespace Airlight

open Finset Scalar Texture

namespace ScatteringMedium

variable {m : ScatteringMedium ℝ} {oracle : Oracle ℝ} {ray : Ray ℝ} {ground : Bool} {dx : ℝ}
  {n i remaining : ℕ} {sum total : Scattered ℝ}

/-- The light from an integrand over a length, by the trapezoidal rule with `n` intervals. -/
noncomputable def collected (m : ScatteringMedium ℝ) (f : ℝ → Scattered ℝ) (length : ℝ) (n : ℕ) :
    Scattered ℝ where
  rayleigh := Vector.ofFn fun c => trapezoid (fun d => (f d).rayleigh.get c) length n *
    m.solarIrradiance.get c * m.rayleighScattering.get c
  mie := Vector.ofFn fun c => trapezoid (fun d => (f d).mie.get c) length n *
    m.solarIrradiance.get c * m.mieScattering.get c

/-! ## Sums of samples -/

/-- A sum succeeds only if each of its samples does. -/
theorem exists_terms_of_sumSamples
    (h : m.sumSamples oracle ray ground dx n i remaining sum = .ok total) :
    ∀ k, i ≤ k → k < i + remaining → ∃ term, m.integrand oracle ray (k * dx) ground = .ok term := by
  induction remaining generalizing i sum with
  | zero => intro k hlo hhi; omega
  | succ remaining ih =>
    obtain ⟨term, hterm, h⟩ := bind_eq_ok_iff.mp h
    intro k hlo hhi
    rcases hlo.eq_or_lt with rfl | hlo
    · exact ⟨term, hterm⟩
    · exact ih h k hlo (by omega)

/-- Samples are added with their weights. -/
theorem sumSamples_of_terms {terms : ℕ → Scattered ℝ}
    (h : ∀ k, i ≤ k → k < i + remaining →
      m.integrand oracle ray (k * dx) ground = .ok (terms k)) (sum : Scattered ℝ) :
    ∃ total, m.sumSamples oracle ray ground dx n i remaining sum = .ok total ∧
      ∀ c (hc : c < 4),
        total.rayleigh[c] = sum.rayleigh[c] +
            ∑ k ∈ range remaining, (terms (i + k)).rayleigh[c] * trapezoidWeight n (i + k) ∧
          total.mie[c] = sum.mie[c] +
            ∑ k ∈ range remaining, (terms (i + k)).mie[c] * trapezoidWeight n (i + k) := by
  induction remaining generalizing i sum with
  | zero => exact ⟨sum, rfl, by simp⟩
  | succ remaining ih =>
    obtain ⟨total, htotal, hget⟩ := ih (i := i + 1) (fun k hlo hhi => h k (by omega) (by omega))
      (accumulate sum (terms i) (trapezoidWeight n i))
    refine ⟨total, ?_, fun c hc => ?_⟩
    · rw [sumSamples, h i le_rfl (by omega)]
      exact htotal
    · obtain ⟨hrayleigh, hmie⟩ := hget c hc
      simp only [sum_range_succ', add_zero, hrayleigh, hmie, accumulate, Spectrum.getElem_combine,
        add_assoc, add_comm 1]
      constructor <;> ring

/-- An integrand whose samples all succeed up to the boundary gives light. -/
theorem integrate_of_samples (hn : 0 < n) {f : ℝ → Scattered ℝ} {length : ℝ}
    (hlength : m.distanceToNearest ray.r ray.mu ground = length)
    (hf : ∀ i ≤ n, m.integrand oracle ray (i * length / n) ground = .ok (f (i * length / n))) :
    m.integrate oracle n ray ground = .ok (m.collected f length n) := by
  have hterms : ∀ k, 0 ≤ k → k < 0 + (n + 1) →
      m.integrand oracle ray (k * (length / n)) ground = .ok (f (k * length / n)) := by
    intro k _ hk
    rw [mul_div_assoc']
    exact hf k (by omega)
  obtain ⟨total, htotal, hget⟩ := sumSamples_of_terms (n := n) hterms
    ⟨Spectrum.constant 0.0, Spectrum.constant 0.0⟩
  have hzero : (0.0 : ℝ) = 0 := by norm_num
  simp only [Spectrum.getElem_constant, hzero, zero_add] at hget
  simp only [integrate, hlength, htotal, ok_bind, pure_eq_ok, Except.ok.injEq, collected,
    Scattered.mk.injEq]
  constructor <;> refine congrArg Vector.ofFn (funext fun c => ?_)
  · have hsum := sum_samples_eq_trapezoid hn (fun d => (f d).rayleigh[(c : ℕ)]) length
    rw [← (hget c c.isLt).1] at hsum
    exact congrArg (· * m.solarIrradiance.get c * m.rayleighScattering.get c) hsum
  · have hsum := sum_samples_eq_trapezoid hn (fun d => (f d).mie[(c : ℕ)]) length
    rw [← (hget c c.isLt).2] at hsum
    exact congrArg (· * m.solarIrradiance.get c * m.mieScattering.get c) hsum

/-- The light scattered into a ray is the trapezoidal rule over exactly the length of the ray. It
is there if all samples succeed, up to the last one at the boundary. -/
theorem integrate_eq_ok_iff (hn : 0 < n) {light : Scattered ℝ} {length : ℝ}
    (hlength : m.distanceToNearest ray.r ray.mu ground = length) :
    m.integrate oracle n ray ground = .ok light ↔
      ∃ f : ℝ → Scattered ℝ,
        (∀ i ≤ n, m.integrand oracle ray (i * length / n) ground = .ok (f (i * length / n))) ∧
          light = m.collected f length n := by
  constructor
  · intro h
    obtain ⟨total, htotal, -⟩ := bind_eq_ok_iff.mp h
    have hterms := exists_terms_of_sumSamples htotal
    rw [hlength] at hterms
    let f (d : ℝ) : Scattered ℝ :=
      (m.integrand oracle ray d ground).toOption.getD
        ⟨Spectrum.constant 0, Spectrum.constant 0⟩
    have hf : ∀ i ≤ n, m.integrand oracle ray (i * length / n) ground =
        .ok (f (i * length / n)) := by
      intro i hi
      obtain ⟨term, hterm⟩ := hterms i (Nat.zero_le i) (by omega)
      rw [mul_div_assoc'] at hterm
      simp only [f, hterm, Except.toOption, Option.getD_some]
    refine ⟨f, hf, ?_⟩
    exact Except.ok.inj (h.symm.trans (integrate_of_samples hn hlength hf))
  · rintro ⟨f, hf, rfl⟩
    exact integrate_of_samples hn hlength hf

/-! ## Uniform air -/

/-- With a constant transmittance there is light along every ray, and a constituent of the same
density everywhere gives the exact integral. -/
theorem exists_integrate_constant (m : ScatteringMedium ℝ) (value : Spectrum ℝ) (ray : Ray ℝ)
    (ground : Bool) (hn : 0 < n) :
    let length := m.distanceToNearest ray.r ray.mu ground
    ∃ light, m.integrate (.constant value) n ray ground = .ok light ∧ ∀ rho : ℝ,
      ((∀ h, m.rayleighDensity.density h = rho) → light.rayleigh = Vector.ofFn fun c =>
        value.get c ^ 2 * rho * length * m.solarIrradiance.get c * m.rayleighScattering.get c) ∧
      ((∀ h, m.mieDensity.density h = rho) → light.mie = Vector.ofFn fun c =>
        value.get c ^ 2 * rho * length * m.solarIrradiance.get c * m.mieScattering.get c) := by
  intro length
  let altitude (d : ℝ) : ℝ := m.clampRadius (Shell.radiusAlong ray.r ray.mu d) - m.bottom
  let light := Spectrum.combine (· * ·) value value
  let terms (d : ℝ) : Scattered ℝ := ⟨light.each (· * m.rayleighDensity.density (altitude d)),
    light.each (· * m.mieDensity.density (altitude d))⟩
  have hterms : ∀ d, m.integrand (.constant value) ray d ground = .ok (terms d) := fun _ => rfl
  have hsamples : m.integrate (.constant value) n ray ground =
      .ok (m.collected terms length n) := integrate_of_samples hn rfl fun _ _ => hterms _
  have huniform : ∀ (rho : ℝ) (c : Fin 4),
      trapezoid (fun _ => (light.each (· * rho)).get c) length n =
        value.get c ^ 2 * rho * length := by
    intro rho c
    have hget : (light.each (· * rho))[(c : ℕ)] = value[(c : ℕ)] ^ 2 * rho := by
      rw [Spectrum.getElem_each, Spectrum.getElem_combine, sq]
    rw [trapezoid_const hn]
    exact congrArg (· * length) hget
  refine ⟨_, hsamples, fun rho => ⟨fun hrho => ?_, fun hrho => ?_⟩⟩ <;>
    simp only [collected, terms, hrho, huniform]

end ScatteringMedium

/-- Optical lengths are the trapezoidal rule for the density up to the top of the atmosphere. -/
theorem Profile.HasDensity.opticalLengths_eq_trapezoid {layers : Profile (Tensor ℝ)}
    {density : ℝ → ℝ} (h : layers.HasDensity density) (s : Shell ℝ) {n : ℤ} (hn : 1 ≤ n)
    (r mu : ℝ) :
    s.opticalLengths layers (.integer n) (.single r) (.single mu) =
      .ok (.single (trapezoid (fun d => density (Shell.radiusAlong r mu d - s.bottom))
        (s.distanceToTop r mu) n.toNat)) := by
  rw [h.opticalLengths_single s (by omega) r mu, Shell.opticalLength_eq_trapezoid _ _ (by omega)]

/-- A uniform profile has its density at every altitude. -/
theorem Profile.density_of_uniform {layers : Profile (Value ℝ)} {stack : LayerStack ℝ} {rho : ℝ}
    (hrho : rho ∈ Set.Icc (0 : ℝ) 1) (hstack : layers.stack? = some stack)
    (huniform : layers = (Profile.uniform rho).map DensityLayer.toValues) (h : ℝ) :
    stack.density h = rho := by
  subst huniform
  cases (Profile.stack?_uniform rho).symm.trans hstack
  rw [LayerStack.density_ofLayers, Profile.density_uniform, max_eq_left hrho.1,
    min_eq_left hrho.2]

namespace Parameters

variable {p : Parameters ℝ} {molecules aerosols : LayerStack ℝ}

/-- The light of a ray in range is its integral. -/
theorem litBy_iff_integrate {m : ScatteringMedium ℝ} (hm : p.medium? = some m)
    {x : Transmittance ℝ} {ray : Ray ℝ} {ground : Bool} {n : ℤ} {light : Scattered ℝ} (hn : 1 ≤ n)
    (hray : Ray.checkAll p.shell #[ray] = .ok ()) :
    p.LitBy x (.integer n) (ray, ground) light ↔
      m.integrate x.oracle n.toNat ray ground = .ok light := by
  have hintervals : (Value.integer n : Value ℝ).intervals [] = .ok n := rfl
  rw [litBy_iff hm]
  simp [Value.isBelow_integer hn, hray, hintervals]

/-- In parameters whose scattering layers have numbers as coefficients, the light scattered into a
ray is the trapezoidal rule over exactly the length of the ray, for every transmittance: it is there
if all samples succeed, the last of them at the boundary. Optical lengths are the rule for the
density up to the top of the atmosphere. In uniform air and with a constant transmittance both are
the products that the integrals are. -/
theorem integrals_eq_trapezoid (hmolecules : p.rayleighDensity.stack? = some molecules)
    (haerosols : p.mieDensity.stack? = some aerosols) :
    let m := p.medium molecules aerosols
    (∀ (oracle : Oracle ℝ) (ray : Ray ℝ) (ground : Bool) (n : ℕ) (light : Scattered ℝ), 0 < n →
      let length := p.shell.distanceToNearest ray.r ray.mu ground
      (m.integrate oracle n ray ground = .ok light ↔
        ∃ f : ℝ → Scattered ℝ,
          (∀ i ≤ n, m.integrand oracle ray (i * length / n) ground = .ok (f (i * length / n))) ∧
            m.integrand oracle ray length ground = .ok (f length) ∧
            light = m.collected f length n)) ∧
    (∀ (x : Transmittance ℝ) (ray : Ray ℝ) (ground : Bool) (n : ℤ) (light : Scattered ℝ), 1 ≤ n →
      Ray.checkAll p.shell #[ray] = .ok () →
        (p.LitBy x (.integer n) (ray, ground) light ↔
          m.integrate x.oracle n.toNat ray ground = .ok light)) ∧
    (∀ (layers : Profile (Tensor ℝ)) (density : ℝ → ℝ), layers.HasDensity density →
      ∀ (r mu : ℝ) (n : ℤ), 1 ≤ n →
        p.shell.opticalLengths layers (.integer n) (.single r) (.single mu) =
          .ok (.single (trapezoid (fun d => density (Shell.radiusAlong r mu d - p.bottom))
            (p.shell.distanceToTop r mu) n.toNat))) ∧
    ∀ rho ∈ Set.Icc (0 : ℝ) 1, ∀ n : ℤ, 1 ≤ n →
      (∀ (value : Spectrum ℝ) (ray : Ray ℝ) (ground : Bool),
        Ray.checkAll p.shell #[ray] = .ok () →
          let length := p.shell.distanceToNearest ray.r ray.mu ground
          ∃ light, p.LitBy (.constant value) (.integer n) (ray, ground) light ∧
            (p.rayleighDensity = (Profile.uniform rho).map DensityLayer.toValues →
              light.rayleigh = Vector.ofFn fun c => value.get c ^ 2 * rho * length *
                p.solarIrradiance.get c * p.rayleighScattering.get c) ∧
            (p.mieDensity = (Profile.uniform rho).map DensityLayer.toValues →
              light.mie = Vector.ofFn fun c => value.get c ^ 2 * rho * length *
                p.solarIrradiance.get c * p.mieScattering.get c)) ∧
      ∀ r mu : ℝ,
        p.shell.opticalLengths (Profile.uniformOver (.single rho)) (.integer n) (.single r)
            (.single mu) = .ok (.single (rho * p.shell.distanceToTop r mu)) := by
  intro m
  have hm : p.medium? = some m := by simp [medium?, hmolecules, haerosols, m]
  refine ⟨fun oracle ray ground n light hn => ?_,
    fun x ray ground n light hn hray => litBy_iff_integrate hm hn hray,
    fun layers density hdensity r mu n hn => hdensity.opticalLengths_eq_trapezoid p.shell hn r mu,
    fun rho hrho n hn => ⟨fun value ray ground hray => ?_, fun r mu => ?_⟩⟩
  · rw [ScatteringMedium.integrate_eq_ok_iff hn rfl]
    constructor
    · rintro ⟨f, hf, hlight⟩
      have hlast := hf n le_rfl
      rw [last_sample_eq hn] at hlast
      exact ⟨f, hf, hlast, hlight⟩
    · rintro ⟨f, hf, -, hlight⟩
      exact ⟨f, hf, hlight⟩
  · obtain ⟨light, hlight, hvalues⟩ := m.exists_integrate_constant value ray ground
      (by omega : 0 < n.toNat)
    exact ⟨light, (litBy_iff_integrate hm hn hray).mpr hlight,
      fun h => (hvalues rho).1 (Profile.density_of_uniform hrho hmolecules h),
      fun h => (hvalues rho).2 (Profile.density_of_uniform hrho haerosols h)⟩
  · rw [(Profile.hasDensity_uniformOver rho).opticalLengths_eq_trapezoid p.shell hn r mu,
      max_eq_left hrho.1, min_eq_left hrho.2, trapezoid_const (by omega)]

/-- A level ray through uniform molecules, of which half of the light survives every way. -/
theorem integrals_eq_trapezoid_level :
    let p : Parameters ℝ :=
      { earth with rayleighDensity := (Profile.uniform 1).map DensityLayer.toValues }
    ∃ light, p.LitBy (.constant (Spectrum.constant (1 / 2))) (.integer 3)
        (⟨6400000, 0, 1, 0⟩, false) light ∧
      light.rayleigh = Vector.ofFn fun c => (Spectrum.constant (1 / 2)).get c ^ 2 * 1 *
        p.shell.distanceToNearest 6400000 0 false * p.solarIrradiance.get c *
          p.rayleighScattering.get c := by
  intro p
  have hray : Ray.checkAll p.shell #[⟨6400000, 0, 1, 0⟩] = .ok () := by
    refine Ray.checkAll_singleton_iff.mpr ⟨?_, by norm_num, by norm_num, by norm_num⟩
    norm_num [p, earth, Earth.radius, Earth.topRadius]
  obtain ⟨-, -, -, huniform⟩ := integrals_eq_trapezoid (p := p) (Profile.stack?_uniform 1)
    regular_earth.hasAir.mie
  obtain ⟨light, hlight, hrayleigh, -⟩ :=
    (huniform 1 (by norm_num) 3 (by decide)).1 (Spectrum.constant (1 / 2)) _ false hray
  exact ⟨light, hlight, hrayleigh rfl⟩

end Parameters

end Airlight
