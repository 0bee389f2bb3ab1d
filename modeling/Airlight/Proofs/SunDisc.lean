import Airlight.Proofs.SingleLookups
import Airlight.Proofs.TransmittanceBounds
import Airlight.Proofs.VoxelLight

/-!
# The sun at the horizon

While the sun rises, the part of its disc above the horizon grows from nothing to all of it: by a
cubic between the two moments at which the disc touches the horizon, and by a step for a sun without
an extent.

## Main definitions

* `smoothCubic` — the cubic that rises from zero to one.
* `RisesAround` — how the visible part of the sun grows around the horizon.
-/

namespace Airlight

open Scalar Texture

/-! ## The cubic -/

/-- The cubic that rises from zero to one with level ends. -/
def smoothCubic {α : Type} [Scalar α] (t : α) : α := t * t * (3.0 - 2.0 * t)

theorem smoothCubic_real (t : ℝ) : smoothCubic t = t * t * (3 - 2 * t) := by
  norm_num [smoothCubic]

theorem smoothCubic_one_sub (t : ℝ) : smoothCubic (1 - t) = 1 - smoothCubic t := by
  rw [smoothCubic_real, smoothCubic_real]
  ring

/-- Between zero and one the cubic does not fall. -/
theorem smoothCubic_le {s t : ℝ} (hs : 0 ≤ s) (hst : s ≤ t) (ht : t ≤ 1) :
    smoothCubic s ≤ smoothCubic t := by
  have hdiff : smoothCubic t - smoothCubic s =
      (t - s) * (2 * (t * (1 - t)) + 2 * (s * (1 - s)) + t * (1 - s) + s * (1 - t)) := by
    rw [smoothCubic_real, smoothCubic_real]
    ring
  have ht0 : 0 ≤ t := hs.trans hst
  have hs1 : 0 ≤ 1 - s := by linarith
  have ht1 : 0 ≤ 1 - t := by linarith
  have hnonneg : 0 ≤ smoothCubic t - smoothCubic s := by
    rw [hdiff]
    have := sub_nonneg.mpr hst
    positivity
  linarith

/-! ## Smooth steps -/

section Smoothstep

variable {edge0 edge1 x : ℝ}

/-- Between distinct edges a smooth step is the cubic of the fraction of the way. -/
theorem smoothstep_of_lt (h : edge0 < edge1) (x : ℝ) :
    smoothstep edge0 edge1 x =
      smoothCubic (min (max ((x - edge0) / (edge1 - edge0)) 0) 1) := by
  have hwidth : (0.0 : ℝ) < edge1 - edge0 := by
    norm_num
    exact h
  unfold smoothstep smoothCubic
  rw [if_pos hwidth]
  norm_num

/-- Where the edges meet it is a step. -/
theorem smoothstep_self (edge x : ℝ) : smoothstep edge edge x = if x < edge then 0 else 1 := by
  unfold smoothstep
  by_cases hx : x < edge
  · norm_num [hx]
  · norm_num [hx, not_lt.mp hx]

theorem smoothstep_of_le_left (h : edge0 < edge1) (hx : x ≤ edge0) :
    smoothstep edge0 edge1 x = 0 := by
  have hfraction : (x - edge0) / (edge1 - edge0) ≤ 0 :=
    div_nonpos_of_nonpos_of_nonneg (by linarith) (by linarith)
  rw [smoothstep_of_lt h, max_eq_right hfraction, min_eq_left zero_le_one]
  norm_num [smoothCubic]

theorem smoothstep_of_right_le (h : edge0 ≤ edge1) (hx : edge1 ≤ x) :
    smoothstep edge0 edge1 x = 1 := by
  rcases h.lt_or_eq with h | rfl
  · have hfraction : 1 ≤ (x - edge0) / (edge1 - edge0) := by
      rw [one_le_div (by linarith)]
      linarith
    rw [smoothstep_of_lt h, max_eq_left (by linarith), min_eq_right hfraction]
    norm_num [smoothCubic]
  · rw [smoothstep_self, if_neg (not_lt.mpr hx)]

/-- A smooth step does not fall. -/
theorem monotone_smoothstep (h : edge0 ≤ edge1) : Monotone (smoothstep edge0 edge1) := by
  intro x y hxy
  rcases h.lt_or_eq with h | rfl
  · have hwidth : 0 ≤ edge1 - edge0 := by linarith
    rw [smoothstep_of_lt h, smoothstep_of_lt h]
    refine smoothCubic_le (le_min (le_max_right _ _) zero_le_one) ?_ (min_le_right _ _)
    gcongr
  · rw [smoothstep_self, smoothstep_self]
    by_cases hy : y < edge0
    · rw [if_pos hy, if_pos (hxy.trans_lt hy)]
    · rw [if_neg hy]
      split_ifs
      · exact zero_le_one
      · exact le_rfl

/-- At two places with the same distance from the middle a smooth step adds up to one. -/
theorem smoothstep_add_reflected (h : edge0 < edge1) (x : ℝ) :
    smoothstep edge0 edge1 x + smoothstep edge0 edge1 (edge0 + edge1 - x) = 1 := by
  have hwidth : edge1 - edge0 ≠ 0 := by linarith
  have hfraction : (edge0 + edge1 - x - edge0) / (edge1 - edge0) =
      1 - (x - edge0) / (edge1 - edge0) := by
    field_simp
    ring
  have hclamp : ∀ t : ℝ, min (max (1 - t) 0) 1 = 1 - min (max t 0) 1 := by
    intro t
    rcases le_total t 0 with h0 | h0
    · rw [max_eq_left (by linarith), max_eq_right h0, min_eq_right (by linarith),
        min_eq_left zero_le_one, sub_zero]
    · rcases le_total t 1 with h1 | h1
      · rw [max_eq_left (by linarith), max_eq_left h0, min_eq_left (by linarith), min_eq_left h1]
      · rw [max_eq_right (by linarith), max_eq_left h0, min_eq_left zero_le_one, min_eq_right h1,
          sub_self]
  rw [smoothstep_of_lt h, smoothstep_of_lt h, hfraction, hclamp, smoothCubic_one_sub]
  ring

end Smoothstep

/-! ## The visible part of the sun -/

/-- A factor grows around the cosine `c` of the horizon, for a sun whose angular radius is `a`. The
disc touches the horizon at a distance of `sine * a` on both sides. -/
structure RisesAround (factor : ℝ → ℝ) (c sine a : ℝ) : Prop where
  monotone : Monotone factor
  mem_unit : ∀ muS, factor muS ∈ Set.Icc (0 : ℝ) 1
  eq_zero : 0 < a → ∀ muS ≤ c - sine * a, factor muS = 0
  eq_one : ∀ muS, c + sine * a ≤ muS → factor muS = 1
  eq_half : 0 < a → factor c = 1 / 2
  add_reflected : 0 < a → ∀ t, factor (c + t) + factor (c - t) = 1
  eq_step : a = 0 → ∀ muS, factor muS = if muS < c then 0 else 1

namespace SunlitShell

variable {s : SunlitShell ℝ} {sine : ℝ}

theorem visiblePart_real (s : SunlitShell ℝ) (sine muS : ℝ) :
    s.visiblePart sine muS = smoothstep (-(sine * s.sunAngularRadius))
      (sine * s.sunAngularRadius) (muS - -√(1 - sine ^ 2)) := by
  have hroot : (1.0 : ℝ) - sine * sine = 1 - sine ^ 2 := by
    norm_num
    ring
  rw [visiblePart, hroot, safeSqrt_real, neg_mul]

/-- The visible part of the sun grows around the horizon. -/
theorem risesAround_visiblePart (hsine : 0 < sine) (hsun : 0 ≤ s.sunAngularRadius) :
    RisesAround (s.visiblePart sine) (-√(1 - sine ^ 2)) sine s.sunAngularRadius := by
  have hhalf : 0 ≤ sine * s.sunAngularRadius := mul_nonneg hsine.le hsun
  have hedges : -(sine * s.sunAngularRadius) ≤ sine * s.sunAngularRadius := by linarith
  have hlt : 0 < s.sunAngularRadius →
      -(sine * s.sunAngularRadius) < sine * s.sunAngularRadius := fun ha => by
    linarith [mul_pos hsine ha]
  have hreflected : 0 < s.sunAngularRadius → ∀ t,
      s.visiblePart sine (-√(1 - sine ^ 2) + t) +
        s.visiblePart sine (-√(1 - sine ^ 2) - t) = 1 := by
    intro ha t
    have hsum := smoothstep_add_reflected (hlt ha) t
    rw [visiblePart_real, visiblePart_real, add_sub_cancel_left, sub_sub_cancel_left]
    rwa [neg_add_cancel, zero_sub] at hsum
  exact {
    monotone := fun x y hxy => by
      rw [visiblePart_real, visiblePart_real]
      exact monotone_smoothstep hedges (sub_le_sub_right hxy _)
    mem_unit := fun muS => by
      rw [visiblePart_real]
      exact smoothstep_mem_unit _ _ _
    eq_zero := fun ha muS hmuS => by
      rw [visiblePart_real]
      exact smoothstep_of_le_left (hlt ha) (by linarith)
    eq_one := fun muS hmuS => by
      rw [visiblePart_real]
      exact smoothstep_of_right_le hedges (by linarith)
    eq_half := fun ha => by
      have hsum := hreflected ha 0
      rw [add_zero, sub_zero] at hsum
      linarith
    add_reflected := hreflected
    eq_step := fun ha muS => by
      have hstep : muS - -√(1 - sine ^ 2) < 0 ↔ muS < -√(1 - sine ^ 2) := sub_neg
      rw [visiblePart_real, ha, mul_zero, neg_zero, smoothstep_self]
      simp only [hstep] }

end SunlitShell

/-! ## Lookups -/

namespace Transmittance

variable {φ : Type} {a : Atmosphere φ ℝ} {t : Table ℝ 4} {r : ℝ}

/-- A table has a transmittance to the sun where it has one to the top. Both differ by the visible
part of the sun. -/
theorem toSunFrom_single_iff (hr : r ≠ 0) {muS : ℝ} {found : Tensor (Spectrum ℝ)} :
    (ofTable a t).toSunFrom (.single r) (.single muS) = .ok found ↔
      ∃ top, t.toTop a.shell r muS = .ok top ∧
        found = .single (top.each (· * a.sunlit.visiblePart (a.bottom / r) muS)) := by
  have hdivide : (divide? a.bottom r : Except (Failure ℝ) ℝ) = .ok (a.bottom / r) := by
    norm_num [divide?, hr]
  have hfrom : (ofTable a t).toSunFrom (.single r) (.single muS) =
      (ofTable a t).toSunAll (.single r) (.single muS) := by
    change (do
      let _ ← divide? a.bottom r
      (ofTable a t).toSunAll (.single r) (.single muS)) = _
    rw [hdivide, ok_bind]
  rw [hfrom, toSunAll_single_iff]
  constructor
  · rintro ⟨value, hvalue, rfl⟩
    obtain ⟨top, htop, hvalue⟩ := bind_eq_ok_iff.mp hvalue
    cases hvalue
    exact ⟨top, htop, rfl⟩
  · rintro ⟨top, htop, rfl⟩
    exact ⟨_, bind_eq_ok_iff.mpr ⟨top, htop, rfl⟩, rfl⟩

end Transmittance

namespace Parameters

variable {p : Parameters ℝ} {r : ℝ}

/-- From every radius of a checked atmosphere, the transmittance to the sun is that to the top times
a factor, which rises around the horizon. -/
theorem toSun_rises (hvalid : p.validate = .ok ()) (hr : r ∈ Set.Icc p.bottom p.top)
    (t : Table ℝ 4) :
    let factor := p.sunlit.visiblePart (p.bottom / r)
    (∀ muS found, (Transmittance.ofTable p t).toSunFrom (.single r) (.single muS) = .ok found ↔
        ∃ top, t.toTop p.shell r muS = .ok top ∧
          found = .single (top.each (· * factor muS))) ∧
      (0 < t.height → 0 < t.width → ∀ muS, ∃ top, t.toTop p.shell r muS = .ok top) ∧
      RisesAround factor (-√(1 - (p.bottom / r) ^ 2)) (p.bottom / r) p.sunAngularRadius := by
  intro factor
  have hbottom := (proper_of_validate hvalid).shell.bottom_pos
  have hr0 : 0 < r := hbottom.trans_le hr.1
  have hsun := zero_le_sunAngularRadius hvalid
  refine ⟨fun muS found => Transmittance.toSunFrom_single_iff hr0.ne', ?_, ?_⟩
  · intro hheight hwidth muS
    exact Table.exists_sample hheight hwidth _ _
  · exact SunlitShell.risesAround_visiblePart (div_pos hbottom hr0) hsun

/-- From the ground of the Earth the horizon is level. Half of the sun is visible there, nothing at
its own radius below, and all of it at its own radius above. -/
theorem toSun_rises_ground :
    let p : Parameters ℝ := earth
    let t : Table ℝ 4 := .ofFn 2 2 id fun _ _ => Spectrum.constant 1
    let factor := p.sunlit.visiblePart (p.bottom / p.bottom)
    p.validate = .ok () ∧ p.bottom ∈ Set.Icc p.bottom p.top ∧
      (∃ top, t.toTop p.shell p.bottom 0 = .ok top ∧
        (Transmittance.ofTable p t).toSunFrom (.single p.bottom) (.single 0) =
          .ok (.single (top.each (· * (1 / 2))))) ∧
      factor (-p.sunAngularRadius) = 0 ∧ factor p.sunAngularRadius = 1 := by
  intro p t factor
  have hr : p.bottom ∈ Set.Icc p.bottom p.top :=
    ⟨le_rfl, (proper_of_validate validate_earth).shell.bottom_lt_top.le⟩
  obtain ⟨hlight, htop, hrises⟩ := toSun_rises validate_earth hr t
  have hsine : p.bottom / p.bottom = 1 :=
    div_self (proper_of_validate validate_earth).shell.bottom_pos.ne'
  have hlevel : -√(1 - (p.bottom / p.bottom) ^ 2) = 0 := by norm_num [hsine]
  have hsun : 0 < p.sunAngularRadius := by norm_num [p, earth, Earth.sunAngularRadius]
  rw [hlevel] at hrises
  refine ⟨validate_earth, hr, ?_, hrises.eq_zero hsun _ ?_, hrises.eq_one _ ?_⟩
  · obtain ⟨top, htop⟩ := htop two_pos two_pos 0
    refine ⟨top, htop, (hlight 0 _).mpr ⟨top, htop, ?_⟩⟩
    have hhalf := hrises.eq_half hsun
    rw [hhalf]
  · rw [hsine, one_mul, zero_sub]
  · rw [hsine, one_mul, zero_add]

end Parameters

end Airlight
