import Airlight.Proofs.Invariants
import Airlight.Proofs.Sphere
import Airlight.Proofs.TableInterpolation
import Airlight.Proofs.Tensors
import Airlight.Proofs.TrapezoidalRule
import Airlight.Transmittance.Lookup

/-!
# Transmittances are fractions

Over the real numbers densities and optical depths are not negative, so a computed transmittance is
positive and at most one. Lookups keep a table of fractions within its range: interpolated values
lie between the texels, quotients are cut off at one, and the visible part of the sun is a
fraction.

## Main definitions

* `Spectrum.IsFraction` — every channel lies between zero and one.
* `Transmittance.Fractional` — a transmittance that is given by fractions.
-/

namespace Airlight

open Scalar Texture

/-! ## Fractions -/

/-- Every channel lies between zero and one. -/
def Spectrum.IsFraction (a : Spectrum ℝ) : Prop := ∀ c (hc : c < 4), a[c] ∈ Set.Icc (0 : ℝ) 1

theorem mul_mem_unit {x y : ℝ} (hx : x ∈ Set.Icc (0 : ℝ) 1) (hy : y ∈ Set.Icc (0 : ℝ) 1) :
    x * y ∈ Set.Icc (0 : ℝ) 1 :=
  ⟨mul_nonneg hx.1 hy.1, mul_le_one₀ hx.2 hy.1 hy.2⟩

theorem clamp_mem_unit (x : ℝ) : clamp x 0.0 1.0 ∈ Set.Icc (0 : ℝ) 1 := by
  have hunit : (0.0 : ℝ) = 0 ∧ (1.0 : ℝ) = 1 := by norm_num
  rw [hunit.1, hunit.2]
  exact ⟨le_clamp x zero_le_one, clamp_le x 0 1⟩

/-- The smooth step rises from zero to one. -/
theorem smoothstep_mem_unit (edge0 edge1 x : ℝ) : smoothstep edge0 edge1 x ∈ Set.Icc (0 : ℝ) 1 := by
  unfold smoothstep
  dsimp only
  split_ifs
  · obtain ⟨hlo, hhi⟩ := clamp_mem_unit ((x - edge0) / (edge1 - edge0))
    generalize clamp ((x - edge0) / (edge1 - edge0)) 0.0 1.0 = t at hlo hhi
    norm_num
    exact ⟨by nlinarith, by nlinarith [mul_nonneg hlo hlo, mul_nonneg hlo (sub_nonneg.mpr hhi)]⟩
  · norm_num
  · norm_num

/-! ## Densities and optical depths -/

theorem Stratum.density_mem_unit (s : Stratum ℝ) (h : ℝ) : s.density h ∈ Set.Icc (0 : ℝ) 1 := by
  unfold Stratum.density
  dsimp only
  split_ifs
  · norm_num
  · exact clamp_mem_unit _

/-- The density of the air is a fraction at every altitude. -/
theorem LayerStack.density_mem_unit (stack : LayerStack ℝ) (h : ℝ) :
    stack.density h ∈ Set.Icc (0 : ℝ) 1 := by
  unfold density
  induction stack.bounded with
  | nil =>
    cases stack.top with
    | none => norm_num [densityAmong]
    | some s => exact s.density_mem_unit h
  | cons bounded rest ih =>
    obtain ⟨upper, s⟩ := bounded
    rw [densityAmong]
    split_ifs
    · exact s.density_mem_unit h
    · exact ih

theorem sumTo_nonneg {f : ℕ → ℝ} (hf : ∀ i, 0 ≤ f i) (n : ℕ) : 0 ≤ sumTo f n := by
  rw [sumTo_eq_sum]
  exact Finset.sum_nonneg fun i _ => hf i

namespace Shell

variable {s : Shell ℝ}

theorem distanceToTop_nonneg (s : Shell ℝ) (r mu : ℝ) : 0 ≤ s.distanceToTop r mu := by
  rw [distanceToTop_real]
  exact le_max_right _ _

theorem distanceToNearest_nonneg (s : Shell ℝ) (r mu : ℝ) (ground : Bool) :
    0 ≤ s.distanceToNearest r mu ground := by
  unfold distanceToNearest
  split_ifs
  · rw [distanceToBottom_real]
    exact le_max_right _ _
  · exact s.distanceToTop_nonneg r mu

theorem opticalLengthOf_nonneg (s : Shell ℝ) {density : ℝ → ℝ} (hdensity : ∀ h, 0 ≤ density h)
    (count : ℤ) (r mu : ℝ) : 0 ≤ s.opticalLengthOf density count r mu := by
  unfold opticalLengthOf
  split_ifs
  · norm_num
  · exact sumTo_nonneg (fun i => mul_nonneg (mul_nonneg (hdensity _) (trapezoidWeight_pos _ i).le)
      (div_nonneg (s.distanceToTop_nonneg r mu) (Nat.cast_nonneg _))) _

end Shell

namespace Parameters

variable {p : Parameters ℝ}

/-- The spectra of checked parameters are not negative. -/
theorem spectrum_nonneg (hp : p.validate = .ok ()) (f : SpectralField) (c : Fin 4) :
    0 ≤ (p.spectrum f).get c := by
  have hmem : (p.spectrum f).get c ∈ p.spectrum f := Vector.getElem_mem c.isLt
  have h := ((validate_eq_ok_iff p).mp hp).spectrum_nonneg f _ hmem
  norm_num at h
  exact h

/-- A computed transmittance is positive and at most one. -/
theorem transmittanceToTop_mem (hp : p.validate = .ok ()) (air : Constituents ℝ) (count : ℤ)
    (r mu : ℝ) {c : ℕ} (hc : c < 4) :
    (p.transmittanceToTop air count r mu)[c] ∈ Set.Ioc (0 : ℝ) 1 := by
  have hlength : ∀ stack : LayerStack ℝ, 0 ≤ p.shell.opticalLengthOf stack.density count r mu :=
    fun stack => p.shell.opticalLengthOf_nonneg (fun h => (stack.density_mem_unit h).1) count r mu
  have hdepth : ∀ (f : SpectralField) (stack : LayerStack ℝ),
      0 ≤ (p.spectrum f).get ⟨c, hc⟩ * p.shell.opticalLengthOf stack.density count r mu :=
    fun f stack => mul_nonneg (spectrum_nonneg hp f _) (hlength stack)
  have hrayleigh := hdepth .rayleighScattering air.rayleigh
  have hmie := hdepth .mieExtinction air.mie
  have habsorption := hdepth .absorptionExtinction air.absorption
  simp only [Atmosphere.transmittanceToTop, Vector.getElem_ofFn, Atmosphere.attenuation, exp_real]
  refine ⟨Real.exp_pos _, Real.exp_le_one_iff.mpr ?_⟩
  exact neg_nonpos.mpr (add_nonneg (add_nonneg hrayleigh hmie) habsorption)

end Parameters

/-! ## Lookups -/

namespace Texture.Table

variable {n : ℕ} {t : Table ℝ n}

/-- Interpolated values of a table of fractions are fractions. -/
theorem sample_mem_unit (ht : ∀ texel ∈ t.texels, ∀ c (hc : c < n), texel[c] ∈ Set.Icc (0 : ℝ) 1)
    {u v : ℝ} {value : Vector ℝ n} (h : t.sample u v = .ok value) {c : ℕ} (hc : c < n) :
    value[c] ∈ Set.Icc (0 : ℝ) 1 := by
  obtain ⟨hheight, hwidth⟩ := pos_of_sample h
  rw [sample_eq hheight hwidth] at h
  obtain rfl := Except.ok.inj h
  obtain ⟨lower, hlower, hle⟩ := exists_texel_le_interpolation hheight hwidth hc u v
  obtain ⟨upper, hupper, hge⟩ := exists_interpolation_le_texel hheight hwidth hc u v
  exact ⟨(ht lower hlower c hc).1.trans hle, hge.trans (ht upper hupper c hc).2⟩

end Texture.Table

/-- A quotient that is cut off at one is a fraction. -/
theorem smaller_ratioOrZero_mem_unit {a : ℝ} (ha : 0 ≤ a) (b : ℝ) :
    smaller (ratioOrZero a b) 1.0 ∈ Set.Icc (0 : ℝ) 1 := by
  have hratio : 0 ≤ ratioOrZero a b := by
    unfold ratioOrZero
    split_ifs with hb
    · norm_num at hb
      exact div_nonneg ha hb.le
    · norm_num
  have hone : (1.0 : ℝ) = 1 := by norm_num
  rw [smaller_real, hone]
  exact ⟨le_min hratio zero_le_one, min_le_right _ _⟩

/-! ## Computed tables -/

/-- The texels of a table hold the values that it was read from. -/
theorem Texture.AnyTable.mem_ofTensor {store : ℝ → ℝ} {t : Tensor ℝ} {a : AnyTable ℝ}
    (h : ofTensor store t = .ok a) : ∀ texel ∈ a.table.texels, ∀ x ∈ texel,
      ∃ z ∈ t.data, x = store z := by
  unfold ofTensor at h
  split at h
  · next height width n hshape =>
    cases h
    intro texel htexel x hx
    obtain ⟨k, hk, rfl⟩ := Vector.getElem_of_mem htexel
    obtain ⟨c, hc, rfl⟩ := Vector.getElem_of_mem hx
    have hlt : k * n + c < t.data.size := by
      calc k * n + c < height * width * n := mul_add_lt hk hc
        _ = t.data.size := by rw [t.size_eq, hshape]; simp [volume, Nat.mul_assoc]
    refine ⟨t.data[k * n + c], Array.getElem_mem hlt, ?_⟩
    simp [Table.ofFn, Nat.div_add_mod', Array.getD, hlt]
  · cases h

namespace Parameters

variable {p : Parameters ℝ}

/-- The texels of a computed table are positive and at most one before they are stored. -/
theorem transmittanceTexels_mem (hp : p.validate = .ok ()) {width height count : Value ℝ}
    {texels : Tensor ℝ} (h : p.transmittanceTexels width height count = .ok texels) :
    ∀ z ∈ texels.data, z ∈ Set.Ioc (0 : ℝ) 1 := by
  obtain ⟨spectra, hspectra, rfl⟩ : ∃ spectra : Tensor (Spectrum ℝ),
      (∀ v ∈ spectra.data, ∀ c (hc : c < 4), v[c] ∈ Set.Ioc (0 : ℝ) 1) ∧
        texels = spectra.components := by
    simp only [transmittanceTexels, bind_eq_ok_iff] at h
    obtain ⟨_, -, _, -, _, -, _, -, _, -, _, -, _, -, _, -, _, -, _, -, _, -, _, -, spectra,
      hspectra, htexels⟩ := h
    cases htexels
    refine ⟨spectra, fun v hv c hc => ?_, rfl⟩
    obtain ⟨a, ⟨j, i⟩, rfl⟩ := Tensor.mem_data_map₂ hspectra hv
    exact transmittanceToTop_mem hp _ _ _ _ hc
  intro z hz
  obtain ⟨v, hv, c, hc, rfl⟩ := Tensor.mem_data_components hz
  exact hspectra v hv c hc

/-- The entries of a computed table are positive and at most one before they are stored. -/
theorem transmittanceTable_mem (hp : p.validate = .ok ()) {store : ℝ → ℝ}
    {width height count : Value ℝ} {table : Table ℝ 4}
    (h : p.transmittanceTable store width height count = .ok table) :
    ∀ texel ∈ table.texels, ∀ x ∈ texel, ∃ z ∈ Set.Ioc (0 : ℝ) 1, x = store z := by
  obtain ⟨texels, htexels, h⟩ := bind_eq_ok_iff.mp h
  obtain ⟨a, ha, hspectral⟩ := bind_eq_ok_iff.mp h
  obtain ⟨n, t⟩ := a
  unfold AnyTable.spectral at hspectral
  split at hspectral
  · next t heq =>
    cases heq
    cases hspectral
    intro texel htexel x hx
    obtain ⟨z, hz, hxz⟩ := AnyTable.mem_ofTensor ha texel htexel x hx
    exact ⟨z, transmittanceTexels_mem hp htexels z hz, hxz⟩
  · cases hspectral

end Parameters

/-! ## Questions about transmittance -/

namespace Transmittance

variable {x : Transmittance ℝ} {r mu d : ℝ} {ground : Bool} {value : Spectrum ℝ}

/-- The texels of the table, or the value that holds everywhere, are fractions. -/
def Fractional : Transmittance ℝ → Prop
  | table _ t => ∀ texel ∈ t.texels, Spectrum.IsFraction texel
  | constant value => value.IsFraction

/-- There is something to look up: the table has a texel. -/
def HasTexel {α : Type} : Transmittance α → Prop
  | table _ t => 0 < t.height ∧ 0 < t.width
  | constant _ => True

/-- The transmittance up to any distance along any ray is a fraction. -/
theorem Fractional.between (hx : x.Fractional) (h : x.oracle.between r mu d ground = .ok value) :
    value.IsFraction := by
  cases x with
  | constant value' =>
    cases h
    exact hx
  | table s t =>
    have htop : ∀ {r mu : ℝ} {top : Spectrum ℝ}, t.toTop s.toShell r mu = .ok top →
        top.IsFraction := fun h c hc => Table.sample_mem_unit hx h hc
    obtain ⟨farBack, hfarBack, h⟩ := bind_eq_ok_iff.mp h
    obtain ⟨nearBack, -, h⟩ := bind_eq_ok_iff.mp h
    obtain ⟨near, hnear, h⟩ := bind_eq_ok_iff.mp h
    obtain ⟨far, -, h⟩ := bind_eq_ok_iff.mp h
    cases h
    intro c hc
    rw [Spectrum.getElem_combine]
    cases ground with
    | true => exact smaller_ratioOrZero_mem_unit (htop hfarBack c hc).1 _
    | false => exact smaller_ratioOrZero_mem_unit (htop hnear c hc).1 _

/-- The transmittance to the sun is a fraction from everywhere. -/
theorem Fractional.toSun (hx : x.Fractional) (h : x.oracle.toSun r mu = .ok value) :
    value.IsFraction := by
  cases x with
  | constant value' =>
    cases h
    exact hx
  | table s t =>
    obtain ⟨top, htop, h⟩ := bind_eq_ok_iff.mp h
    cases h
    intro c hc
    rw [Spectrum.getElem_each]
    exact mul_mem_unit (Table.sample_mem_unit hx htop hc) (smoothstep_mem_unit _ _ _)

end Transmittance

end Airlight
