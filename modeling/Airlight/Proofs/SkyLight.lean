import Airlight.Proofs.RayIntegrals
import Airlight.Proofs.TransmittanceBounds

/-!
# Light from the sky

Where some light survives every way and molecules are found at every altitude, each sample of the
trapezoidal rule adds light in each channel. So a ray of some length sees light, and so do the
voxels on the ground that look at the sky.

## Main definitions

* `Spectrum.Bright` — there is light in each channel.
* `ScatteringMedium.Luminous` — a medium in which molecules scatter light everywhere.
-/

namespace Airlight

open Scalar Texture Grid

/-- There is light in each channel. -/
def Spectrum.Bright (a : Spectrum ℝ) : Prop := ∀ c (hc : c < 4), (0 : ℝ) < a[c]

theorem Spectrum.bright_constant {x : ℝ} (hx : 0 < x) : (Spectrum.constant x).Bright :=
  fun c hc => by rwa [Spectrum.getElem_constant]

/-- The density of a layer that falls off exponentially is positive at every altitude. -/
theorem DensityLayer.density_exponential_pos {layer : DensityLayer ℝ} (hexp : 0 < layer.expTerm)
    (hlinear : layer.linearTerm = 0) (hconstant : layer.constantTerm = 0) (h : ℝ) :
    0 < layer.density h := by
  have hterm : 0 < layer.expTerm * Real.exp (layer.expScale * h) := mul_pos hexp (Real.exp_pos _)
  rw [density, hlinear, hconstant, clamp_real, exp_real]
  norm_num
  exact hterm

/-- Weights of which each is the same are read from a matrix that holds nothing else. -/
theorem Colour.Projection.ofMatrix_constant (x : ℝ) :
    Projection.ofMatrix (.ofFn [4, 4] fun _ => x) =
      .ok (Vector.ofFn fun _ => Spectrum.constant x) := by
  have hsize : (Tensor.ofFn [4, 4] fun _ => x).data.size = 16 := by
    simp [Tensor.ofFn, volume]
  refine (dif_pos ⟨hsize, rfl⟩).trans (congrArg Except.ok ?_)
  ext i hi c hc
  simp [Tensor.ofFn, Spectrum.constant]

/-- Light has luminance. -/
theorem Colour.Projection.apply_pos {m : Projection ℝ} (hm : (m.get 0).Bright) {a : Spectrum ℝ}
    (ha : a.Bright) : 0 < (m.apply a).get 0 := by
  have hterm : ∀ c (hc : c < 4), (0 : ℝ) < a[c] * m[0][c] := fun c hc => mul_pos (ha c hc) (hm c hc)
  have h0 := hterm 0 (by decide)
  have h1 := hterm 1 (by decide)
  have h2 := hterm 2 (by decide)
  have h3 := hterm 3 (by decide)
  change (0 : ℝ) < a[0] * m[0][0] + a[1] * m[0][1] + a[2] * m[0][2] + a[3] * m[0][3]
  linarith

/-! ## Integrals -/

namespace ScatteringMedium

/-- The sun shines in each channel, and molecules scatter its light at every altitude. -/
structure Luminous (m : ScatteringMedium ℝ) : Prop where
  density_pos : ∀ h, 0 < m.rayleighDensity.density h
  scattering_pos : m.rayleighScattering.Bright
  irradiance_pos : m.solarIrradiance.Bright

variable {m : ScatteringMedium ℝ} {value : Spectrum ℝ} {ray : Ray ℝ} {ground : Bool}

theorem integrand_bright (hm : m.Luminous) (hvalue : value.Bright) {d : ℝ} {term : Scattered ℝ}
    (h : m.integrand (.constant value) ray d ground = .ok term) : term.rayleigh.Bright := by
  cases h
  intro c hc
  rw [Spectrum.getElem_each, Spectrum.getElem_combine]
  exact mul_pos (mul_pos (hvalue c hc) (hvalue c hc)) (hm.density_pos _)

/-- A ray of some length sees light. -/
theorem integrate_bright (hm : m.Luminous) (hvalue : value.Bright) {n : ℕ} (hn : 0 < n)
    (hdistance : 0 < m.distanceToNearest ray.r ray.mu ground) {light : Scattered ℝ}
    (h : m.integrate (.constant value) n ray ground = .ok light) : light.rayleigh.Bright := by
  obtain ⟨f, hf, rfl⟩ := (integrate_eq_ok_iff hn rfl).mp h
  intro c hc
  have hcollected : 0 < trapezoid (fun d => (f d).rayleigh.get ⟨c, hc⟩)
      (m.distanceToNearest ray.r ray.mu ground) n :=
    trapezoid_pos hn hdistance fun i hi => integrand_bright hm hvalue (hf i hi) c hc
  simp only [collected, Vector.getElem_ofFn]
  exact mul_pos (mul_pos hcollected (hm.irradiance_pos c hc)) (hm.scattering_pos c hc)

end ScatteringMedium

/-! ## Voxels -/

namespace Grid.GridScale

variable {e : Extents} {v : Voxel} {s : LitShell ℝ}

/-- On the ground the way to the sky has some length. -/
theorem distanceToNearest_sky_pos (hs : s.Proper) (hv : e.shape.contains v = true)
    (hground : v.z = 0) (hhigh : (e.muSize / 2 : ℕ) ≤ v.y) :
    0 < s.toShell.distanceToNearest (e.scale.rayAt s v).1.r (e.scale.rayAt s v).1.mu
      (e.scale.rayAt s v).2 := by
  have hflag : (e.scale.rayAt s v).2 = false := by
    rw [rayAt_ground]
    exact decide_eq_false fun h => absurd (uMu_lt_half_iff.mp h) (not_lt.mpr hhigh)
  obtain ⟨r, -, hrad, hfirst⟩ := Shell.exists_radiusAt hs.shell (unit_uR_mem hv)
  have hbottom : (e.scale.rayAt s v).1.r = s.bottom := by
    rw [rayAt_r, Extents.scale_r, hrad]
    refine hfirst ?_
    rw [centre_uR, hground, unitOfCoord_centre e.one_lt_rSize, Int.cast_zero, zero_div]
  obtain ⟨hr, hmu, hflat, -⟩ := rayAt_sky_spec hv hs hhigh
  have hdistance := (Shell.distanceToTop_mem hs.shell hr hmu.2 hflat).1
  have htop := hs.shell.bottom_lt_top
  rw [hflag, Shell.distanceToNearest, if_neg Bool.false_ne_true]
  rw [hbottom] at hdistance ⊢
  linarith

end Grid.GridScale

namespace Kernel

/-- In luminous air voxels on the ground that look at the sky see light. -/
theorem sky_bright {k : Kernel ℝ} {value : Spectrum ℝ}
    (hvalid : k.atmosphere.validate = .ok ()) (hregular : k.atmosphere.Regular)
    (hm : (k.atmosphere.medium (k.atmosphere.stack .rayleighDensity)
      (k.atmosphere.stack .mieDensity)).Luminous)
    (hconstant : k.transmittance = .constant value) (hvalue : value.Bright)
    {n : ℤ} (hcount : k.sampleCount = .integer n) (hn : 1 ≤ n) {v : Voxel}
    (hv : k.extents.shape.contains v = true) (hground : v.z = 0)
    (hhigh : (k.extents.muSize / 2 : ℕ) ≤ v.y) {light : Scattered ℝ}
    (hlight : k.evaluate (.single v) = .ok ⟨.single light.rayleigh, .single light.mie⟩) :
    light.rayleigh.Bright := by
  have hlit : k.atmosphere.LitBy k.transmittance k.sampleCount
      (k.extents.scale.rayAt k.atmosphere.toLitShell v) light := by
    rw [Parameters.LitBy, ← hlight, evaluate, Tensor.map_single]
  obtain ⟨-, -, n', hn', hintegrate⟩ :=
    (Parameters.litBy_iff (Parameters.medium?_regular hregular)).mp hlit
  rw [hcount] at hn'
  cases hn'
  rw [hconstant] at hintegrate
  exact ScatteringMedium.integrate_bright hm hvalue (by omega)
    (GridScale.distanceToNearest_sky_pos (Parameters.proper_of_validate hvalid) hv hground hhigh)
    hintegrate

end Kernel

namespace Parameters

/-- The air of the Earth is luminous. -/
theorem luminous_earth : ((earth : Parameters ℝ).medium (earth.stack .rayleighDensity)
    (earth.stack .mieDensity)).Luminous where
  density_pos h := by
    refine DensityLayer.density_exponential_pos ?_ ?_ ?_ h <;>
      norm_num [LayerStack.stratum, DensityLayer.amounts, DensityLayer.toValues, Value.amount,
        DensityLayer.empty]
  scattering_pos c hc := by
    rw [Parameters.medium]
    simp only [earth, Vector.getElem_map]
    exact Earth.rayleighScattering_pos (Earth.wavelengths_pos (Vector.getElem_mem hc))
  irradiance_pos c hc := by
    have hmem : (earth : Parameters ℝ).solarIrradiance[c] ∈ (Earth.solarIrradiance : Spectrum ℝ) :=
      Vector.getElem_mem hc
    change (0 : ℝ) < (earth : Parameters ℝ).solarIrradiance[c]
    simp only [Earth.solarIrradiance, Vector.mem_mk, List.mem_toArray, List.mem_cons,
      List.not_mem_nil, or_false] at hmem
    rcases hmem with h | h | h | h <;> rw [h] <;> norm_num

end Parameters

end Airlight
