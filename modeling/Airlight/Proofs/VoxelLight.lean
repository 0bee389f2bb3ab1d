import Airlight.Proofs.RegularLayers
import Airlight.Proofs.TableInterpolation
import Airlight.Proofs.VoxelRays
import Airlight.Proofs.KernelEvaluation

/-!
# Every voxel has light

An integral over a ray fails only when its questions about transmittance do. A constant
transmittance answers all of them, and so does a table that has a texel, because every lookup is
moved to its edges. In checked parameters the kernel can therefore be evaluated at every voxel.

## Main definitions

* `Oracle.Answers` — the oracle has an answer to each question of an integral.
-/

namespace Airlight

open Grid Scalar Texture

/-- The oracle answers what a scattering integral asks. -/
structure Oracle.Answers {α : Type} (oracle : Oracle α) : Prop where
  between : ∀ r mu d ground, ∃ t, oracle.between r mu d ground = .ok t
  toSun : ∀ r muS, ∃ t, oracle.toSun r muS = .ok t

/-! ## Transmittances that answer -/

theorem Oracle.answers_constant {α : Type} (value : Spectrum α) : (Oracle.constant value).Answers :=
  ⟨fun _ _ _ _ => ⟨value, rfl⟩, fun _ _ => ⟨value, rfl⟩⟩

namespace Texture.Table

variable {n : Nat} {t : Table ℝ n}

/-- A table with a texel can be sampled everywhere. -/
theorem exists_sample (hheight : 0 < t.height) (hwidth : 0 < t.width) (u v : ℝ) :
    ∃ value, t.sample u v = .ok value :=
  ⟨_, sample_eq hheight hwidth u v⟩

/-- A table with a texel answers every question. -/
theorem answers {t : Table ℝ 4} (hheight : 0 < t.height) (hwidth : 0 < t.width)
    (s : SunlitShell ℝ) : (Oracle.ofTable s t).Answers where
  between r mu d ground := by
    have htop : ∀ r mu, ∃ value, t.toTop s.toShell r mu = .ok value :=
      fun _ _ => exists_sample hheight hwidth _ _
    obtain ⟨farBack, hfarBack⟩ := htop (s.clampRadius (Shell.radiusAlong r mu d))
      (-clampCosine ((r * mu + d) / s.clampRadius (Shell.radiusAlong r mu d)))
    obtain ⟨nearBack, hnearBack⟩ := htop r (-mu)
    obtain ⟨near, hnear⟩ := htop r mu
    obtain ⟨far, hfar⟩ := htop (s.clampRadius (Shell.radiusAlong r mu d))
      (clampCosine ((r * mu + d) / s.clampRadius (Shell.radiusAlong r mu d)))
    simp only [Oracle.ofTable, between, hfarBack, hnearBack, hnear, hfar, ok_bind]
    exact ⟨_, rfl⟩
  toSun r muS := by
    obtain ⟨top, htop⟩ : ∃ value, t.toTop s.toShell r muS = .ok value :=
      exists_sample hheight hwidth _ _
    simp only [Oracle.ofTable, toSun, htop, ok_bind]
    exact ⟨_, rfl⟩

end Texture.Table

/-! ## Integrals -/

namespace ScatteringMedium

variable {α : Type} [Scalar α] {m : ScatteringMedium α} {oracle : Oracle α}

theorem exists_integrand (h : oracle.Answers) (ray : Ray α) (d : α) (ground : Bool) :
    ∃ term, m.integrand oracle ray d ground = .ok term := by
  obtain ⟨back, hback⟩ := h.between ray.r ray.mu d ground
  obtain ⟨sun, hsun⟩ := h.toSun (m.clampRadius (Shell.radiusAlong ray.r ray.mu d))
    (clampCosine ((ray.r * ray.muS + d * ray.nu) /
      m.clampRadius (Shell.radiusAlong ray.r ray.mu d)))
  simp only [integrand, hback, hsun, ok_bind]
  exact ⟨_, rfl⟩

theorem exists_sumSamples (h : oracle.Answers) (ray : Ray α) (ground : Bool) (dx : α)
    (n i remaining : Nat) (sum : Scattered α) :
    ∃ total, m.sumSamples oracle ray ground dx n i remaining sum = .ok total := by
  induction remaining generalizing i sum with
  | zero => exact ⟨sum, rfl⟩
  | succ remaining ih =>
    obtain ⟨term, hterm⟩ := exists_integrand (m := m) h ray ((i : α) * dx) ground
    simp only [sumSamples, hterm, ok_bind]
    exact ih (i + 1) _

/-- An integral succeeds if its oracle answers. -/
theorem exists_integrate (h : oracle.Answers) (n : Nat) (ray : Ray α) (ground : Bool) :
    ∃ light, m.integrate oracle n ray ground = .ok light := by
  obtain ⟨sum, hsum⟩ := exists_sumSamples (m := m) h ray ground
    (m.distanceToNearest ray.r ray.mu ground / (n : α)) n 0 (n + 1)
    ⟨Spectrum.constant 0.0, Spectrum.constant 0.0⟩
  simp only [integrate, hsum, ok_bind]
  exact ⟨_, rfl⟩

end ScatteringMedium

/-! ## Voxels -/

namespace Kernel

/-- In checked parameters with regular profiles every voxel of the grid has light. -/
theorem exists_light {k : Kernel ℝ} (hvalid : k.atmosphere.validate = .ok ())
    (hregular : k.atmosphere.Regular) {n : Int} (hcount : k.sampleCount = .integer n) (hn : 1 ≤ n)
    (hanswers : k.transmittance.oracle.Answers) :
    ∃ light : Voxel → Scattered ℝ, ∀ v, k.extents.shape.contains v = true →
      k.evaluate (.single v) = .ok ⟨.single (light v).rayleigh, .single (light v).mie⟩ := by
  have hm := Parameters.medium?_regular hregular
  have hintegrate : ∀ v : Voxel, ∃ light, (k.atmosphere.medium (k.atmosphere.stack .rayleighDensity)
      (k.atmosphere.stack .mieDensity)).integrate k.transmittance.oracle n.toNat
        (k.extents.scale.rayAt k.atmosphere.toLitShell v).1
        (k.extents.scale.rayAt k.atmosphere.toLitShell v).2 = .ok light :=
    fun v => ScatteringMedium.exists_integrate hanswers _ _ _
  choose light hlight using hintegrate
  refine ⟨light, fun v hv => ?_⟩
  have hcheck := GridScale.checkAll_rayAt hv (Parameters.proper_of_validate hvalid)
  have hlit : k.atmosphere.LitBy k.transmittance k.sampleCount
      (k.extents.scale.rayAt k.atmosphere.toLitShell v) (light v) := by
    rw [Parameters.litBy_iff hm, hcount]
    exact ⟨Value.isBelow_integer hn, hcheck, n, rfl, hlight v⟩
  rw [evaluate, Tensor.map_single]
  exact hlit

end Kernel

end Airlight
