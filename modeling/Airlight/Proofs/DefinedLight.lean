import Airlight.Proofs.DefinedRays
import Airlight.Proofs.VoxelLight

/-!
# Lookups and integrals divide by no zero

Over the partial real numbers the lookups of transmittance, the integrand of the scattered light and
the integral along the ray of a voxel give the numbers that they give over the real ones. Together
with the maps of rays and of table coordinates they neither divide by zero nor take a root of a
negative number.

## Main definitions

* `DefinedAs` — a computation over the partial numbers has the result of one over the real numbers.
* `Oracle.DefinedIn` — an oracle gives defined answers in a shell.
* `Transmittance.Sufficient` — a transmittance is constant or a table of an atmosphere that has two
  texels each way.
* `Parameters.Defined` — maps, lookups and integrals of an atmosphere are defined.
-/

namespace Airlight

open Grid GridSizes PartialReal Scalar Texture

variable {w : Verdict}

/-! ## Computations that may fail -/

/-- The computation over the real numbers has a result, and so has the one over the partial
numbers: what `f` makes of it. -/
def DefinedAs {β γ : Type} (f : β → γ) (defined : Except (Failure (PartialReal w)) γ)
    (real : Except (Failure ℝ) β) : Prop :=
  ∃ b, real = .ok b ∧ defined = .ok (f b)

theorem definedAs_ok {β γ : Type} {f : β → γ} {b : β} {c : γ} (h : c = f b) :
    DefinedAs f (.ok c : Except (Failure (PartialReal w)) γ) (.ok b) :=
  ⟨b, rfl, congrArg Except.ok h⟩

theorem DefinedAs.bind {β γ β' γ' : Type} {f : β → γ} {g : β' → γ'}
    {defined : Except (Failure (PartialReal w)) γ} {real : Except (Failure ℝ) β}
    {next : γ → Except (Failure (PartialReal w)) γ'} {nextReal : β → Except (Failure ℝ) β'}
    (h : DefinedAs f defined real) (hnext : ∀ b, DefinedAs g (next (f b)) (nextReal b)) :
    DefinedAs g (defined >>= next) (real >>= nextReal) := by
  obtain ⟨b, rfl, rfl⟩ := h
  exact hnext b

/-! ## Structures of partial numbers -/

section

variable {α β : Type} (f : α → β)

theorem Spectrum.combine_map {f : α → β} {g : α → α → α} {g' : β → β → β}
    (h : ∀ x y, g' (f x) (f y) = f (g x y)) (a b : Spectrum α) :
    Spectrum.combine g' (a.map f) (b.map f) = (Spectrum.combine g a b).map f := by
  ext c hc
  simp [h]

theorem Spectrum.each_map {f : α → β} {g : α → α} {g' : β → β} (h : ∀ x, g' (f x) = f (g x))
    (a : Spectrum α) : Spectrum.each g' (a.map f) = (Spectrum.each g a).map f := by
  ext c hc
  simp [h]

/-- Converts the numbers of a table. -/
@[simps] def Texture.Table.map {n : ℕ} (t : Table α n) : Table β n :=
  ⟨t.height, t.width, t.texels.map (Vector.map f)⟩

/-- Converts the numbers on which lookups depend. -/
def SunlitShell.map (s : SunlitShell α) : SunlitShell β :=
  { toShell := s.toShell.map f, sunAngularRadius := f s.sunAngularRadius }

@[simp] theorem SunlitShell.map_toShell (s : SunlitShell α) : (s.map f).toShell = s.toShell.map f :=
  rfl

@[simp] theorem SunlitShell.map_sunAngularRadius (s : SunlitShell α) :
    (s.map f).sunAngularRadius = f s.sunAngularRadius := rfl

/-- Converts the numbers of a transmittance. -/
def Transmittance.map : Transmittance α → Transmittance β
  | .table s t => .table (s.map f) (t.map f)
  | .constant value => .constant (value.map f)

/-- Converts the coefficients of a layer. -/
@[simps] def DensityLayer.map (layer : DensityLayer α) : DensityLayer β :=
  ⟨f layer.width, f layer.expTerm, f layer.expScale, f layer.linearTerm, f layer.constantTerm⟩

/-- Converts the coefficients of a layer of a stack. -/
@[simps] def Stratum.map (s : Stratum α) : Stratum β := ⟨s.layer.map f, s.clears⟩

/-- Converts the numbers of a stack. -/
@[simps] def LayerStack.map (stack : LayerStack α) : LayerStack β :=
  ⟨stack.bounded.map (Prod.map f (Stratum.map f)), stack.top.map (Stratum.map f)⟩

/-- Converts the numbers that scattering integrals read. -/
def ScatteringMedium.map (m : ScatteringMedium α) : ScatteringMedium β where
  toShell := m.toShell.map f
  rayleighDensity := m.rayleighDensity.map f
  mieDensity := m.mieDensity.map f
  rayleighScattering := m.rayleighScattering.map f
  mieScattering := m.mieScattering.map f
  solarIrradiance := m.solarIrradiance.map f

/-- Converts scattered light. -/
def Scattered.map (light : Scattered α) : Scattered β := ⟨light.rayleigh.map f, light.mie.map f⟩

end

/-! ## Steps and densities -/

theorem smoothstep_coe (edge0 edge1 x : ℝ) :
    smoothstep (edge0 : PartialReal w) edge1 x = (smoothstep edge0 edge1 x : ℝ) := by
  by_cases hwidth : 0.0 < edge1 - edge0
  · have hne : edge1 - edge0 ≠ 0 := by
      norm_num at hwidth
      linarith
    simp only [smoothstep, sub_coe, scientific_coe, lt_coe, hwidth, if_true, div_coe hne, clamp_coe,
      mul_coe]
  · simp only [smoothstep, sub_coe, scientific_coe, lt_coe, hwidth, if_false, le_coe]
    exact ite_coe _ _ _ _

theorem SunlitShell.visiblePart_coe (s : SunlitShell ℝ) (sine muS : ℝ) :
    (s.map ofReal).visiblePart (sine : PartialReal w) muS = (s.visiblePart sine muS : ℝ) := by
  simp only [visiblePart, map_sunAngularRadius, scientific_coe, mul_coe, sub_coe, safeSqrt_coe,
    neg_coe, smoothstep_coe]

theorem ratioOrZero_coe (a b : ℝ) :
    ratioOrZero (a : PartialReal w) b = (ratioOrZero a b : ℝ) := by
  by_cases hb : 0.0 < b
  · have hne : b ≠ 0 := by
      norm_num at hb
      exact hb.ne'
    simp only [ratioOrZero, scientific_coe, lt_coe, hb, if_true, div_coe hne]
  · simp only [ratioOrZero, scientific_coe, lt_coe, hb, if_false]

theorem DensityLayer.density_coe (layer : DensityLayer ℝ) (h : ℝ) :
    (layer.map ofReal).density (h : PartialReal w) = (layer.density h : ℝ) := by
  simp only [density, map_expTerm, map_expScale, map_linearTerm, map_constantTerm, mul_coe, exp_coe,
    add_coe, scientific_coe, clamp_coe]

theorem Stratum.density_coe (s : Stratum ℝ) (h : ℝ) :
    (s.map ofReal).density (h : PartialReal w) = (s.density h : ℝ) := by
  have hdefined : decide ((s.layer.density h : PartialReal w) ≤ (s.layer.density h : ℝ)) = true :=
    decide_eq_true (le_coe.mpr le_rfl)
  simp [density, DensityLayer.density_coe, hdefined]

theorem LayerStack.density_coe (stack : LayerStack ℝ) (h : ℝ) :
    (stack.map ofReal).density (h : PartialReal w) = (stack.density h : ℝ) := by
  simp only [density, map_bounded, map_top]
  induction stack.bounded with
  | nil =>
    cases stack.top with
    | none => exact scientific_coe _ _ _
    | some s => exact s.density_coe h
  | cons first rest ih =>
    obtain ⟨upper, s⟩ := first
    simp only [List.map_cons, Prod.map, densityAmong, ih, Stratum.density_coe, lt_coe]
    exact ite_coe _ _ _ _

/-- The squared distance from the centre is a sum of squares if the ray has a direction. -/
theorem Shell.radiusAlong_coe {mu : ℝ} (hmu : mu ∈ Set.Icc (-1) 1) (r d : ℝ) :
    radiusAlong (r : PartialReal w) mu d = (radiusAlong r mu d : ℝ) := by
  have hroot : 0 ≤ d * d + 2.0 * r * mu * d + r * r := by
    have hsin : 0 ≤ 1 - mu ^ 2 := by nlinarith [hmu.1, hmu.2]
    have hsplit : d * d + 2.0 * r * mu * d + r * r = (d + r * mu) ^ 2 + r ^ 2 * (1 - mu ^ 2) := by
      norm_num
      ring
    rw [hsplit]
    exact add_nonneg (sq_nonneg _) (mul_nonneg (sq_nonneg r) hsin)
  simp only [radiusAlong, mul_coe, scientific_coe, add_coe, sqrt_coe hroot]

/-! ## Lookups -/

namespace Texture.Table

variable {n : ℕ}

theorem texel?_map {α β : Type} [Scalar α] [Scalar β] (f : α → β) (t : Table α n) (j i : ℕ) :
    (t.map f).texel? j i = (t.texel? j i).map (Vector.map f) := by
  simp only [texel?, map_width, map_texels]
  split_ifs
  · exact Vector.getElem?_map
  · rfl

theorem edgeIndex?_coe (x : ℝ) (count : ℕ) :
    edgeIndex? (x : PartialReal w) count = edgeIndex? x count := by
  simp only [edgeIndex?, natCast_coe, scientific_coe, sub_coe, clamp_coe, toNat?_coe]

theorem blend_coe (a b c d fx fy : ℝ) :
    blend (a : PartialReal w) b c d fx fy = (blend a b c d fx fy : ℝ) := by
  simp only [blend, scientific_coe, sub_coe, mul_coe, add_coe]

theorem sample_coe {t : Table ℝ n} (hheight : 0 < t.height) (hwidth : 0 < t.width) (u v : ℝ) :
    DefinedAs (Vector.map ofReal) ((t.map ofReal).sample (u : PartialReal w) v) (t.sample u v) := by
  obtain ⟨value, hvalue⟩ := exists_sample hheight hwidth u v
  refine ⟨value, hvalue, ?_⟩
  simp only [sample] at hvalue
  split at hvalue
  · next i0 i1 j0 j1 hi0 hi1 hj0 hj1 =>
    split at hvalue
    · next t00 t01 t10 t11 h00 h01 h10 h11 =>
      cases hvalue
      simp only [sample, map_width, map_height, natCast_coe, mul_coe, scientific_coe, sub_coe,
        floor_coe, add_coe, edgeIndex?_coe, texel?_map, hi0, hi1, hj0, hj1, h00, h01, h10, h11,
        Option.map_some]
      refine congrArg Except.ok (Vector.ext fun c hc => ?_)
      simp [blend_coe]
    · cases hvalue
  · cases hvalue

variable {t : Table ℝ 4} (hheight : 2 ≤ t.height) (hwidth : 2 ≤ t.width)
  {s : SunlitShell ℝ} (hs : s.Proper) {r mu d : ℝ}

include hheight hwidth hs

theorem toTop_coe (hr : r ∈ Set.Icc s.bottom s.top) (mu : ℝ) :
    DefinedAs (Vector.map ofReal)
      ((t.map ofReal).toTop (s.toShell.map ofReal) (r : PartialReal w) mu)
      (t.toTop s.toShell r mu) := by
  have hwidth1 : (1 : ℝ) < t.width := by exact_mod_cast hwidth
  have hheight1 : (1 : ℝ) < t.height := by exact_mod_cast hheight
  simp only [toTop, map_width, map_height, natCast_coe, Shell.tableU_coe hs hr.1 hwidth1,
    Shell.tableV_coe hs hheight1]
  exact sample_coe (by omega) (by omega) _ _

theorem between_coe (hr : r ∈ Set.Icc s.bottom s.top) (hmu : mu ∈ Set.Icc (-1) 1) (d : ℝ)
    (ground : Bool) :
    DefinedAs (Vector.map ofReal)
      ((t.map ofReal).between (s.toShell.map ofReal) (r : PartialReal w) mu d ground)
      (t.between s.toShell r mu d ground) := by
  have hfar := Shell.clampRadius_mem hs (Shell.radiusAlong r mu d)
  have hdivisor : s.clampRadius (Shell.radiusAlong r mu d) ≠ 0 :=
    (hs.bottom_pos.trans_le hfar.1).ne'
  simp only [between, Shell.radiusAlong_coe hmu, Shell.clampRadius_coe, mul_coe, add_coe,
    div_coe hdivisor, clampCosine_coe, neg_coe]
  -- the lookups of both directions are made, whichever the flag chooses
  refine (toTop_coe hheight hwidth hs hfar _).bind fun farBack => ?_
  refine (toTop_coe hheight hwidth hs hr _).bind fun nearBack => ?_
  refine (toTop_coe hheight hwidth hs hr _).bind fun near => ?_
  refine (toTop_coe hheight hwidth hs hfar _).bind fun far => ?_
  have hcut : ∀ a b : ℝ, smaller (ratioOrZero (a : PartialReal w) b) 1.0 =
      (smaller (ratioOrZero a b) 1.0 : ℝ) := fun a b => by
    simp only [ratioOrZero_coe, scientific_coe, smaller_coe]
  cases ground <;> exact definedAs_ok (Spectrum.combine_map hcut _ _)

theorem toSun_coe (hr : r ∈ Set.Icc s.bottom s.top) (muS : ℝ) :
    DefinedAs (Vector.map ofReal) ((t.map ofReal).toSun (s.map ofReal) (r : PartialReal w) muS)
      (t.toSun s r muS) := by
  have hdivisor : r ≠ 0 := (hs.bottom_pos.trans_le hr.1).ne'
  simp only [toSun, SunlitShell.map_toShell, Shell.map_bottom, div_coe hdivisor,
    SunlitShell.visiblePart_coe]
  refine (toTop_coe hheight hwidth hs hr muS).bind fun top => ?_
  exact definedAs_ok (Spectrum.each_map (fun x => mul_coe x _) top)

end Texture.Table

/-! ## Oracles -/

/-- Over the partial numbers an oracle gives the answers that another one gives over the real
numbers, to questions about points of a shell. -/
structure Oracle.DefinedIn (s : Shell ℝ) (defined : Oracle (PartialReal w)) (real : Oracle ℝ) :
    Prop where
  between : ∀ r ∈ Set.Icc s.bottom s.top, ∀ mu ∈ Set.Icc (-1 : ℝ) 1, ∀ (d : ℝ) (ground : Bool),
    DefinedAs (Vector.map ofReal) (defined.between r mu d ground) (real.between r mu d ground)
  toSun : ∀ r ∈ Set.Icc s.bottom s.top, ∀ muS : ℝ,
    DefinedAs (Vector.map ofReal) (defined.toSun r muS) (real.toSun r muS)

/-- The transmittance is constant, or a table of an atmosphere with two texels each way. -/
def Transmittance.Sufficient (s : SunlitShell ℝ) : Transmittance ℝ → Prop
  | .table s' t => s' = s ∧ 2 ≤ t.height ∧ 2 ≤ t.width
  | .constant _ => True

theorem Transmittance.Sufficient.definedIn {s : SunlitShell ℝ} (hs : s.Proper)
    {x : Transmittance ℝ} (h : x.Sufficient s) :
    (x.map (ofReal : ℝ → PartialReal w)).oracle.DefinedIn s.toShell x.oracle := by
  cases x with
  | table s' t =>
    obtain ⟨rfl, hheight, hwidth⟩ := h
    exact ⟨fun r hr mu hmu d ground => Table.between_coe hheight hwidth hs hr hmu d ground,
      fun r hr muS => Table.toSun_coe hheight hwidth hs hr muS⟩
  | constant value =>
    exact ⟨fun _ _ _ _ _ _ => definedAs_ok rfl, fun _ _ _ => definedAs_ok rfl⟩

/-! ## Integrals -/

namespace ScatteringMedium

variable {m : ScatteringMedium ℝ} (hs : m.Proper) {defined : Oracle (PartialReal w)}
  {real : Oracle ℝ} (horacle : defined.DefinedIn m.toShell real) {ray : Ray ℝ}
  (hr : ray.r ∈ Set.Icc m.bottom m.top) (hmu : ray.mu ∈ Set.Icc (-1) 1) {n : ℕ}

include hs horacle hr hmu

theorem integrand_coe (d : ℝ) (ground : Bool) :
    DefinedAs (Scattered.map ofReal)
      ((m.map ofReal).integrand defined (ray.map ofReal) (d : PartialReal w) ground)
      (m.integrand real ray d ground) := by
  have hfar := Shell.clampRadius_mem hs (Shell.radiusAlong ray.r ray.mu d)
  have hdivisor : m.clampRadius (Shell.radiusAlong ray.r ray.mu d) ≠ 0 :=
    (hs.bottom_pos.trans_le hfar.1).ne'
  simp only [integrand, map, Ray.map, Shell.radiusAlong_coe hmu, Shell.clampRadius_coe, mul_coe,
    add_coe, div_coe hdivisor, clampCosine_coe, Shell.map_bottom, sub_coe, LayerStack.density_coe]
  refine (horacle.between _ hr _ hmu d ground).bind fun back => ?_
  refine (horacle.toSun _ hfar _).bind fun sun => ?_
  refine definedAs_ok ?_
  rw [Spectrum.combine_map (g := (· * ·)) mul_coe]
  simp only [Scattered.map]
  rw [Spectrum.each_map fun x => mul_coe x _, Spectrum.each_map fun x => mul_coe x _]

theorem sumSamples_coe (ground : Bool) (dx : ℝ) (i remaining : ℕ) (sum : Scattered ℝ) :
    DefinedAs (Scattered.map ofReal)
      ((m.map ofReal).sumSamples defined (ray.map ofReal) ground (dx : PartialReal w) n i remaining
        (sum.map ofReal))
      (m.sumSamples real ray ground dx n i remaining sum) := by
  induction remaining generalizing i sum with
  | zero => exact definedAs_ok rfl
  | succ remaining ih =>
    have hweight : (trapezoidWeight n i : PartialReal w) = (trapezoidWeight n i : ℝ) := by
      simp only [trapezoidWeight, scientific_coe]
      exact ite_coe _ _ _ _
    have hadd : ∀ a b : ℝ, (a : PartialReal w) + b * (trapezoidWeight n i : PartialReal w) =
        (a + b * trapezoidWeight n i : ℝ) := fun a b => by rw [hweight, mul_coe, add_coe]
    simp only [sumSamples, natCast_coe, mul_coe]
    refine (integrand_coe hs horacle hr hmu _ ground).bind fun term => ?_
    have hsum : accumulate (sum.map ofReal) (term.map ofReal)
        (trapezoidWeight n i : PartialReal w) =
          (accumulate sum term (trapezoidWeight n i)).map ofReal := by
      simp only [accumulate, Scattered.map]
      rw [Spectrum.combine_map hadd, Spectrum.combine_map hadd]
    rw [hsum]
    exact ih (i + 1) _

theorem integrate_coe (hn : 0 < n) (ground : Bool) :
    DefinedAs (Scattered.map ofReal)
      ((m.map ofReal).integrate defined n (ray.map ofReal) ground)
      (m.integrate real n ray ground) := by
  have hdivisor : (n : ℝ) ≠ 0 := by exact_mod_cast hn.ne'
  have hzero : (⟨Spectrum.constant 0.0, Spectrum.constant 0.0⟩ : Scattered (PartialReal w)) =
      (⟨Spectrum.constant 0.0, Spectrum.constant 0.0⟩ : Scattered ℝ).map ofReal := by
    simp only [Scattered.map, Spectrum.constant, Vector.map_ofFn]
    rfl
  have hlength : (m.map (ofReal : ℝ → PartialReal w)).distanceToNearest ray.r ray.mu ground =
      (m.distanceToNearest ray.r ray.mu ground : ℝ) :=
    Shell.distanceToNearest_coe m.toShell ray.r ray.mu ground
  simp only [integrate, Ray.map_r, Ray.map_mu, hlength, natCast_coe, div_coe hdivisor, hzero]
  refine (sumSamples_coe hs horacle hr hmu ground _ 0 (n + 1) _).bind fun sum => ?_
  refine definedAs_ok ?_
  simp only [Scattered.map, map, Scattered.mk.injEq]
  constructor <;> ext c hc <;>
    simp only [Vector.getElem_ofFn, Vector.getElem_map, Spectrum.get_map, mul_coe]

end ScatteringMedium

/-! ## Atmospheres -/

/-- The divisor of the cosine that belongs to a distance `d`, with one in the place of a distance of
zero. Where a map chooses between two halves, both have such a divisor. -/
noncomputable def guardedDivisor (r d : ℝ) : ℝ := 2.0 * r * if d = 0 then 1 else d

theorem guardedDivisor_ne_zero {r : ℝ} (hr : 0 < r) (d : ℝ) : guardedDivisor r d ≠ 0 := by
  refine mul_ne_zero (mul_ne_zero (by norm_num) hr.ne') ?_
  split_ifs with hd
  · exact one_ne_zero
  · exact hd

/-- Over the partial numbers all maps, lookups and integrals of an atmosphere give the numbers that
they give over the real ones. -/
structure Parameters.Defined (p : Parameters ℝ) (w : Verdict) : Prop where
  encode : ∀ (e : Extents) (ray : Ray ℝ) (ground : Bool), ray.r ∈ Set.Icc p.bottom p.top →
    ray.muS ∈ Set.Icc (-1) 1 →
      let u := (e.scale.encode p.toLitShell ray ground).map (ofReal : ℝ → PartialReal w)
      (ofExtents e).encodeArrays (p.toLitShell.map ofReal) (.single (ofReal ray.r : PartialReal w))
          (.single (ofReal ray.mu)) (.single (ofReal ray.muS)) (.single (ofReal ray.nu))
          (.single ground) =
        .ok [.single u.uNu, .single u.uMuS, .single u.uMu, .single u.uR]
  rays : ∀ (e : Extents) (v : Voxel), e.shape.contains v = true →
    ∃ (ray : Ray ℝ) (ground : Bool),
      (ofExtents e).raysAt p.toLitShell (.single v) = .ok (.single (ray, ground)) ∧
      (ofExtents e).raysAt (p.toLitShell.map (ofReal : ℝ → PartialReal w)) (.single v) =
        .ok (.single (ray.map ofReal, ground)) ∧
      Ray.checkAll p.shell #[ray] = .ok () ∧
      ∀ d, guardedDivisor ray.r d ≠ 0 ∧ guardedDivisor p.bottom d ≠ 0
  tableCoords : ∀ width height : ℕ, 2 ≤ width → 2 ≤ height →
    ∀ r ∈ Set.Icc p.bottom p.top, ∀ mu : ℝ,
      (p.shell.map ofReal).tableU (width : PartialReal w) r mu = (p.shell.tableU width r mu : ℝ) ∧
      (p.shell.map ofReal).tableV (height : PartialReal w) r = (p.shell.tableV height r : ℝ)
  tableRays : ∀ width height : ℕ, 2 ≤ width → 2 ≤ height → ∀ u v : ℝ,
    (p.shell.map ofReal).tableRadius (height : PartialReal w) v =
        (p.shell.tableRadius height v : ℝ) ∧
      (p.shell.map ofReal).tableCosine (width : PartialReal w) height u v =
        (p.shell.tableCosine width height u v : ℝ) ∧
      ∀ d, guardedDivisor (p.shell.tableRadius height v) d ≠ 0
  smoothstep : ∀ edge0 edge1 x : ℝ,
    smoothstep (edge0 : PartialReal w) edge1 x = (smoothstep edge0 edge1 x : ℝ)
  lookups : ∀ x : Transmittance ℝ, x.Sufficient p.sunlit →
    (x.map (ofReal : ℝ → PartialReal w)).oracle.DefinedIn p.shell x.oracle
  integrals : ∀ x : Transmittance ℝ, x.Sufficient p.sunlit →
    ∀ (molecules aerosols : LayerStack ℝ) (ray : Ray ℝ) (ground : Bool),
      Ray.checkAll p.shell #[ray] = .ok () →
        let m := p.medium molecules aerosols
        let oracle := (x.map (ofReal : ℝ → PartialReal w)).oracle
        (∀ d : ℝ, DefinedAs (Scattered.map ofReal)
          ((m.map ofReal).integrand oracle (ray.map ofReal) d ground)
          (m.integrand x.oracle ray d ground)) ∧
        ∀ n : ℕ, 1 ≤ n → DefinedAs (Scattered.map ofReal)
          ((m.map ofReal).integrate oracle n (ray.map ofReal) ground)
          (m.integrate x.oracle n ray ground)

/-- In checked parameters no map of rays, coordinates or voxels, no lookup of transmittance and no
integral along a ray divides by zero or takes the root of a negative number: over the partial
numbers all of them give the real results, however comparisons with undefined numbers come out. -/
theorem Parameters.defined_of_validate {p : Parameters ℝ} (hp : p.validate = .ok ())
    (w : Verdict) : p.Defined w := by
  have hs := proper_of_validate hp
  have hb := hs.shell.bottom_pos
  refine ⟨fun e ray ground hr hmuS => encodeArrays_coe hs e hr.1 hmuS.2 ground,
    fun e v hv => ?_, fun width height hwidth hheight r hr mu => ?_,
    fun width height hwidth hheight u v => ?_, smoothstep_coe,
    fun x hx => hx.definedIn hs.shell, fun x hx molecules aerosols ray ground hray => ?_⟩
  · have hcheck := GridScale.checkAll_rayAt hv hs
    obtain ⟨hr, -⟩ := Ray.checkAll_singleton_iff.mp hcheck
    exact ⟨_, _, raysAt_single e p.toLitShell v, raysAt_coe hs hv, hcheck,
      fun d => ⟨guardedDivisor_ne_zero (hb.trans_le hr.1) d, guardedDivisor_ne_zero hb d⟩⟩
  · have hwidth1 : (1 : ℝ) < width := by exact_mod_cast hwidth
    have hheight1 : (1 : ℝ) < height := by exact_mod_cast hheight
    exact ⟨Shell.tableU_coe hs.shell hr.1 hwidth1 mu, Shell.tableV_coe hs.shell hheight1 r⟩
  · have hwidth1 : (1 : ℝ) < width := by exact_mod_cast hwidth
    have hheight1 : (1 : ℝ) < height := by exact_mod_cast hheight
    exact ⟨Shell.tableRadius_coe hs.shell hheight1 v,
      Shell.tableCosine_coe hs.shell hwidth1 hheight1 u v,
      guardedDivisor_ne_zero (Shell.tableRadius_pos hs.shell height v)⟩
  · obtain ⟨hr, hmu, -⟩ := Ray.checkAll_singleton_iff.mp hray
    have horacle := hx.definedIn (w := w) hs.shell
    exact ⟨fun d => ScatteringMedium.integrand_coe hs.shell horacle hr hmu d ground,
      fun n hn => ScatteringMedium.integrate_coe hs.shell horacle hr hmu hn ground⟩

/-- The ray of the last voxel of the standard grid, where no comparison with an undefined number
holds. -/
theorem Parameters.defined_of_validate_earth :
    let w : Verdict := ⟨fun _ _ => False, fun _ _ => False⟩
    ∃ (ray : Ray ℝ) (ground : Bool),
      (ofExtents .standard).raysAt
          ((earth : Parameters ℝ).toLitShell.map (ofReal : ℝ → PartialReal w))
          (.single ⟨255, 127, 31⟩) = .ok (.single (ray.map ofReal, ground)) ∧
        guardedDivisor ray.r 0 ≠ 0 := by
  intro w
  obtain ⟨ray, ground, -, hray, -, hdivisor⟩ :=
    (defined_of_validate validate_earth w).rays .standard ⟨255, 127, 31⟩ (by decide)
  exact ⟨ray, ground, hray, (hdivisor 0).1⟩

end Airlight
