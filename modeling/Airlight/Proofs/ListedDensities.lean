import Airlight.Proofs.LightSizes
import Airlight.Proofs.ParameterReading
import Airlight.Proofs.SingleLookups
import Airlight.Proofs.VoxelLight

/-!
# Layers with lists of densities

A layer may have a list in the place of a coefficient. It passes all checks, and an atmosphere with
such a layer of aerosols scatters light: a single voxel then gets as many spectra as the list has
densities.

## Main definitions

* `DensityLayer.listed` — a layer with a list of densities.
-/

namespace Airlight

open Grid Texture

variable {α : Type} [Scalar α]

/-- A list of numbers takes part in arithmetic as an array of them. -/
theorem Operand.ofValue_reals (xs : List α) :
    ofValue (.list (xs.map Value.real)) = .ok (.numbers (.row xs)) := by
  obtain ⟨inner, hinner, hnil⟩ := Value.commonAxes?_reals xs
  have hleaves : List.mapM (.ok : Value α → Except (Failure α) (Value α)) (xs.map Value.real) =
      .ok (xs.map Value.real) := by
    simpa using listMapM_eq_ok (g := id) fun x (_ : x ∈ xs.map Value.real) => rfl
  have htensor : tensorOf (.list (xs.map Value.real)) = .ok (.row (xs.map Value.real)) := by
    simp only [tensorOf, Value.toTensor, Value.axes?, hinner, hnil, Option.map_some,
      Value.leaves, Value.leavesOf_reals, List.length_map, List.length_cons, List.length_nil,
      Value.maxAxes, List.mapM_toArray, hleaves]
    simp [Tensor.ofArray?, volume, Tensor.row]
  have hobject : (Tensor.row (xs.map (Value.real : α → Value α))).data.any isObject = false := by
    simp [isObject]
  have htext : (Tensor.row (xs.map (Value.real : α → Value α))).data.any isText = false := by
    simp [isText]
  have hnumbers : (Tensor.row (xs.map Value.real)).mapM Value.operandOrFail = .ok (.row xs) := by
    simpa using Tensor.mapM_row (f := Value.real) (g := Value.operandOrFail) (h := id)
      fun x (_ : x ∈ xs) => rfl
  simp only [ofValue, isList, htensor, hobject, htext, hnumbers, ok_bind, Bool.false_eq_true,
    if_true, if_false, pure_eq_ok]

namespace DensityLayer

/-- A layer with a list of densities, which are the same at all altitudes. -/
def listed (densities : List α) : DensityLayer (Value α) :=
  ⟨.real 0.0, .real 0.0, .real 0.0, .real 0.0, .list (densities.map .real)⟩

/-- A list is no number. -/
theorem not_numberCoefficients_listed (densities : List α) :
    ¬ (listed densities).NumberCoefficients := by
  rintro ⟨-, -, -, _, hx⟩
  cases hx

theorem arrays_listed (densities : List α) :
    (listed densities).arrays [] = .ok
      (⟨.single 0.0, .single 0.0, .single 0.0, .single 0.0, .row densities⟩,
        [densities.length]) := by
  have hzero : (Value.real (0.0 : α)).combine [] = .ok (.single 0.0, []) := rfl
  have hoperand : (Value.real (0.0 : α)).operandOrFail = .ok 0.0 := rfl
  have hlist : (Value.list (densities.map .real)).combineAfter [] =
      .ok (.row densities, [densities.length]) := by
    simp only [Value.combineAfter, Operand.ofValue_reals, ok_bind, Operand.combine]
    simp [Tensor.joinShapes_nil, Tensor.row]
  simp [arrays, listed, hzero, hlist, hoperand, Tensor.joinShapes_nil, Operand.keepsElements,
    Operand.isList]

end DensityLayer

/-! ## Sizes -/

variable [Inhabited α]

/-- A list of densities gives the stacks of a profile its size. -/
theorem Profile.exists_stacksAt_listed (densities : List α) :
    ∃ t, stacksAt [DensityLayer.listed densities] [] = .ok t ∧ t.shape = [densities.length] := by
  have hstack : stack? [DensityLayer.listed densities] = none := by
    by_contra hne
    exact DensityLayer.not_numberCoefficients_listed densities
      (numberCoefficients_of_stack? (Option.isSome_iff_ne_none.mpr hne) _
        (List.mem_singleton_self _))
  have hends : upperEnds ([] : List (Value α)) = .ok [] := rfl
  have hjoin : (Tensor.joinAll [[], [], [], [densities.length]] : Except (Failure α) _) =
      .ok [densities.length] := Tensor.joinAll_sizes (by simp) (by simp)
  simp only [stacksAt, hstack, List.getLast?_singleton, stratum, DensityLayer.arrays_listed,
    ok_bind, pure_eq_ok, List.dropLast_singleton, List.map_nil, hends, List.zip_nil_right,
    List.reverse_nil, strataDown, stacksOf]
  simp [DensityLayer.shapes, hjoin, Tensor.row]

namespace RayBatch

variable {p : Parameters α} {x : Transmittance α} {rayleigh mie : List Nat}

/-- The sizes of the stacks of both scattering profiles at a single altitude. -/
structure StackSizes (p : Parameters α) (rayleigh mie : List Nat) : Prop where
  rayleigh : ∃ t, p.rayleighDensity.stacksAt [] = .ok t ∧ t.shape = rayleigh
  mie : ∃ t, p.mieDensity.stacksAt [] = .ok t ∧ t.shape = mie

theorem exists_weighed {layers : Profile (Value α)} {own : List Nat}
    (hlayers : ∃ t, layers.stacksAt [] = .ok t ∧ t.shape = own) (transmittance : Spectrum α)
    (altitude : α) :
    ∃ t, weighed (.single transmittance) layers (.single altitude) = .ok t ∧ t.shape = own := by
  obtain ⟨columns, hcolumns, hown⟩ := hlayers
  obtain ⟨densities, hdensities, hshape⟩ := Tensor.exists_map₂ (φ := α) (b := .single altitude)
    LayerStack.density (.inl hown) (.inr rfl) (.inl hown)
  obtain ⟨t, ht, hown'⟩ := Tensor.exists_map₂ (φ := α) (a := .single transmittance)
    (fun (t : Spectrum α) density => t.each (· * density)) (.inr rfl) (.inl hshape) (.inr hshape)
  exact ⟨t, by simp only [weighed, Tensor.shape_single, hcolumns, ok_bind, hdensities, ht], hown'⟩

variable (ray : Ray α × Bool)

/-- A single ray has integrands of the sizes of the stacks. -/
theorem exists_integrands (hx : x.oracle.Answers) (hp : StackSizes p rayleigh mie) (d : α) :
    ∃ found, (ofRays (.single ray)).integrands p x (.single d) = .ok found ∧
      found.rayleigh.shape = rayleigh ∧ found.mie.shape = mie := by
  obtain ⟨ray, ground⟩ := ray
  have hbetween : ∀ r mu d, ∃ value, x.betweenAll (.single r) (.single mu) (.single d)
      (.single ground) = .ok (.single value) := fun r mu d => by
    obtain ⟨value, hvalue⟩ := hx.between r mu d ground
    exact ⟨value, Transmittance.betweenAll_single_iff.mpr ⟨value, hvalue, rfl⟩⟩
  have hsun : ∀ r muS, ∃ value, x.toSunAll (.single r) (.single muS) = .ok (.single value) :=
    fun r muS => by
      obtain ⟨value, hvalue⟩ := hx.toSun r muS
      exact ⟨value, Transmittance.toSunAll_single_iff.mpr ⟨value, hvalue, rfl⟩⟩
  choose back hback using hbetween
  choose sun hsun using hsun
  obtain ⟨first, hfirst, hfirstShape⟩ := exists_weighed hp.rayleigh _ _
  obtain ⟨second, hsecond, hsecondShape⟩ := exists_weighed hp.mie _ _
  refine ⟨⟨first, second⟩, ?_, hfirstShape, hsecondShape⟩
  unfold integrands
  simp only [ofRays, Tensor.map_single]
  rw [Tensor.map₃_single, ok_bind, Tensor.map₂_single, ok_bind, Tensor.map₂_single, ok_bind,
    Tensor.map₃_single, ok_bind, hback, ok_bind, hsun, ok_bind, Tensor.map₂_single, ok_bind,
    Tensor.map_single, hfirst, ok_bind, hsecond, ok_bind]
  rfl

/-- A sample is added to a sum of its sizes, or to one that has not got them yet. -/
theorem exists_addSample (hx : x.oracle.Answers) (hp : StackSizes p rayleigh mie) (dx : α)
    (n i : Nat) {sum : ScatteredArrays α}
    (hrayleigh : sum.rayleigh.shape = rayleigh ∨ sum.rayleigh.shape = [])
    (hmie : sum.mie.shape = mie ∨ sum.mie.shape = []) :
    ∃ next : ScatteredArrays α, next.rayleigh.shape = rayleigh ∧ next.mie.shape = mie ∧
      ∀ remaining, (ofRays (.single ray)).sumSamples p x (.single dx) n i (remaining + 1) sum =
        (ofRays (.single ray)).sumSamples p x (.single dx) n (i + 1) remaining next := by
  obtain ⟨term, hterm, hterm₁, hterm₂⟩ := exists_integrands ray hx hp ((i : α) * dx)
  let add (sum term : Spectrum α) : Spectrum α :=
    Spectrum.combine (fun s t => s + t * trapezoidWeight n i) sum term
  obtain ⟨first, hfirst, hfirstShape⟩ :=
    Tensor.exists_map₂ (φ := α) add hrayleigh (.inl hterm₁) (.inr hterm₁)
  obtain ⟨second, hsecond, hsecondShape⟩ :=
    Tensor.exists_map₂ (φ := α) add hmie (.inl hterm₂) (.inr hterm₂)
  refine ⟨⟨first, second⟩, hfirstShape, hsecondShape, fun remaining => ?_⟩
  simp only [sumSamples, Tensor.map_single, hterm, ok_bind]
  rw [hfirst, ok_bind, hsecond, ok_bind]

/-- The sum of at least one sample has the sizes of the stacks. -/
theorem exists_sumSamples (hx : x.oracle.Answers) (hp : StackSizes p rayleigh mie) (dx : α)
    (n i remaining : Nat) {sum : ScatteredArrays α}
    (hrayleigh : sum.rayleigh.shape = rayleigh ∨ sum.rayleigh.shape = [])
    (hmie : sum.mie.shape = mie ∨ sum.mie.shape = []) :
    ∃ total, (ofRays (.single ray)).sumSamples p x (.single dx) n i (remaining + 1) sum =
        .ok total ∧ total.rayleigh.shape = rayleigh ∧ total.mie.shape = mie := by
  induction remaining generalizing i sum with
  | zero =>
    obtain ⟨next, hfirst, hsecond, hnext⟩ := exists_addSample ray hx hp dx n i hrayleigh hmie
    exact ⟨next, hnext 0, hfirst, hsecond⟩
  | succ remaining ih =>
    obtain ⟨next, hfirst, hsecond, hnext⟩ := exists_addSample ray hx hp dx n i hrayleigh hmie
    rw [hnext]
    exact ih (i + 1) (.inl hfirst) (.inl hsecond)

/-- The light scattered into a single ray has the sizes of the stacks. -/
theorem exists_scattered (hx : x.oracle.Answers) (hp : StackSizes p rayleigh mie) {count : Value α}
    {k : α} {n : Int} (hbelow : count.isBelow 1 = .ok false) (hk : count.operandOrFail = .ok k)
    (hn : count.intervals [] = .ok n) (hcheck : Ray.checkAll p.shell #[ray.1] = .ok ()) :
    ∃ found, (ofRays (.single ray)).scattered p x count = .ok found ∧
      found.rayleigh.shape = rayleigh ∧ found.mie.shape = mie := by
  have hranges : (ofRays (.single ray)).check p.shell = .ok () := by
    simpa [check, ofRays, Ray.checkAll] using hcheck
  have hlengths : Tensor.map₃ (φ := α) p.shell.distanceToNearest (ofRays (.single ray)).r
      (ofRays (.single ray)).mu (ofRays (.single ray)).ground =
        .ok (.single (p.shell.distanceToNearest ray.1.r ray.1.mu ray.2)) := by
    simp only [ofRays, Tensor.map_single, Tensor.map₃_single]
  let dx : α := p.shell.distanceToNearest ray.1.r ray.1.mu ray.2 / k
  let zero : ScatteredArrays α := ⟨.single (Spectrum.constant 0.0), .single (Spectrum.constant 0.0)⟩
  obtain ⟨sums, hsums, hsums₁, hsums₂⟩ := exists_sumSamples ray hx hp dx n.toNat 0 n.toNat
    (.inr rfl : zero.rayleigh.shape = rayleigh ∨ zero.rayleigh.shape = [])
    (.inr rfl : zero.mie.shape = mie ∨ zero.mie.shape = [])
  let scale (coefficient : Spectrum α) (sum : Spectrum α) (dx : α) : Spectrum α :=
    Vector.ofFn fun c => sum.get c * dx * p.solarIrradiance.get c * coefficient.get c
  obtain ⟨first, hfirst, hfirstShape⟩ := Tensor.exists_map₂ (φ := α) (b := .single dx)
    (scale p.rayleighScattering) (.inl hsums₁) (.inr rfl) (.inl hsums₁)
  obtain ⟨second, hsecond, hsecondShape⟩ := Tensor.exists_map₂ (φ := α) (b := .single dx)
    (scale p.mieScattering) (.inl hsums₂) (.inr rfl) (.inl hsums₂)
  refine ⟨⟨first, second⟩, ?_, hfirstShape, hsecondShape⟩
  have hintegrate : (ofRays (.single ray)).integrate p x n.toNat (.single dx) =
      .ok ⟨first, second⟩ := by
    rw [integrate, hsums, ok_bind]
    dsimp only
    rw [hfirst, ok_bind, hsecond, ok_bind]
    rfl
  simp only [scattered, hbelow, hranges, hlengths, hk, Tensor.shape_single, hn, ok_bind,
    Bool.false_eq_true, if_false, Tensor.map_single]
  exact hintegrate

end RayBatch

/-! ## Voxels -/

/-- Aerosols with a list of densities get as many spectra for a single voxel as there are densities,
while the molecules get one. -/
theorem Kernel.exists_light_listed {k : Kernel ℝ} {densities : List ℝ}
    (hvalid : k.atmosphere.validate = .ok ()) {stack : LayerStack ℝ}
    (hrayleigh : k.atmosphere.rayleighDensity.stack? = some stack)
    (hmie : k.atmosphere.mieDensity = [DensityLayer.listed densities]) {n : Int}
    (hcount : k.sampleCount = .integer n) (hn : 1 ≤ n) (hanswers : k.transmittance.oracle.Answers)
    {v : Voxel} (hv : k.extents.shape.contains v = true) :
    ∃ scattered, k.evaluate (.single v) = .ok scattered ∧ scattered.rayleigh.data.size = 1 ∧
      scattered.mie.data.size = densities.length := by
  have hmedium : k.atmosphere.medium? = none := by
    by_contra hne
    have hstack := (Parameters.stacks_of_medium? (Option.isSome_iff_ne_none.mpr hne)).2
    exact DensityLayer.not_numberCoefficients_listed densities
      (Profile.numberCoefficients_of_stack? hstack _ (by simp [hmie]))
  have hsizes : RayBatch.StackSizes k.atmosphere [] [densities.length] := by
    refine ⟨⟨.single stack, ?_, rfl⟩, hmie ▸ Profile.exists_stacksAt_listed densities⟩
    simp only [Profile.stacksAt, hrayleigh, pure_eq_ok]
  have hcheck := GridScale.checkAll_rayAt hv (Parameters.proper_of_validate hvalid)
  have hbelow : (Value.integer n : Value ℝ).isBelow 1 = .ok false := Value.isBelow_integer hn
  obtain ⟨scattered, hscattered, hfirst, hsecond⟩ := RayBatch.exists_scattered
    (k.extents.scale.rayAt k.atmosphere.toLitShell v) hanswers hsizes hbelow rfl rfl hcheck
  refine ⟨scattered, ?_, ?_, ?_⟩
  · rw [evaluate, Tensor.map_single, Parameters.scatterInto, hmedium, hcount]
    exact hscattered
  · rw [scattered.rayleigh.size_eq, hfirst]
    rfl
  · rw [scattered.mie.size_eq, hsecond]
    simp [volume]

end Airlight
