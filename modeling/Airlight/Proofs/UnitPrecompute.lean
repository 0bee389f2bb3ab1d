import Airlight.Proofs.ParameterReading
import Airlight.Proofs.KernelEvaluation
import Airlight.Proofs.PassPairs
import Airlight.Proofs.RunSteps
import Airlight.Proofs.TensorMaps
import Airlight.Precompute

/-!
# Precomputation in another length unit

A precomputation goes through the same steps in every length unit: the transmittance table, each
block of a pass and every report are the same, and so is a failure.
-/

namespace Airlight

open Colour Grid Scalar Texture

/-! ## Arrays -/

namespace Tensor

variable {α β γ δ φ : Type}

/-- A single value takes part with itself only. -/
theorem map₂_single_congr [Inhabited α] [Inhabited β] [Inhabited γ] {f : α → γ → δ} {g : β → γ → δ}
    {a : α} {b : β} (h : ∀ y, f a y = g b y) (t : Tensor γ) :
    (map₂ f (single a) t : Except (Failure φ) (Tensor δ)) = map₂ g (single b) t := by
  have hvalues : ∀ common, ofFn common (fun i => f ((single a).repeated common i)
      (t.repeated common i)) = ofFn common fun i => g ((single b).repeated common i)
      (t.repeated common i) := by
    intro common
    refine ext_data rfl (congrArg Array.ofFn (funext fun i => ?_))
    dsimp only
    rw [repeated_single a i.isLt, repeated_single b i.isLt, h]
  simp only [map₂, shape_single, hvalues]

end Tensor

namespace Parameters

variable {p : Parameters ℝ} {k : ℝ}

theorem stack_inUnit (p : Parameters ℝ) (k : ℝ) (f : ProfileField) :
    (p.inUnit k).stack f = (p.stack f).inUnit k := by
  rw [stack, stack, amounts_profile_inUnit, LayerStack.ofLayers_scaled]

theorem air_inUnit (p : Parameters ℝ) (k : ℝ) : (p.inUnit k).air = p.air.inUnit k := by
  simp only [air, Constituents.inUnit, stack_inUnit]

/-! ## The transmittance table -/

/-- The air of regular profiles is the same at all texels. -/
theorem constituents_grid (h : p.Regular) (rows columns : Nat) :
    p.constituents [rows, columns] = .ok (.single p.air) :=
  h.hasAir.constituents_eq_ok [rows, columns] (by simp [Value.maxAxes])

theorem transmittanceToTop_inUnit (p : Parameters ℝ) (hk : 0 < k) (air : Constituents ℝ)
    (count : Int) (r mu : ℝ) :
    (p.inUnit k).transmittanceToTop (air.inUnit k) count (r / k) mu =
      p.transmittanceToTop air count r mu := by
  have hlength : ∀ stack : LayerStack ℝ,
      (p.inUnit k).shell.opticalLengthOf (stack.inUnit k).density count (r / k) mu =
        p.shell.opticalLengthOf stack.density count r mu / k := fun stack =>
    p.shell.opticalLengthOf_inUnit hk (stack.density_inUnit hk) count r mu
  have hdepth : ∀ (coefficient : Spectrum ℝ) (c : Fin 4) (x : ℝ),
      (coefficient.map (· * k)).get c * (x / k) = coefficient.get c * x := fun coefficient c x => by
    rw [Spectrum.get_map, mul_mul_div hk]
  have hrayleigh : (p.inUnit k).rayleighScattering = p.rayleighScattering.map (· * k) := rfl
  have hmie : (p.inUnit k).mieExtinction = p.mieExtinction.map (· * k) := rfl
  have habsorption : (p.inUnit k).absorptionExtinction = p.absorptionExtinction.map (· * k) := rfl
  simp only [Atmosphere.transmittanceToTop, Constituents.inUnit, hlength]
  congr 1
  funext c
  simp only [Atmosphere.attenuation, hrayleigh, hmie, habsorption, hdepth]

theorem texelTransmittance_inUnit (p : Parameters ℝ) (hk : 0 < k) (air : Constituents ℝ)
    (width height : ℝ) (count : Int) (j i : Nat) :
    (p.inUnit k).texelTransmittance (air.inUnit k) width height count j i =
      p.texelTransmittance air width height count j i := by
  have hshell : (p.inUnit k).shell = p.shell.inUnit k := rfl
  simp only [Atmosphere.texelTransmittance, hshell, p.shell.tableRadius_inUnit hk,
    p.shell.tableCosine_inUnit hk, transmittanceToTop_inUnit p hk]

/-- The transmittance table is the same in every unit. -/
theorem transmittanceTable_inUnit (h : p.Regular) (hk : 0 < k) (store : ℝ → ℝ)
    (width height count : Value ℝ) :
    (p.inUnit k).transmittanceTable store width height count =
      p.transmittanceTable store width height count := by
  have htexels : (p.inUnit k).transmittanceTexels width height count =
      p.transmittanceTexels width height count := by
    simp only [transmittanceTexels, constituents_grid (h.inUnit hk), constituents_grid h,
      air_inUnit, ok_bind]
    -- only the last step, which combines the air with the places, reads the length unit
    repeat refine bind_congr fun _ => ?_
    exact congrArg (· >>= _) (Tensor.map₂_single_congr (fun place =>
      texelTransmittance_inUnit p hk p.air _ _ _ place.1 place.2) _)
  rw [transmittanceTable, transmittanceTable, htexels]

end Parameters

/-! ## Passes -/

theorem Ray.checkAll_inUnit (s : Shell ℝ) {k : ℝ} (hk : 0 < k) (rays : Array (Ray ℝ)) :
    Ray.checkAll (s.inUnit k) (rays.map (·.inUnit k)) = Ray.checkAll s rays := by
  have hradius : Ray.allWithin (s.inUnit k).bottom (s.inUnit k).top
      ((rays.map (·.inUnit k)).map Ray.r) = Ray.allWithin s.bottom s.top (rays.map Ray.r) := by
    simp only [Ray.allWithin, Array.all_map, Function.comp_def, Ray.inUnit, Shell.inUnit_bottom,
      Shell.inUnit_top, div_le_div_iff_of_pos_right hk]
  have hother : ∀ f : Ray ℝ → ℝ, (∀ ray, f (ray.inUnit k) = f ray) →
      (rays.map (·.inUnit k)).map f = rays.map f := fun f hf => by
    simp only [Array.map_map, Function.comp_def, hf]
  simp only [Ray.checkAll, Ray.checkRanges, hradius, hother Ray.mu fun _ => rfl,
    hother Ray.muS fun _ => rfl, hother Ray.nu fun _ => rfl]

namespace Parameters

variable {p : Parameters ℝ} {k : ℝ}

theorem medium?_inUnit (h : p.Regular) (hk : 0 < k) :
    (p.inUnit k).medium? = p.medium?.map (·.inUnit k) := by
  rw [medium?_regular (h.inUnit hk), medium?_regular h, Option.map_some]
  simp only [stack_inUnit]
  rfl

/-- The light scattered into a row of rays is the same in every unit. -/
theorem scatterInto_inUnit (h : p.Regular) (hk : 0 < k) (x : Transmittance ℝ) (count : Value ℝ)
    (rays : List (Ray ℝ × Bool)) :
    (p.inUnit k).scatterInto (x.inUnit k) count (.row (rays.map (Prod.map (·.inUnit k) id))) =
      p.scatterInto x count (.row rays) := by
  have hcheck : Ray.checkAll (p.inUnit k).shell
      ((Tensor.row (rays.map (Prod.map (·.inUnit k) id))).data.map Prod.fst) =
        Ray.checkAll p.shell ((Tensor.row rays).data.map Prod.fst) := by
    rw [← Ray.checkAll_inUnit p.shell hk]
    congr 1
    simp
  have hshape : (Tensor.row (rays.map (Prod.map (·.inUnit k) id))).shape =
      (Tensor.row rays).shape := by
    simp [Tensor.row]
  have hfound : ∀ (m : ScatteringMedium ℝ) (n : Nat),
      (Tensor.row (rays.map (Prod.map (·.inUnit k) id))).mapM
        (fun ray => (m.inUnit k).integrate (x.inUnit k).oracle n ray.1 ray.2) =
      (Tensor.row rays).mapM fun ray => m.integrate x.oracle n ray.1 ray.2 := by
    intro m n
    rw [← Tensor.map_row, Tensor.mapM_map]
    simp only [Prod.map, id, ScatteringMedium.integrate_inUnit _ _ _ _ hk]
  have hfilter : ∀ m : ScatteringMedium ℝ, ((some m).filter fun _ =>
      decide ((Tensor.row rays).shape.length < Tensor.maxLookupAxes)) = some m := fun m =>
    Option.filter_some_pos (by simp [Tensor.row, Tensor.maxLookupAxes])
  unfold scatterInto
  rw [medium?_inUnit h hk, medium?_regular h, Option.map_some, hshape, hfilter, hfilter]
  simp only [hcheck, hfound]

end Parameters

/-- The kernel gives the same for a row of voxels in every unit. -/
theorem PassPlan.evaluate_inUnit {p : PassPlan ℝ} {k : ℝ} (h : p.atmosphere.Regular) (hk : 0 < k)
    (x : Transmittance ℝ) (voxels : List Voxel) :
    (PassPlan.kernel { p with atmosphere := p.atmosphere.inUnit k } (x.inUnit k)).evaluate
        (.row voxels) = (p.kernel x).evaluate (.row voxels) := by
  have hrays : voxels.map (p.extents.scale.rayAt (p.atmosphere.inUnit k).toLitShell) =
      (voxels.map (p.extents.scale.rayAt p.atmosphere.toLitShell)).map
        (Prod.map (·.inUnit k) id) := by
    rw [List.map_map]
    exact List.map_congr_left fun v _ =>
      GridScale.rayAt_inUnit p.extents.scale p.atmosphere.toLitShell hk v
  simp only [Kernel.evaluate, PassPlan.kernel, Tensor.map_row, hrays]
  exact Parameters.scatterInto_inUnit h hk x p.sampleCount _

namespace PassPlan

variable {α : Type} [Scalar α]

/-- Layers with numbers as coefficients do not matter for what is added to sums. -/
theorem addends_eq {projection : Projection α} {layers : Profile (Value α)}
    (h : ∀ layer ∈ layers, layer.NumberCoefficients) (scattered : Tensor (Spectrum α)) :
    addends projection layers scattered = addends projection [] scattered := by
  simp only [addends, Profile.any_keepsElements_eq_false h, List.any_nil]
  rfl

/-- The blocks of two passes that evaluate alike and add alike are the same. -/
theorem runBlocks_congr [Inhabited α] {p : PassPlan α} {a : Parameters α} {x y : Transmittance α}
    {projection : Projection α}
    (hevaluate : ∀ block, (kernel { p with atmosphere := a } y).evaluate
      (.row (p.extents.voxels block)) = (p.kernel x).evaluate (.row (p.extents.voxels block)))
    (hrayleigh : ∀ scattered, addends projection a.rayleighDensity scattered =
      addends projection p.atmosphere.rayleighDensity scattered)
    (hmie : ∀ scattered, addends projection a.mieDensity scattered =
      addends projection p.atmosphere.mieDensity scattered)
    (store : α → α) (observer : Option (Observer α)) (total done : Nat)
    (blocks : List Extents.Block) (grids : ScatterGrids α) :
    (runBlocks { p with atmosphere := a } store y projection observer total done blocks grids :
        Run α p.Sums (ScatterGrids α)) =
      p.runBlocks store x projection observer total done blocks grids := by
  induction blocks generalizing done grids with
  | nil => rfl
  | cons block rest ih =>
    have hrun : (kernel { p with atmosphere := a } y).run store .ok
        (.row (p.extents.voxels block)) =
          (p.kernel x).run store .ok (.row (p.extents.voxels block)) := by
      simp only [Kernel.run, hevaluate]
    have hadd : ∀ start scattered, (addBlock { p with atmosphere := a } store projection start
        scattered : Run α p.Sums Unit) = p.addBlock store projection start scattered := by
      intro start scattered
      simp only [addBlock, hrayleigh, hmie]
    simp only [runBlocks, hrun, hadd, ih]

/-- A pass is the same in every unit. -/
theorem run_inUnit {p : PassPlan ℝ} {k : ℝ} (h : p.atmosphere.Regular) (hk : 0 < k)
    (store : ℝ → ℝ) (x : Transmittance ℝ) (matrix : Tensor ℝ) (observer : Option (Observer ℝ)) :
    (run { p with atmosphere := p.atmosphere.inUnit k } store (x.inUnit k) matrix observer :
        Run ℝ p.Sums (TextureSet ℝ)) = p.run store x matrix observer := by
  have hown := h.numberCoefficients
  have hscaled := (h.inUnit hk).numberCoefficients
  have hblocks : ∀ projection total done blocks grids,
      (runBlocks { p with atmosphere := p.atmosphere.inUnit k } store (x.inUnit k) projection
        observer total done blocks grids : Run ℝ p.Sums (ScatterGrids ℝ)) =
          p.runBlocks store x projection observer total done blocks grids := by
    intro projection total done blocks grids
    refine runBlocks_congr (fun block => evaluate_inUnit h hk x _) (fun scattered => ?_)
      (fun scattered => ?_) store observer total done blocks grids
    · exact (addends_eq (hscaled .rayleighDensity) scattered).trans
        (addends_eq (hown .rayleighDensity) scattered).symm
    · exact (addends_eq (hscaled .mieDensity) scattered).trans
        (addends_eq (hown .mieDensity) scattered).symm
  simp only [run, hblocks, Transmittance.texels?_inUnit]
  rfl

end PassPlan

/-- A precomputation is the same in every unit, step by step. -/
theorem Parameters.precompute_inUnit {p : Parameters ℝ} (h : p.Regular) {k : ℝ} (hk : 0 < k)
    (sizes : GridSizes ℝ) (effort : Effort ℝ) (matrix : Option (Tensor ℝ)) (store : ℝ → ℝ)
    (observer : Option (Observer ℝ)) :
    (p.inUnit k).precompute sizes effort matrix store observer =
      p.precompute sizes effort matrix store observer := by
  obtain ⟨checked, hmake⟩ := PassPlan.make_eq_map (α := ℝ) sizes effort.blockSize effort.sampleCount
  have hprojection : (p.inUnit k).projection = p.projection := rfl
  simp only [precompute, transmittanceTable_inUnit h hk, hmake, hprojection]
  refine bind_congr fun _ => bind_congr fun _ => bind_congr fun table => bind_congr fun _ => ?_
  cases checked with
  | error failure => simp only [Except.map, Run.lift_error_bind]
  | ok e =>
    simp only [Except.map, Run.lift_ok_bind]
    have hrun := PassPlan.run_inUnit (p := ⟨p, e, effort.workers, effort.blockSize,
      effort.sampleCount⟩) h hk store (.ofTable p table) (matrix.getD p.projection.toTensor)
      (observer.map (Observer.ofPart fun done => 0.1 + 0.9 * done))
    exact congrArg (fun pass => (do return (← Run.within LuminanceSums.zero pass).1)) hrun

end Airlight
