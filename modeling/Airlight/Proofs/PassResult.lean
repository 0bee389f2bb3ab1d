import Airlight.Proofs.KernelSteps
import Airlight.Proofs.Projection
import Airlight.Proofs.VoxelEnumeration
import Airlight.Proofs.VoxelLight

/-!
# What a pass computes

A pass over a grid gives at each voxel what the kernel gives for that voxel alone, whatever the size
of its blocks. The invariant of the blocks is that after each of them the grids hold the light of
all voxels up to its end and of no other voxel, and that the sums have been added to for the same
voxels.

## Main definitions

* `PassPlan.gridsTo` — the grids of a pass that has reached a position.
* `PassPlan.sumsTo` — the sums of a pass that has reached a position.
-/

namespace Airlight

open Colour Grid Texture

variable {α : Type} [Scalar α]

/-! ## Blocks of a grid -/

namespace GridStep

variable {β : Type} {e : Extents} {g : Nat → Spectrum β} {store : β → β} {start stop : Nat}

theorem refusal?_block {f : Nat → Spectrum β} (hstop : stop ≤ e.voxelCount) :
    refusal? (.filledTo e.shape f start) (e.voxels (start, stop))
      (.row ((List.range' start (stop - start)).map g)) = none := by
  rw [refusal?, VoxelGrid.refusal?_filledTo hstop, Option.none_or,
    if_pos (by simp [Tensor.row, Extents.voxels])]

end GridStep

/-! ## Passes -/

namespace PassPlan

variable (p : PassPlan α) (store : α → α) (projection : Projection α) (light : Voxel → Scattered α)

/-- The light at a position of the grid. -/
def lightAt (i : Nat) : Scattered α := light (p.extents.voxelAt i)

/-- The grids of a pass that has reached a position. -/
def gridsTo (k : Nat) : ScatterGrids α where
  rayleigh := .filledTo p.extents.shape (fun i => (p.lightAt light i).rayleigh.map store) k
  mie := .filledTo p.extents.shape (fun i => (p.lightAt light i).mie.map store) k

/-- The sums of a pass that has reached a position and began with given sums. -/
def sumsTo (sums : p.Sums) (k : Nat) : p.Sums where
  scattering := LuminanceSums.addedTo store sums.scattering
    (fun i => projection.apply (p.lightAt light i).rayleigh) k
  singleMie := LuminanceSums.addedTo store sums.singleMie
    (fun i => projection.apply (p.lightAt light i).mie) k

variable {p store projection light} {start stop : Nat}

/-- The light of a block of voxels. -/
def blockLight (p : PassPlan α) (light : Voxel → Scattered α) (start stop : Nat) :
    ScatteredArrays α where
  rayleigh := .row ((List.range' start (stop - start)).map fun i => (p.lightAt light i).rayleigh)
  mie := .row ((List.range' start (stop - start)).map fun i => (p.lightAt light i).mie)

/-- The luminances of a block that are added to sums. -/
theorem addends_block {layers : Profile (Value α)}
    (hlayers : layers.any DensityLayer.keepsElements = false) (g : Nat → Spectrum α) :
    addends projection layers (.row ((List.range' start (stop - start)).map g)) =
      .ok ((List.range' start (stop - start)).map fun i => projection.apply (g i)) := by
  simp [addends, hlayers, Tensor.row, Tensor.map, Function.comp_def]

/-- The densities of both constituents are made of numbers, so that their light can be added. -/
structure Plain (p : PassPlan α) : Prop where
  rayleigh : p.atmosphere.rayleighDensity.any DensityLayer.keepsElements = false
  mie : p.atmosphere.mieDensity.any DensityLayer.keepsElements = false

theorem plain_of_medium? (h : p.atmosphere.medium?.isSome = true) : p.Plain := by
  obtain ⟨hrayleigh, hmie⟩ := Parameters.stacks_of_medium? h
  exact ⟨Profile.any_keepsElements_eq_false (Profile.numberCoefficients_of_stack? hrayleigh),
    Profile.any_keepsElements_eq_false (Profile.numberCoefficients_of_stack? hmie)⟩

/-- The luminances of a block take the sums from its start to its end. -/
theorem sumsTo_block (store : α → α) (projection : Projection α) (light : Voxel → Scattered α)
    (h : start ≤ stop) (sums : p.Sums) :
    LuminanceSums.addSingleMie store start
      ((List.range' start (stop - start)).map fun i => projection.apply (p.lightAt light i).mie)
      (LuminanceSums.addScattering store start
        ((List.range' start (stop - start)).map fun i =>
          projection.apply (p.lightAt light i).rayleigh)
        (p.sumsTo store projection light sums start)) =
      p.sumsTo store projection light sums stop := by
  simp only [LuminanceSums.addSingleMie, LuminanceSums.addScattering, sumsTo,
    LuminanceSums.addFrom_block _ _ _ h]

/-- A block takes the sums from its start to its end. -/
theorem yields_addBlock (store : α → α) (projection : Projection α) (light : Voxel → Scattered α)
    (hplain : p.Plain) (h : start ≤ stop) (sums : p.Sums) :
    (p.addBlock store projection start (p.blockLight light start stop)).Yields
      (p.sumsTo store projection light sums start) ()
      (p.sumsTo store projection light sums stop) := by
  rw [← sumsTo_block store projection light h]
  exact (Run.yields_lift (addends_block hplain.rayleigh _) _).bind <|
    (Run.yields_change _ _).bind <|
    (Run.yields_lift (addends_block hplain.mie _) _).bind (Run.yields_change _ _)

theorem blocks_eq {n : Int} (hsize : p.blockSize = .integer n) (hn : 1 ≤ n) :
    p.blocks = .ok (Extents.blocksFrom 0 p.extents.voxelCount n.toNat) := by
  rw [PassPlan.blocks, hsize, Extents.blocks_ofExtents p.extents hn, Extents.blocks]

/-- The blocks of a pass cover the grid. -/
theorem tiles_blocks {n : Int} (hsize : p.blockSize = .integer n) (hn : 1 ≤ n) :
    ∃ blocks, p.blocks = .ok blocks ∧ Extents.Tiles 0 p.extents.voxelCount blocks :=
  ⟨_, blocks_eq hsize hn, Extents.tiles_blocksFrom (by omega) (Nat.zero_le _)⟩

omit [Scalar α] in
/-- There is room for the grids of a pass. -/
theorem make_grids (store : α → α) (light : Voxel → Scattered α)
    (hroom : Tensor.checkRoom (p.extents.shape.sizes ++ [4]) ScatterGrids.valueBytes =
      (.ok () : Except (Failure α) Unit)) :
    ScatterGrids.make p.extents.shape = (.ok (p.gridsTo store light 0) : Except (Failure α) _) := by
  simp only [ScatterGrids.make, VoxelGrid.make, hroom, ok_bind, pure_eq_ok, gridsTo,
    ← VoxelGrid.empty_eq_filledTo]

/-- There is room for the grids over the standard extents. -/
theorem checkRoom_standard {φ : Type} :
    Tensor.checkRoom (Extents.standard.shape.sizes ++ [4]) ScatterGrids.valueBytes =
      (.ok () : Except (Failure φ) Unit) :=
  (Tensor.checkRoom_eq_ok_iff (by decide)).mpr (by decide)

omit [Scalar α] in
/-- The grids of a pass begin without light. -/
theorem eq_gridsTo_of_make (store : α → α) (light : Voxel → Scattered α) {grids : ScatterGrids α}
    (h : (ScatterGrids.make p.extents.shape : Except (Failure α) _) = .ok grids) :
    grids = p.gridsTo store light 0 := by
  obtain ⟨rayleigh, hrayleigh, h⟩ := bind_eq_ok_iff.mp h
  obtain ⟨mie, hmie, h⟩ := bind_eq_ok_iff.mp h
  obtain ⟨_, -, hrayleigh⟩ := bind_eq_ok_iff.mp hrayleigh
  obtain ⟨_, -, hmie⟩ := bind_eq_ok_iff.mp hmie
  cases hrayleigh
  cases hmie
  cases h
  simp only [gridsTo, ← VoxelGrid.empty_eq_filledTo]

@[simp] theorem sumsTo_zero (store : α → α) (projection : Projection α)
    (light : Voxel → Scattered α) (sums : p.Sums) :
    p.sumsTo store projection light sums 0 = sums := by
  simp only [sumsTo, LuminanceSums.addedTo_zero]

variable [Inhabited α] {x : Transmittance α}

/-- The light of each voxel of the grid is known. -/
def Lit (p : PassPlan α) (x : Transmittance α) (light : Voxel → Scattered α) : Prop :=
  ∀ v, p.extents.shape.contains v = true →
    p.atmosphere.LitBy x p.sampleCount (p.extents.scale.rayAt p.atmosphere.toLitShell v) (light v)

/-- The light of single voxels is what the kernel evaluates. -/
theorem lit_of_evaluate (h : ∀ v, p.extents.shape.contains v = true →
    (p.kernel x).evaluate (.single v) = .ok ⟨.single (light v).rayleigh, .single (light v).mie⟩) :
    p.Lit x light := by
  intro v hv
  rw [Parameters.LitBy, ← h v hv, Kernel.evaluate, Tensor.map_single]
  rfl

theorem evaluate_block (hlit : p.Lit x light) (h : start < stop)
    (hstop : stop ≤ p.extents.voxelCount) :
    (p.kernel x).evaluate (.row (p.extents.voxels (start, stop))) =
      .ok (p.blockLight light start stop) := by
  have hne : List.range' start (stop - start) ≠ [] := by
    rw [Ne, List.range'_eq_nil_iff]
    omega
  rw [Kernel.evaluate, Tensor.map_row, Extents.voxels, List.map_map]
  refine Parameters.scatterInto_row hne fun i hi => hlit _ (Extents.contains_voxelAt ?_)
  obtain ⟨-, hi⟩ := List.mem_range'_1.mp hi
  exact lt_of_lt_of_le hi (by omega)

/-- A block takes the grids from its start to its end. -/
theorem run_kernel (hevaluate : (p.kernel x).evaluate (.row (p.extents.voxels (start, stop))) =
      .ok (p.blockLight light start stop))
    (h : start ≤ stop) (hstop : stop ≤ p.extents.voxelCount) :
    ((p.kernel x).run store .ok (.row (p.extents.voxels (start, stop)))).run
        (p.gridsTo store light start) =
      (.ok (p.blockLight light start stop), p.gridsTo store light stop) := by
  rw [Kernel.run_of_evaluate hevaluate]
  simp only [gridsTo, blockLight, Tensor.data_row, List.toList_toArray,
    GridStep.refusal?_block hstop, ScatterGrids.fill, VoxelGrid.fill_filledTo store _ h hstop]

/-- The blocks from a position on take grids and sums to the end of the grid. -/
theorem yields_runBlocks (store : α → α) (projection : Projection α) (hlit : p.Lit x light)
    (hmedium : p.atmosphere.medium?.isSome = true)
    {observer : Option (Observer α)} (hsilent : ∀ o ∈ observer, o.Silent) (sums : p.Sums)
    {blocks : List Extents.Block} (htiles : Extents.Tiles start stop blocks)
    (hstop : stop ≤ p.extents.voxelCount) (total done : Nat) :
    (p.runBlocks store x projection observer total done blocks
        (p.gridsTo store light start)).Yields
      (p.sumsTo store projection light sums start) (p.gridsTo store light stop)
      (p.sumsTo store projection light sums stop) := by
  induction htiles generalizing done with
  | nil n => exact Run.yields_pure _ _
  | @cons first last stop rest hlt hrest ih =>
    have hlast := hrest.le.trans hstop
    rw [runBlocks, run_kernel (evaluate_block hlit hlt hlast) hlt.le hlast]
    refine (Run.yields_lift rfl _).bind ?_
    exact (yields_addBlock store projection light (plain_of_medium? hmedium) hlt.le sums).bind
      ((Run.yields_tell hsilent _ _).bind (ih hstop (done + 1)))

/-- The textures of a pass that began with given sums. -/
def textures (p : PassPlan α) (store : α → α) (projection : Projection α)
    (light : Voxel → Scattered α) (x : Transmittance α) (sums : p.Sums) : TextureSet α where
  transmittance := x.texels?
  deltaRayleigh := (p.gridsTo store light p.extents.voxelCount).rayleigh.toTensor
  deltaMie := (p.gridsTo store light p.extents.voxelCount).mie.toTensor
  scattering := LuminanceSums.toTensor p.extents.shape.sizes
    (p.sumsTo store projection light sums p.extents.voxelCount).scattering
  singleMie := LuminanceSums.toTensor p.extents.shape.sizes
    (p.sumsTo store projection light sums p.extents.voxelCount).singleMie

/-- A pass succeeds with the textures of the light that the kernel gives for single voxels. -/
theorem yields_run (store : α → α) (hlit : p.Lit x light) {matrix : Tensor α}
    (hmatrix : Projection.ofMatrix matrix = .ok projection) {n : Int}
    (hsize : p.blockSize = .integer n) (hn : 1 ≤ n) (hworkers : checkWorkers p.workers = .ok ())
    (hroom : Tensor.checkRoom (p.extents.shape.sizes ++ [4]) ScatterGrids.valueBytes =
      (.ok () : Except (Failure α) Unit))
    {observer : Option (Observer α)} (hsilent : ∀ o ∈ observer, o.Silent) (sums : p.Sums) :
    (p.run store x matrix observer).Yields sums (p.textures store projection light x sums)
      (p.sumsTo store projection light sums p.extents.voxelCount) := by
  obtain ⟨blocks, hblocks, htiles⟩ := tiles_blocks hsize hn
  have hfirst : p.extents.shape.contains (p.extents.voxelAt 0) = true :=
    Extents.contains_voxelAt p.extents.voxelCount_pos
  have hmedium := Parameters.medium?_isSome_of_scatterInto (hlit _ hfirst)
  have hcomplete : (p.gridsTo store light p.extents.voxelCount).isComplete = true := by
    simp only [ScatterGrids.isComplete, gridsTo, VoxelGrid.isComplete_filledTo, Bool.and_self]
  have hrun := yields_runBlocks store projection hlit hmedium hsilent sums htiles le_rfl
    blocks.length 0
  rw [sumsTo_zero] at hrun
  unfold run
  refine (Run.yields_lift hmatrix _).bind ?_
  refine (Run.yields_lift (make_grids store light hroom) _).bind ?_
  refine (Run.yields_lift hblocks _).bind ?_
  refine (Run.yields_note _ _).bind ?_
  refine (Run.yields_lift hworkers _).bind ?_
  refine hrun.bind ?_
  simp only [hcomplete, Bool.not_true, Bool.false_eq_true, if_false]
  exact (Run.yields_state _).bind ((Run.yields_note _ _).bind (Run.yields_pure _ _))

/-! ### Values of the textures -/

section

variable {i j l c : Nat}

omit [Scalar α] [Inhabited α] in
theorem lightAt_position (hi : i < p.extents.width) (hj : j < p.extents.height)
    (hl : l < p.extents.depth) :
    p.lightAt light (p.extents.shape.position ⟨i, j, l⟩) = light ⟨i, j, l⟩ := by
  rw [lightAt, Extents.voxelAt_position (Extents.contains_of_lt hi hj hl)]

/-- The grids of a pass hold the light of each voxel. -/
theorem get?_textures_grids (sums : p.Sums) (hi : i < p.extents.width) (hj : j < p.extents.height)
    (hl : l < p.extents.depth) (hc : c < 4) :
    (p.textures store projection light x sums).deltaRayleigh.get? [l, j, i, c] =
        some (store (light ⟨i, j, l⟩).rayleigh[c]) ∧
      (p.textures store projection light x sums).deltaMie.get? [l, j, i, c] =
        some (store (light ⟨i, j, l⟩).mie[c]) := by
  constructor
  · refine (VoxelGrid.get?_toTensor_filledTo hi hj hl hc).trans ?_
    rw [lightAt_position hi hj hl, Vector.getElem_map]
  · refine (VoxelGrid.get?_toTensor_filledTo hi hj hl hc).trans ?_
    rw [lightAt_position hi hj hl, Vector.getElem_map]

/-- The sums of a pass hold what they held before and the luminance of each voxel. -/
theorem get?_textures_sums (store : α → α) (projection : Projection α)
    (light : Voxel → Scattered α) (x : Transmittance α) (sums : p.Sums)
    (hi : i < p.extents.width) (hj : j < p.extents.height) (hl : l < p.extents.depth) (hc : c < 3)
    (hk : p.extents.shape.position ⟨i, j, l⟩ < p.extents.voxelCount) :
    (p.textures store projection light x sums).scattering.get? [l, j, i, c] =
        some (store (sums.scattering[p.extents.shape.position ⟨i, j, l⟩][c] +
          (projection.apply (light ⟨i, j, l⟩).rayleigh)[c])) ∧
      (p.textures store projection light x sums).singleMie.get? [l, j, i, c] =
        some (store (sums.singleMie[p.extents.shape.position ⟨i, j, l⟩][c] +
          (projection.apply (light ⟨i, j, l⟩).mie)[c])) := by
  constructor
  · refine (LuminanceSums.get?_toTensor _ hi hj hl hc hk).trans ?_
    simp only [sumsTo, LuminanceSums.getElem_addedTo, if_pos hk, lightAt_position hi hj hl,
      Vector.getElem_zipWith]
  · refine (LuminanceSums.get?_toTensor _ hi hj hl hc hk).trans ?_
    simp only [sumsTo, LuminanceSums.getElem_addedTo, if_pos hk, lightAt_position hi hj hl,
      Vector.getElem_zipWith]

end

omit [Scalar α] [Inhabited α] in
/-- The sizes of extents are those of the extents. -/
theorem extents_ofExtents (e : Extents) :
    (GridSizes.ofExtents e : GridSizes α).extents = .ok e := by
  have hsmall : 2 ≤ (e.nuSize : Int) ∧ 2 ≤ (e.muSSize : Int) ∧ 2 ≤ (e.rSize : Int) := by
    have := e.two_le_nuSize
    have := e.two_le_muSSize
    have := e.two_le_rSize
    omega
  have heven : 4 ≤ (e.muSize : Int) ∧ (e.muSize : Int) % 2 = 0 := by
    have := e.four_le_muSize
    have := e.even_muSize
    omega
  simp only [GridSizes.extents, GridSizes.ofExtents, Quantity.toInt, ok_bind, Extents.ofSizes,
    dif_pos hsmall, dif_pos heven, Int.toNat_natCast]

omit [Inhabited α] in
/-- A plan is made for whole sizes and positive counts if there is room for the sums. -/
theorem make_eq_ok {atmosphere : Parameters α} {e : Extents} {workers count : Value α} {n : Int}
    (hn : 1 ≤ n) (hcount : count.isBelow 1 = .ok false)
    (hroom : Tensor.checkRoom (e.shape.sizes ++ [4]) ScatterGrids.valueBytes =
      (.ok () : Except (Failure α) Unit)) :
    make atmosphere (.ofExtents e) workers (.integer n) count =
      .ok ⟨atmosphere, e, workers, .integer n, count⟩ := by
  have hsums : Tensor.checkRoom (e.shape.sizes ++ [3]) ScatterGrids.valueBytes =
      (.ok () : Except (Failure α) Unit) :=
    Tensor.checkRoom_of_le e.sizes_pos (by omega) (by omega) hroom
  simp only [make, Value.isBelow_integer hn, hcount, ok_bind, Bool.false_eq_true, if_false,
    extents_ofExtents, hsums, pure_eq_ok]

end PassPlan

/-- The luminances of the light of a single voxel. -/
theorem Kernel.luminances_single [Inhabited α] {matrix : Tensor α} {projection : Projection α}
    (h : Projection.ofMatrix matrix = .ok projection) (rayleigh mie : Spectrum α) :
    luminances matrix ⟨.single rayleigh, .single mie⟩ =
      .ok (.row (projection.apply rayleigh).toList, .row (projection.apply mie).toList) := by
  simp only [luminances, project_components h, ok_bind, pure_eq_ok]

/-- In a fresh sequence a pass over a grid gives for each voxel the light that the kernel gives for
the voxel alone, and the luminance of that light added to the zeros that the sums begin with. It
gives the same for blocks of any size, any number of workers and any observer that lets it run, so
it neither leaves a voxel unwritten nor writes one twice. The light has to be one spectrum for each
constituent, and the grids have to fit into memory. -/
theorem Kernel.pass_eq_evaluate [Inhabited α] (k : Kernel α) (store : α → α) {matrix : Tensor α}
    (hmatrix : matrix.shape = [4, 4]) (light : Voxel → Scattered α)
    (hlight : ∀ v, k.extents.shape.contains v = true →
      k.evaluate (.single v) = .ok ⟨.single (light v).rayleigh, .single (light v).mie⟩)
    (hroom : Tensor.checkRoom (k.extents.shape.sizes ++ [4]) ScatterGrids.valueBytes =
      (.ok () : Except (Failure α) Unit)) :
    ∃ textures : TextureSet α,
      (∀ (blockSize : Int) (workers : Value α) (observer : Option (Observer α)), 1 ≤ blockSize →
        PassPlan.checkWorkers workers = .ok () → (∀ o ∈ observer, o.Silent) →
          ∃ plan, PassPlan.make k.atmosphere (.ofExtents k.extents) workers (.integer blockSize)
              k.sampleCount = .ok plan ∧
            (Run.start .zero (plan.run store k.transmittance matrix observer)).1 = .ok textures) ∧
      ∀ x y z : Nat, x < k.extents.width → y < k.extents.height → z < k.extents.depth →
        ∃ all aerosols : Tensor α,
          luminances matrix ⟨.single (light ⟨x, y, z⟩).rayleigh, .single (light ⟨x, y, z⟩).mie⟩ =
            .ok (all, aerosols) ∧
          (∀ c (hc : c < 4),
            textures.deltaRayleigh.get? [z, y, x, c] = some (store (light ⟨x, y, z⟩).rayleigh[c]) ∧
            textures.deltaMie.get? [z, y, x, c] = some (store (light ⟨x, y, z⟩).mie[c])) ∧
          ∀ c, c < 3 → ∃ l m, all.get? [c] = some l ∧ aerosols.get? [c] = some m ∧
            textures.scattering.get? [z, y, x, c] = some (store (0.0 + l)) ∧
            textures.singleMie.get? [z, y, x, c] = some (store (0.0 + m)) := by
  obtain ⟨projection, hprojection⟩ := Projection.exists_ofMatrix hmatrix
  let plan (n : Int) (workers : Value α) : PassPlan α :=
    ⟨k.atmosphere, k.extents, workers, .integer n, k.sampleCount⟩
  have hlit : ∀ n workers, (plan n workers).Lit k.transmittance light :=
    fun n workers => PassPlan.lit_of_evaluate hlight
  have hfirst := hlit 1 .null _ (Extents.contains_voxelAt k.extents.voxelCount_pos)
  obtain ⟨m, hm⟩ := Option.isSome_iff_exists.mp (Parameters.medium?_isSome_of_scatterInto hfirst)
  have hcount := ((Parameters.litBy_iff hm).mp hfirst).1
  refine ⟨(plan 1 .null).textures store projection light k.transmittance .zero, ?_, ?_⟩
  · intro n workers observer hn hworkers hsilent
    have hrun := (plan n workers).yields_run store (hlit n workers) hprojection rfl hn hworkers
      hroom hsilent .zero
    exact ⟨plan n workers, PassPlan.make_eq_ok hn hcount hroom, hrun.start_eq⟩
  · intro x y z hx hy hz
    have hk := Extents.position_lt (Extents.contains_of_lt hx hy hz)
    refine ⟨_, _, luminances_single hprojection _ _,
      fun c hc => PassPlan.get?_textures_grids .zero hx hy hz hc, fun c hc => ?_⟩
    have hsums := (plan 1 .null).get?_textures_sums store projection light k.transmittance .zero
      hx hy hz hc hk
    simp only [LuminanceSums.zero, Vector.getElem_replicate] at hsums
    refine ⟨(projection.apply (light ⟨x, y, z⟩).rayleigh)[c],
      (projection.apply (light ⟨x, y, z⟩).mie)[c], ?_, ?_, hsums⟩
    · rw [Tensor.get?_row (by simpa using hc), Vector.getElem_toList]
    · rw [Tensor.get?_row (by simpa using hc), Vector.getElem_toList]

/-- The standard grid around the Earth, with all light surviving its way, is filled whatever the
size of the blocks. -/
theorem Kernel.pass_eq_evaluate_earth :
    ∃ (light : Voxel → Scattered ℝ) (textures : TextureSet ℝ),
      (∀ blockSize : Int, 1 ≤ blockSize → ∃ plan,
        PassPlan.make Parameters.earth (.ofExtents .standard) .null (.integer blockSize)
            (.integer 50) = .ok plan ∧
          (Run.start .zero (plan.run id (.constant (Spectrum.constant 1))
            (.ofFn [4, 4] fun _ => 1) none)).1 = .ok textures) ∧
      ∀ c (hc : c < 4),
        textures.deltaRayleigh.get? [0, 0, 0, c] = some (light ⟨0, 0, 0⟩).rayleigh[c] := by
  let k : Kernel ℝ := ⟨.standard, .earth, .constant (Spectrum.constant 1), .integer 50⟩
  obtain ⟨light, hlight⟩ := k.exists_light Parameters.validate_earth Parameters.regular_earth rfl
    (by decide) (Oracle.answers_constant (Spectrum.constant 1))
  have hmatrix : (Tensor.ofFn [4, 4] fun _ => (1 : ℝ)).shape = [4, 4] := rfl
  obtain ⟨textures, hruns, hvalues⟩ :=
    k.pass_eq_evaluate id hmatrix light hlight PassPlan.checkRoom_standard
  obtain ⟨-, -, -, hgrids, -⟩ := hvalues 0 0 0 (by decide) (by decide) (by decide)
  exact ⟨light, textures, fun blockSize hsize => hruns blockSize .null none hsize rfl nofun,
    fun c hc => (hgrids c hc).1⟩

end Airlight
