import Airlight.Proofs.FailedPass

/-!
# Passes that succeed

The light of a pass is read off the blocks that the kernel has evaluated. A pass that succeeds has
written the light of every voxel once and has added its luminance once, whatever the sums were
before. Where the kernel can evaluate a voxel on its own, the light is what it gives for the voxel.

## Main definitions

* `PassPlan.Shines` — the kernel evaluates each block of a pass to given light.
-/

namespace Airlight

open Colour Grid Texture

variable {α : Type}

/-! ## Light up to a position and in a block -/

namespace PassPlan

variable {p : PassPlan α} {store : α → α} {projection : Projection α}
  {light light' : Voxel → Scattered α} {start stop : Nat}

/-- Only the light of the voxels before the position matters. -/
theorem gridsTo_congr {k : Nat} (h : ∀ i < k, p.lightAt light i = p.lightAt light' i) :
    p.gridsTo store light k = p.gridsTo store light' k := by
  unfold gridsTo
  congr 1
  · exact VoxelGrid.filledTo_congr fun i hi => by rw [h i hi]
  · exact VoxelGrid.filledTo_congr fun i hi => by rw [h i hi]

theorem blockLight_congr
    (h : ∀ i, start ≤ i → i < stop → p.lightAt light i = p.lightAt light' i) :
    p.blockLight light start stop = p.blockLight light' start stop := by
  have hrange : ∀ i ∈ List.range' start (stop - start),
      p.lightAt light i = p.lightAt light' i := by
    intro i hi
    obtain ⟨hfirst, hlast⟩ := List.mem_range'_1.mp hi
    exact h i hfirst (by omega)
  unfold blockLight
  congr 2
  · exact List.map_congr_left fun i hi => by rw [hrange i hi]
  · exact List.map_congr_left fun i hi => by rw [hrange i hi]

/-- Blocks of equal light have voxels of equal light. -/
theorem lightAt_of_blockLight {i : Nat}
    (h : p.blockLight light start stop = p.blockLight light' start stop) (hfirst : start ≤ i)
    (hlast : i < stop) : p.lightAt light i = p.lightAt light' i := by
  have hmem : i ∈ List.range' start (stop - start) := List.mem_range'_1.mpr ⟨hfirst, by omega⟩
  obtain ⟨hrayleigh, hmie⟩ := ScatteredArrays.mk.inj h
  have hrayleigh := congrArg (fun t => t.data.toList) hrayleigh
  have hmie := congrArg (fun t => t.data.toList) hmie
  simp only [Tensor.data_row, List.toList_toArray, List.map_inj_left] at hrayleigh hmie
  exact congrArg₂ Scattered.mk (hrayleigh i hmem) (hmie i hmem)

/-- Rows that hold one spectrum for each voxel of a block are the light of the block, for light that
is the given one before the block. -/
theorem exists_blockLight [Inhabited α] (light : Voxel → Scattered α)
    {rayleigh mie : List (Spectrum α)} (hrayleigh : rayleigh.length = stop - start)
    (hmie : mie.length = stop - start) :
    ∃ light', (∀ i < start, p.lightAt light i = p.lightAt light' i) ∧
      p.blockLight light' start stop = ⟨.row rayleigh, .row mie⟩ := by
  let light' : Voxel → Scattered α := fun v =>
    if p.extents.shape.position v < start then light v
    else ⟨rayleigh.getD (p.extents.shape.position v - start) default,
      mie.getD (p.extents.shape.position v - start) default⟩
  have hrow : ∀ (values : List (Spectrum α)) (component : Scattered α → Spectrum α),
      values.length = stop - start →
        (∀ i, ¬ i < start → component (p.lightAt light' i) = values.getD (i - start) default) →
          (List.range' start (stop - start)).map (fun i => component (p.lightAt light' i)) =
            values := by
    intro values component hlength hvalue
    refine List.ext_getElem (by simp [hlength]) fun k hk hk' => ?_
    rw [List.getElem_map, List.getElem_range', hvalue _ (by omega), List.getD_eq_getElem?_getD,
      show start + 1 * k - start = k by omega, List.getElem?_eq_getElem hk', Option.getD_some]
  refine ⟨light', fun i hi => ?_, ?_⟩
  · simp only [lightAt, light', Extents.position_voxelAt, if_pos hi]
  · unfold blockLight
    rw [hrow rayleigh Scattered.rayleigh hrayleigh fun i hi => ?_,
      hrow mie Scattered.mie hmie fun i hi => ?_]
    · simp only [lightAt, light', Extents.position_voxelAt, if_neg hi]
    · simp only [lightAt, light', Extents.position_voxelAt, if_neg hi]

end PassPlan

/-! ## What has succeeded -/

variable [Scalar α]

namespace PassPlan

variable {p : PassPlan α} {store : α → α} {x : Transmittance α} {projection : Projection α}
  {light light' : Voxel → Scattered α} {start stop : Nat}

/-- Light that can be added to sums comes in a row and from densities made of numbers. -/
theorem eq_row_of_addends {layers : Profile (Value α)} {scattered : Tensor (Spectrum α)}
    {values : List (Triple α)} (h : addends projection layers scattered = .ok values) :
    layers.any DensityLayer.keepsElements = false ∧ scattered = .row scattered.data.toList := by
  unfold addends at h
  split_ifs at h with hlayers
  · cases h
  refine ⟨by simpa using hlayers, ?_⟩
  dsimp only at h
  split at h
  · next n hshape =>
    have hsize : scattered.data.size = n := by simpa [hshape, volume] using scattered.size_eq
    refine Tensor.ext_data ?_ (by simp)
    simp only [Tensor.row, hshape, Array.length_toList, hsize]
  · cases h

/-- Only the light of the voxels before the position matters. -/
theorem sumsTo_congr {k : Nat} (h : ∀ i < k, p.lightAt light i = p.lightAt light' i)
    (sums : p.Sums) :
    p.sumsTo store projection light sums k = p.sumsTo store projection light' sums k := by
  unfold sumsTo
  congr 1
  · exact LuminanceSums.addedTo_congr _ _ fun i hi => by rw [h i hi]
  · exact LuminanceSums.addedTo_congr _ _ fun i hi => by rw [h i hi]

variable [Inhabited α]

/-- The luminance of a block of light is added to the sums. -/
theorem blockSums_blockLight (hplain : p.Plain) (h : start ≤ stop)
    (hevaluate : (p.kernel x).evaluate (.row (p.extents.voxels (start, stop))) =
      .ok (p.blockLight light start stop)) (sums : p.Sums) :
    p.blockSums store x projection (p.sumsTo store projection light sums start) (start, stop) =
      .ok (p.sumsTo store projection light sums stop) := by
  rw [← sumsTo_block store projection light h]
  simp only [blockSums, hevaluate, ok_bind, blockLight, addends_block hplain.rayleigh,
    addends_block hplain.mie, pure_eq_ok]

/-- A block that has been written and added was lit. -/
theorem exists_light_of_blockSums (light : Voxel → Scattered α) {grids grids' : ScatterGrids α}
    {scattered : ScatteredArrays α} {before between : p.Sums}
    (hkernel : ((p.kernel x).run store .ok (.row (p.extents.voxels (start, stop)))).run grids =
      (.ok scattered, grids'))
    (hblock : p.blockSums store x projection before (start, stop) = .ok between) :
    p.Plain ∧ ∃ light', (∀ i < start, p.lightAt light i = p.lightAt light' i) ∧
      p.blockLight light' start stop = scattered := by
  obtain ⟨hrayleigh, hmie⟩ := Kernel.sizes_of_run hkernel
  rw [blockSums, Kernel.evaluate_of_run hkernel, ok_bind] at hblock
  obtain ⟨_, hall, hblock⟩ := bind_eq_ok_iff.mp hblock
  obtain ⟨_, haerosols, -⟩ := bind_eq_ok_iff.mp hblock
  obtain ⟨hplain, hrow⟩ := eq_row_of_addends hall
  obtain ⟨hplain', hrow'⟩ := eq_row_of_addends haerosols
  have hcount : (Tensor.row (p.extents.voxels (start, stop))).data.size = stop - start := by
    simp [Extents.voxels]
  obtain ⟨light', hbefore, hlight⟩ := exists_blockLight light
    (hrayleigh.trans hcount) (hmie.trans hcount)
  refine ⟨⟨hplain, hplain'⟩, light', hbefore, ?_⟩
  rw [hlight]
  exact congrArg₂ ScatteredArrays.mk hrow.symm hrow'.symm

/-- The kernel evaluates some blocks of a pass to given light. -/
def Shows (p : PassPlan α) (x : Transmittance α) (light : Voxel → Scattered α)
    (blocks : List Extents.Block) : Prop :=
  ∀ block ∈ blocks, (p.kernel x).evaluate (.row (p.extents.voxels block)) =
    .ok (p.blockLight light block.1 block.2)

/-- Blocks that are run to their end fill the grids with light and add its luminance to the sums. -/
theorem ensures_runBlocks (store : α → α) (x : Transmittance α) (projection : Projection α)
    (observer : Option (Observer α)) (total done : Nat) {blocks : List Extents.Block}
    (htiles : Extents.Tiles start stop blocks) (hstop : stop ≤ p.extents.voxelCount)
    (light : Voxel → Scattered α) (sums : p.Sums) :
    (p.runBlocks store x projection observer total done blocks
        (p.gridsTo store light start)).Ensures (p.sumsTo store projection light sums start)
      fun grids sums' => ∃ light', (∀ i < start, p.lightAt light i = p.lightAt light' i) ∧
        p.Shows x light' blocks ∧ grids = p.gridsTo store light' stop ∧
          sums' = p.sumsTo store projection light' sums stop := by
  induction htiles generalizing done light with
  | nil n =>
    refine (Run.ensures_pure _ _).mono fun grids sums' hrun => ?_
    exact ⟨light, fun _ _ => rfl, nofun, hrun.1, hrun.2⟩
  | @cons first last stop rest hlt hrest ih =>
    have hlast := hrest.le.trans hstop
    rw [runBlocks]
    rcases hkernel : ((p.kernel x).run store .ok (.row (p.extents.voxels (first, last)))).run
      (p.gridsTo store light first) with ⟨result, grids'⟩
    refine (Run.ensures_lift _ _).bind ?_
    rintro scattered _ ⟨rfl, rfl⟩
    have hevaluate := Kernel.evaluate_of_run hkernel
    refine (leaves_addBlock hevaluate _).ensures.bind fun _ between hbetween => ?_
    obtain ⟨hplain, found, hbefore, rfl⟩ := exists_light_of_blockSums light hkernel hbetween
    rw [gridsTo_congr hbefore, run_kernel hevaluate hlt.le hlast] at hkernel
    rw [sumsTo_congr hbefore, blockSums_blockLight hplain hlt.le hevaluate] at hbetween
    cases hkernel
    cases hbetween
    refine (Run.ensures_tell _ _ _).bind ?_
    rintro _ _ rfl
    refine (ih (done + 1) hstop found).mono fun grids sums' hafter => ?_
    obtain ⟨light', hsame, hshows, hfilled, hsums⟩ := hafter
    refine ⟨light', fun i hi => (hbefore i hi).trans (hsame i (hi.trans hlt)),
      List.forall_mem_cons.mpr ⟨?_, hshows⟩, hfilled, hsums⟩
    rw [hevaluate, blockLight_congr fun i _ hi => hsame i hi]

omit [Inhabited α] in
/-- The blocks of a pass begin with the first voxel and leave none out in between. -/
theorem exists_tiles_of_blocks {blocks : List Extents.Block} (h : p.blocks = .ok blocks) :
    ∃ stop ≤ p.extents.voxelCount, Extents.Tiles 0 stop blocks := by
  unfold PassPlan.blocks GridSizes.blocks at h
  obtain ⟨below, -, h⟩ := bind_eq_ok_iff.mp h
  cases below with
  | true => cases h
  | false =>
    simp only [Bool.false_eq_true, if_false, bind_eq_ok_iff] at h
    obtain ⟨voxels, hvoxels, count, hcount, _, -, size, -, h⟩ := h
    cases h
    cases hvoxels
    cases hcount
    rw [Extents.toNat_sizes]
    obtain hzero | hpos := Nat.eq_zero_or_pos size.toNat
    · rw [hzero, Extents.blocksFrom, Nat.div_zero]
      exact ⟨0, Nat.zero_le _, .nil 0⟩
    · exact ⟨_, le_rfl, Extents.tiles_blocksFrom hpos (Nat.zero_le _)⟩

/-- The blocks of a pass cover the grid, and the kernel evaluates them to given light. -/
def Shines (p : PassPlan α) (x : Transmittance α) (light : Voxel → Scattered α) : Prop :=
  ∃ blocks, p.blocks = .ok blocks ∧ Extents.Tiles 0 p.extents.voxelCount blocks ∧
    p.Shows x light blocks

/-- A pass that succeeds has written the light of each voxel and has added its luminance to the
sums. -/
theorem ensures_run (p : PassPlan α) (store : α → α) (x : Transmittance α) (matrix : Tensor α)
    (observer : Option (Observer α)) (sums : p.Sums) :
    (p.run store x matrix observer).Ensures sums fun textures sums' => ∃ projection light,
      Projection.ofMatrix matrix = .ok projection ∧ p.Shines x light ∧
        textures = p.textures store projection light x sums ∧
          sums' = p.sumsTo store projection light sums p.extents.voxelCount := by
  let dark : Voxel → Scattered α := fun _ => ⟨default, default⟩
  unfold run
  refine (Run.ensures_lift _ _).bind ?_
  rintro projection sums ⟨hmatrix, rfl⟩
  refine (Run.ensures_lift _ _).bind ?_
  rintro empty sums ⟨hempty, rfl⟩
  refine (Run.ensures_lift _ _).bind ?_
  rintro blocks sums ⟨hblocks, rfl⟩
  refine (Run.ensures_note _ _).bind ?_
  rintro _ sums rfl
  refine (Run.ensures_lift _ _).bind ?_
  rintro _ sums ⟨-, rfl⟩
  obtain ⟨stop, hstop, htiles⟩ := exists_tiles_of_blocks hblocks
  have hrun := ensures_runBlocks store x projection observer blocks.length 0 htiles hstop dark sums
  rw [sumsTo_zero, ← eq_gridsTo_of_make store dark hempty] at hrun
  refine hrun.bind ?_
  rintro grids sums' ⟨light, -, hshows, rfl, rfl⟩
  dsimp only
  split
  · exact (Run.ensures_throw _ _ fun _ _ => False).bind fun _ _ => False.elim
  · next hcomplete =>
    have hend : stop = p.extents.voxelCount := by
      refine Nat.le_antisymm hstop (VoxelGrid.le_of_isComplete_filledTo (f := fun i =>
        (p.lightAt light i).rayleigh.map store) ?_)
      simp only [ScatterGrids.isComplete, Bool.not_eq_true', Bool.not_eq_false,
        Bool.and_eq_true] at hcomplete
      exact hcomplete.1
    subst hend
    refine (Run.ensures_state _).bind ?_
    rintro _ _ ⟨rfl, rfl⟩
    refine (Run.ensures_note _ _).bind ?_
    rintro _ _ rfl
    refine (Run.ensures_pure _ _).mono ?_
    rintro _ _ ⟨rfl, rfl⟩
    exact ⟨projection, light, hmatrix, ⟨blocks, hblocks, htiles, hshows⟩, rfl, rfl⟩

/-! ## The light of a pass -/

/-- A pass has only one light. -/
theorem Shines.lightAt_eq (h : p.Shines x light) (h' : p.Shines x light') {i : Nat}
    (hi : i < p.extents.voxelCount) : p.lightAt light i = p.lightAt light' i := by
  obtain ⟨blocks, hblocks, htiles, hshows⟩ := h
  obtain ⟨_, hsame, -, hshows'⟩ := h'
  cases hblocks.symm.trans hsame
  obtain ⟨block, hblock, hfirst, hlast⟩ := htiles.exists_block (Nat.zero_le i) hi
  have hlight := Except.ok.inj ((hshows block hblock).symm.trans (hshows' block hblock))
  exact lightAt_of_blockLight hlight hfirst hlast

/-- The light of a voxel is what the kernel gives for the voxel alone. -/
theorem Shines.light_eq (h : p.Shines x light) {v : Voxel}
    (hv : p.extents.shape.contains v = true) {own : Scattered α}
    (hown : (p.kernel x).evaluate (.single v) = .ok ⟨.single own.rayleigh, .single own.mie⟩) :
    light v = own := by
  obtain ⟨blocks, -, htiles, hshows⟩ := h
  obtain ⟨block, hblock, hposition⟩ :=
    htiles.exists_block (Nat.zero_le _) (Extents.position_lt hv)
  have hmem := (VoxelGrid.mem_voxels (htiles.bounds block hblock).2.2).mpr ⟨hv, hposition⟩
  have hblockLight : p.blockLight light block.1 block.2 =
      ⟨.row ((p.extents.voxels block).map fun v => (light v).rayleigh),
        .row ((p.extents.voxels block).map fun v => (light v).mie)⟩ := by
    simp only [blockLight, lightAt, Extents.voxels, List.map_map, Function.comp_def]
  have hevaluate := hshows block hblock
  rw [hblockLight, Kernel.evaluate, Tensor.map_row] at hevaluate
  have hlit : p.atmosphere.LitBy x p.sampleCount
      (p.extents.scale.rayAt p.atmosphere.toLitShell v) own := by
    rw [Parameters.LitBy, ← hown, Kernel.evaluate, Tensor.map_single]
    rfl
  exact Parameters.light_of_scatterInto_row hevaluate hmem hlit

end PassPlan

end Airlight
