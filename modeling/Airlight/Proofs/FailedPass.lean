import Airlight.Proofs.PassResult
import Airlight.Proofs.SkyLight

/-!
# Passes that fail

A pass adds the luminance of each block to the running sums before the next block is run, so a pass
that fails leaves the blocks before the failure in them. When the pass is made again these blocks
are counted twice. Only a pass that fails before its first block has been added leaves the sums as
they were.

## Main definitions

* `PassPlan.blockSums` — the sums after a block.
* `PassPlan.PartlyAdded` — some first blocks of a pass have been added to the sums, and no others.
-/

namespace Airlight

open Colour Grid Texture

variable {α : Type} [Scalar α] [Inhabited α]

namespace PassPlan

variable {p : PassPlan α} {store : α → α} {x : Transmittance α} {projection : Projection α}
  {blocks : List Extents.Block} {block : Extents.Block} {sums sums' : p.Sums}

/-- The sums to which the luminance of a block has been added. -/
def blockSums (p : PassPlan α) (store : α → α) (x : Transmittance α) (projection : Projection α)
    (sums : p.Sums) (block : Extents.Block) : Except (Failure α) p.Sums := do
  let scattered ← (p.kernel x).evaluate (.row (p.extents.voxels block))
  let all ← addends projection p.atmosphere.rayleighDensity scattered.rayleigh
  let aerosols ← addends projection p.atmosphere.mieDensity scattered.mie
  return (sums.addScattering store block.1 all).addSingleMie store block.1 aerosols

/-- The luminance of a block has been added to the sums of all scattered light, but that of the
aerosols could not be computed. -/
def HalfAdded (p : PassPlan α) (store : α → α) (x : Transmittance α) (projection : Projection α)
    (block : Extents.Block) (sums sums' : p.Sums) : Prop :=
  ∃ scattered all failure, (p.kernel x).evaluate (.row (p.extents.voxels block)) = .ok scattered ∧
    addends projection p.atmosphere.rayleighDensity scattered.rayleigh = .ok all ∧
    addends projection p.atmosphere.mieDensity scattered.mie = .error failure ∧
    sums' = sums.addScattering store block.1 all

/-- Some first blocks have been added to the sums in their order, and at most the molecular light of
the next one. -/
def PartlyAdded (p : PassPlan α) (store : α → α) (x : Transmittance α) (projection : Projection α)
    (blocks : List Extents.Block) (sums sums' : p.Sums) : Prop :=
  ∃ done rest between, blocks = done ++ rest ∧
    done.foldlM (p.blockSums store x projection) sums = .ok between ∧
    (sums' = between ∨ ∃ block later, rest = block :: later ∧
      p.HalfAdded store x projection block between sums')

theorem partlyAdded_refl (blocks : List Extents.Block) (sums : p.Sums) :
    p.PartlyAdded store x projection blocks sums sums :=
  ⟨[], blocks, sums, rfl, rfl, .inl rfl⟩

theorem PartlyAdded.cons {between : p.Sums}
    (hblock : p.blockSums store x projection sums block = .ok between)
    (h : p.PartlyAdded store x projection blocks between sums') :
    p.PartlyAdded store x projection (block :: blocks) sums sums' := by
  obtain ⟨done, rest, last, hblocks, hdone, hlast⟩ := h
  refine ⟨block :: done, rest, last, by rw [hblocks, List.cons_append], ?_, hlast⟩
  rw [List.foldlM_cons, hblock, ok_bind, hdone]

/-- A block is added as a whole, or only its molecular light, or not at all. -/
theorem leaves_addBlock {scattered : ScatteredArrays α}
    (hevaluate : (p.kernel x).evaluate (.row (p.extents.voxels block)) = .ok scattered)
    (sums : p.Sums) :
    (p.addBlock store projection block.1 scattered).Leaves sums fun r sums' => match r with
      | .ok () => p.blockSums store x projection sums block = .ok sums'
      | .error _ => sums' = sums ∨ p.HalfAdded store x projection block sums sums' := by
  cases hall : addends projection p.atmosphere.rayleighDensity scattered.rayleigh with
  | error failure =>
    rw [addBlock, hall]
    exact Run.Leaves.bind (Run.leaves_lift (.inl rfl))
  | ok all =>
    rw [addBlock, hall]
    refine Run.Leaves.bind (Run.leaves_lift (Run.Leaves.bind (Run.leaves_change ?_)))
    cases haerosols : addends projection p.atmosphere.mieDensity scattered.mie with
    | error failure =>
      exact Run.Leaves.bind (Run.leaves_lift
        (.inr ⟨scattered, all, failure, hevaluate, hall, haerosols, rfl⟩))
    | ok aerosols =>
      refine Run.Leaves.bind (Run.leaves_lift (Run.leaves_change ?_))
      simp only [blockSums, hevaluate, hall, haerosols, ok_bind, pure_eq_ok]

theorem blockSums_of_addBlock {scattered : ScatteredArrays α} {events : Array (Event α)}
    {journal : Journal α p.Sums}
    (hevaluate : (p.kernel x).evaluate (.row (p.extents.voxels block)) = .ok scattered)
    (hadd : p.addBlock store projection block.1 scattered ⟨sums, events⟩ = (.ok (), journal)) :
    p.blockSums store x projection sums block = .ok journal.state := by
  have hleaves : (p.addBlock store projection block.1 scattered).Leaves sums _ :=
    leaves_addBlock hevaluate sums
  have hsums := hleaves events
  rwa [hadd] at hsums

/-- A block whose luminance can be computed is added as a whole. -/
theorem yields_addBlock_of_blockSums {scattered : ScatteredArrays α}
    (hevaluate : (p.kernel x).evaluate (.row (p.extents.voxels block)) = .ok scattered)
    (h : p.blockSums store x projection sums block = .ok sums') :
    (p.addBlock store projection block.1 scattered).Yields sums () sums' := by
  rw [blockSums, hevaluate, ok_bind] at h
  obtain ⟨all, hall, h⟩ := bind_eq_ok_iff.mp h
  obtain ⟨aerosols, haerosols, h⟩ := bind_eq_ok_iff.mp h
  cases h
  exact (Run.yields_lift hall _).bind <| (Run.yields_change _ _).bind <|
    (Run.yields_lift haerosols _).bind (Run.yields_change _ _)

/-- Blocks that are run one after another are all added, or those before a failure are. -/
theorem leaves_runBlocks (observer : Option (Observer α)) (total done : Nat)
    (blocks : List Extents.Block) (grids : ScatterGrids α) (sums : p.Sums) :
    (p.runBlocks store x projection observer total done blocks grids).Leaves sums
      fun r sums' => match r with
        | .ok _ => blocks.foldlM (p.blockSums store x projection) sums = .ok sums'
        | .error _ => p.PartlyAdded store x projection blocks sums sums' := by
  induction blocks generalizing done grids sums with
  | nil => exact Run.leaves_pure rfl
  | cons block rest ih =>
    rw [runBlocks]
    rcases hkernel : ((p.kernel x).run store .ok (.row (p.extents.voxels block))).run grids with
      ⟨failure | scattered, grids'⟩
    · exact Run.Leaves.bind (Run.leaves_lift (partlyAdded_refl _ _))
    · have hevaluate := Kernel.evaluate_of_run hkernel
      refine Run.Leaves.bind (Run.leaves_lift (Run.Leaves.bind
        ((leaves_addBlock hevaluate sums).mono fun r between hbetween => ?_)))
      cases r with
      | error failure =>
        obtain hsame | hhalf := hbetween
        · rw [hsame]
          exact partlyAdded_refl _ _
        · exact ⟨[], block :: rest, sums, rfl, rfl, .inr ⟨block, rest, rfl, hhalf⟩⟩
      | ok _ =>
        refine Run.Leaves.bind (Run.leaves_tell fun r => ?_)
        cases r with
        | error failure => exact (partlyAdded_refl rest between).cons hbetween
        | ok _ =>
          refine (ih (done + 1) grids' between).mono fun r sums' hrest => ?_
          cases r with
          | error failure => exact hrest.cons hbetween
          | ok _ => simpa only [List.foldlM_cons, hbetween, ok_bind] using hrest

/-- A pass fails before its first block: because of its matrix, the room for its grids, its blocks
or its workers. -/
def Unstarted (p : PassPlan α) (matrix : Tensor α) (failure : Failure α) : Prop :=
  Projection.ofMatrix matrix = .error failure ∨
    (ScatterGrids.make p.extents.shape : Except (Failure α) (ScatterGrids α)) = .error failure ∨
      p.blocks = .error failure ∨ checkWorkers p.workers = .error failure

/-- A pass adds all of its blocks or fails. One that fails leaves in the sums the blocks before the
failure, and at most the molecular light of the block that has failed. -/
theorem leaves_run (p : PassPlan α) (store : α → α) (x : Transmittance α) (matrix : Tensor α)
    (observer : Option (Observer α)) (sums : p.Sums) :
    (p.run store x matrix observer).Leaves sums fun r sums' => match r with
      | .ok _ => ∃ projection blocks, Projection.ofMatrix matrix = .ok projection ∧
          p.blocks = .ok blocks ∧
            blocks.foldlM (p.blockSums store x projection) sums = .ok sums'
      | .error failure => (p.Unstarted matrix failure ∧ sums' = sums) ∨
          ∃ projection blocks, Projection.ofMatrix matrix = .ok projection ∧
            p.blocks = .ok blocks ∧ p.PartlyAdded store x projection blocks sums sums' := by
  unfold run
  cases hmatrix : Projection.ofMatrix matrix with
  | error failure => exact Run.Leaves.bind (Run.leaves_lift (.inl ⟨.inl hmatrix, rfl⟩))
  | ok projection =>
  refine Run.Leaves.bind (Run.leaves_lift ?_)
  cases hgrids : (ScatterGrids.make p.extents.shape : Except (Failure α) (ScatterGrids α)) with
  | error failure => exact Run.Leaves.bind (Run.leaves_lift (.inl ⟨.inr (.inl hgrids), rfl⟩))
  | ok grids =>
  refine Run.Leaves.bind (Run.leaves_lift ?_)
  cases hblocks : p.blocks with
  | error failure =>
    exact Run.Leaves.bind (Run.leaves_lift (.inl ⟨.inr (.inr (.inl hblocks)), rfl⟩))
  | ok blocks =>
  refine Run.Leaves.bind (Run.leaves_lift (Run.Leaves.bind (Run.leaves_note ?_)))
  cases hworkers : checkWorkers p.workers with
  | error failure =>
    exact Run.Leaves.bind (Run.leaves_lift (.inl ⟨.inr (.inr (.inr hworkers)), rfl⟩))
  | ok _ =>
  refine Run.Leaves.bind (Run.leaves_lift (Run.Leaves.bind
    ((leaves_runBlocks observer blocks.length 0 blocks grids sums).mono fun r sums' hrun => ?_)))
  cases r with
  | error failure => exact .inr ⟨projection, blocks, rfl, rfl, hrun⟩
  | ok filled =>
  have hall : p.PartlyAdded store x projection blocks sums sums' :=
    ⟨blocks, [], sums', by simp, hrun, .inl rfl⟩
  dsimp only
  split
  · exact Run.Leaves.bind (Run.leaves_throw (.inr ⟨projection, blocks, rfl, rfl, hall⟩))
  · refine Run.Leaves.bind (Run.leaves_state (Run.Leaves.bind (Run.leaves_note ?_)))
    exact Run.leaves_pure ⟨projection, blocks, rfl, rfl, hrun⟩

/-! ## Interrupted passes -/

/-- An observer that interrupts a pass after its first block leaves the block in the sums. -/
theorem fails_run_interrupted {light : Voxel → Scattered α} (store : α → α) (hlit : p.Lit x light)
    {matrix : Tensor α} (hmatrix : Projection.ofMatrix matrix = .ok projection) {n : Int}
    (hsize : p.blockSize = .integer n) (hn : 1 ≤ n) (hworkers : checkWorkers p.workers = .ok ())
    (hroom : Tensor.checkRoom (p.extents.shape.sizes ++ [4]) ScatterGrids.valueBytes =
      (.ok () : Except (Failure α) Unit))
    {o : Observer α} {failure : Failure α} (ho : ∀ heard, o.answer heard = some failure)
    (sums : p.Sums) :
    (p.run store x matrix (some o)).Fails sums failure
      (p.sumsTo store projection light sums (min n.toNat p.extents.voxelCount)) := by
  have hpos := p.extents.voxelCount_pos
  have hfirst : 0 < min n.toNat p.extents.voxelCount := by omega
  have hmedium := Parameters.medium?_isSome_of_scatterInto (hlit _ (Extents.contains_voxelAt hpos))
  have hblocks := blocks_eq hsize hn
  rw [Extents.blocksFrom_of_lt (by omega) hpos, Nat.zero_add] at hblocks
  have hadd := yields_addBlock store projection light (plain_of_medium? hmedium) hfirst.le sums
  rw [sumsTo_zero] at hadd
  unfold run
  refine (Run.yields_lift hmatrix _).bind_fails ?_
  refine (Run.yields_lift (make_grids store light hroom) _).bind_fails ?_
  refine (Run.yields_lift hblocks _).bind_fails ?_
  refine (Run.yields_note _ _).bind_fails ?_
  refine (Run.yields_lift hworkers _).bind_fails (Run.Fails.bind ?_ _)
  have hlast := Nat.min_le_right n.toNat p.extents.voxelCount
  rw [runBlocks, run_kernel (evaluate_block hlit hfirst hlast) hfirst.le hlast]
  refine (Run.yields_lift rfl _).bind_fails ?_
  exact hadd.bind_fails ((Run.fails_tell ho _ _).bind _)

/-- Light that is projected with positive weights changes the sums. -/
theorem sumsTo_ne {p : PassPlan ℝ} {projection : Projection ℝ} {light : Voxel → Scattered ℝ}
    (hweights : (projection.get 0).Bright) {i k : Nat} (hi : i < p.extents.voxelCount) (hk : i < k)
    (hlight : (p.lightAt light i).rayleigh.Bright) (sums : p.Sums) :
    p.sumsTo id projection light sums k ≠ sums := by
  intro h
  have hsum : sums.scattering[i][0] + (projection.apply (p.lightAt light i).rayleigh).get 0 =
      sums.scattering[i][0] := by
    conv_rhs => rw [← h]
    simp [sumsTo, hk, Vector.get]
  have hpos := Projection.apply_pos hweights hlight
  linarith

/-- Around the Earth, with all light surviving its way, an observer that interrupts a pass over the
standard grid after its first block leaves light in the sums. -/
theorem interrupted_pass_changes_sums :
    let p : PassPlan ℝ := ⟨.earth, .standard, .null, .integer 65536, .integer 50⟩
    let observer : Observer ℝ := ⟨id, fun _ => some .interrupted⟩
    let sums : p.Sums := .zero
    let steps :=
      p.run id (.constant (Spectrum.constant 1)) (.ofFn [4, 4] fun _ => 1) (some observer)
    (Run.start sums steps).1 = .error .interrupted ∧ (Run.start sums steps).2.state ≠ sums := by
  intro p observer sums steps
  obtain ⟨light, hlight⟩ := (p.kernel (.constant (Spectrum.constant 1))).exists_light
    Parameters.validate_earth Parameters.regular_earth rfl (by decide : (1 : Int) ≤ 50)
    (Oracle.answers_constant (Spectrum.constant 1))
  have hbright : (p.lightAt light 16384).rayleigh.Bright :=
    Kernel.sky_bright (k := p.kernel (.constant (Spectrum.constant 1))) Parameters.validate_earth
      Parameters.regular_earth Parameters.luminous_earth rfl (Spectrum.bright_constant one_pos) rfl
      (by decide : (1 : Int) ≤ 50) (by decide) (by decide) (by decide) (hlight _ (by decide))
  have hlit : p.Lit (.constant (Spectrum.constant 1)) light := lit_of_evaluate hlight
  have hanswer : ∀ heard, observer.answer heard = some .interrupted := fun _ => rfl
  obtain ⟨hfailed, hstate⟩ := (fails_run_interrupted id hlit (Projection.ofMatrix_constant 1) rfl
    (by decide) rfl checkRoom_standard hanswer sums).start_eq
  rw [hfailed, hstate]
  refine ⟨rfl, sumsTo_ne ?_ (by decide) (by decide) hbright _⟩
  simpa [Vector.get] using Spectrum.bright_constant one_pos

end PassPlan

end Airlight
