import Airlight.Proofs.BlockTasks
import Airlight.Proofs.FailedPass

/-!
# Passes with several workers

The workers of a pass act on its two grids in any order, while the calling thread adds the results
that are ready to the sums in the order of the blocks. Any sequence of the actions of all tasks is a
schedule. Two tasks have no voxel in common, so a task finds its voxels unwritten whatever the
others have done, and what it writes is not changed later. The pass that runs the blocks one after
another is one of the schedules, and all schedules in which the tasks have come to their ends have
the same result.

## Main definitions

* `Pool` — what the workers and the calling thread share.
* `PassPlan.move` — what a worker or the calling thread does next.
* `PassPlan.Sound` — what holds of the pool whatever the schedule.
-/

namespace Airlight

open Colour Grid Texture

variable {α : Type} [Scalar α] [Inhabited α]

/-! ## Schedules -/

/-- What the workers and the calling thread share: the grids, the tasks of the blocks, and the sums
to which the results of some first blocks have been added. -/
structure Pool (α : Type) (n : Nat) where
  grids : ScatterGrids α
  tasks : Nat → BlockTask α
  collected : Nat
  sums : LuminanceSums α n

/-- The pool in which the next task has been finished and its result added. -/
def Pool.advance {n : Nat} (pool : Pool α n) (scattered : ScatteredArrays α)
    (grids : ScatterGrids α) (sums : LuminanceSums α n) : Pool α n where
  grids
  tasks := Function.update pool.tasks pool.collected (.finished scattered)
  collected := pool.collected + 1
  sums

/-- The task of a block acts, or the calling thread adds the next result. -/
inductive PoolMove
  | act (i : Nat)
  | collect
  deriving DecidableEq

namespace PassPlan

variable (p : PassPlan α) (store : α → α) (x : Transmittance α)
  (projection : Projection α) (blocks : List Extents.Block)

/-- Nothing has been done yet. -/
def poolStart (sums : p.Sums) : Pool α p.extents.voxelCount where
  grids := ⟨.empty p.extents.shape, .empty p.extents.shape⟩
  tasks := fun _ => .waiting
  collected := 0
  sums

/-- One move. The calling thread waits until the next result is ready, and raises the failure of a
task when it is the next. -/
def move (pool : Pool α p.extents.voxelCount) :
    PoolMove → Except (Failure α) (Pool α p.extents.voxelCount)
  | .act i =>
    match blocks[i]? with
    | none => .ok pool
    | some block =>
      let (task, grids) :=
        (pool.tasks i).act (p.kernel x) store (p.extents.voxels block) pool.grids
      .ok { pool with grids, tasks := Function.update pool.tasks i task }
  | .collect =>
    match blocks[pool.collected]?, pool.tasks pool.collected with
    | some block, .finished scattered =>
      match Run.start pool.sums (p.addBlock store projection block.1 scattered) with
      | (.ok (), journal) =>
        .ok { pool with collected := pool.collected + 1, sums := journal.state }
      | (.error failure, _) => .error failure
    | some _, .failed failure => .error failure
    | _, _ => .ok pool

/-- The pool after some moves. -/
def moves (pool : Pool α p.extents.voxelCount) (schedule : List PoolMove) :
    Except (Failure α) (Pool α p.extents.voxelCount) :=
  schedule.foldlM (p.move store x projection blocks) pool

variable {p store x projection blocks} {pool pool' : Pool α p.extents.voxelCount} {i : Nat}
  {block : Extents.Block} {task : BlockTask α} {grids : ScatterGrids α} {sums total : p.Sums}

/-! ### Moves -/

theorem moves_cons (m : PoolMove) (schedule : List PoolMove) :
    p.moves store x projection blocks pool (m :: schedule) =
      p.move store x projection blocks pool m >>= fun pool =>
        p.moves store x projection blocks pool schedule :=
  List.foldlM_cons

theorem moves_append (first second : List PoolMove) :
    p.moves store x projection blocks pool (first ++ second) =
      p.moves store x projection blocks pool first >>= fun pool =>
        p.moves store x projection blocks pool second :=
  List.foldlM_append

theorem move_act (hblock : blocks[i]? = some block) :
    p.move store x projection blocks pool (.act i) = .ok { pool with
      grids := ((pool.tasks i).act (p.kernel x) store (p.extents.voxels block) pool.grids).2
      tasks := Function.update pool.tasks i
        ((pool.tasks i).act (p.kernel x) store (p.extents.voxels block) pool.grids).1 } := by
  simp only [move, hblock]

theorem move_act_of_none (hblock : blocks[i]? = none) :
    p.move store x projection blocks pool (.act i) = .ok pool := by
  simp only [move, hblock]

/-- The calling thread waits or has nothing left to do, or it adds the result of the next block. -/
theorem move_collect_cases (h : p.move store x projection blocks pool .collect = .ok pool') :
    pool' = pool ∨ ∃ block scattered journal, blocks[pool.collected]? = some block ∧
      pool.tasks pool.collected = .finished scattered ∧
      Run.start pool.sums (p.addBlock store projection block.1 scattered) = (.ok (), journal) ∧
      pool' = { pool with collected := pool.collected + 1, sums := journal.state } := by
  unfold move at h
  grind

/-- A result that can be added is added when it is the next. -/
theorem move_collect_of_finished {scattered : ScatteredArrays α}
    (hblock : blocks[pool.collected]? = some block)
    (htask : pool.tasks pool.collected = .finished scattered)
    (hevaluate : (p.kernel x).evaluate (.row (p.extents.voxels block)) = .ok scattered)
    (hsums : p.blockSums store x projection pool.sums block = .ok sums) :
    p.move store x projection blocks pool .collect =
      .ok { pool with collected := pool.collected + 1, sums } := by
  obtain ⟨events, hadd⟩ := yields_addBlock_of_blockSums hevaluate hsums #[]
  simp only [move, hblock, htask, Run.start, hadd]

/-- A task makes an action when it is its turn. -/
theorem le_actions_move {m : PoolMove} (h : p.move store x projection blocks pool m = .ok pool')
    (hi : i < blocks.length) :
    min 2 ((pool.tasks i).actions + [m].count (.act i)) ≤ (pool'.tasks i).actions := by
  cases m with
  | act j =>
    by_cases hj : j = i
    · subst hj
      rw [move_act (List.getElem?_eq_getElem hi)] at h
      cases h
      have hact := BlockTask.le_actions_act (p.kernel x) store (p.extents.voxels blocks[j])
        pool.grids (pool.tasks j)
      simpa using hact
    · have hcount : [PoolMove.act j].count (.act i) = 0 := by simp [hj]
      rw [hcount]
      cases hblock : blocks[j]? with
      | none =>
        rw [move_act_of_none hblock] at h
        cases h
        exact Nat.min_le_right _ _
      | some block =>
        rw [move_act hblock] at h
        cases h
        simp [Function.update_of_ne (Ne.symm hj)]
  | collect =>
    have hcount : [PoolMove.collect].count (.act i) = 0 := by simp
    rw [hcount]
    obtain rfl | ⟨_, _, _, -, -, -, rfl⟩ := move_collect_cases h <;> exact Nat.min_le_right _ _

theorem le_actions_moves {schedule : List PoolMove}
    (h : p.moves store x projection blocks pool schedule = .ok pool') (hi : i < blocks.length) :
    min 2 ((pool.tasks i).actions + schedule.count (.act i)) ≤ (pool'.tasks i).actions := by
  induction schedule generalizing pool with
  | nil =>
    cases h
    exact Nat.min_le_right _ _
  | cons m schedule ih =>
    rw [moves_cons] at h
    obtain ⟨middle, hmove, hrest⟩ := bind_eq_ok_iff.mp h
    have hcount : (m :: schedule).count (.act i) =
        [m].count (.act i) + schedule.count (.act i) := by
      rw [← List.count_append, List.singleton_append]
    have hfirst := le_actions_move hmove hi
    have hlast := ih hrest
    omega

/-! ### What holds whatever the schedule -/

/-- The light of a block is one spectrum for each of its voxels. -/
def Fits (p : PassPlan α) (block : Extents.Block) (scattered : ScatteredArrays α) : Prop :=
  scattered.rayleigh.data.size = (p.extents.voxels block).length ∧
    scattered.mie.data.size = (p.extents.voxels block).length

/-- What the task of a block says is so. The light that it has is that of its block and has been
written as far as the task has come. If it has failed, the block cannot be evaluated or its light is
not one spectrum for each voxel. -/
def Justified (p : PassPlan α) (store : α → α) (x : Transmittance α) (grids : ScatterGrids α)
    (block : Extents.Block) : BlockTask α → Prop
  | .waiting => True
  | .half scattered => (p.kernel x).evaluate (.row (p.extents.voxels block)) = .ok scattered ∧
      grids.rayleigh.Carries store (p.extents.voxels block) scattered.rayleigh.data.toList
  | .finished scattered => (p.kernel x).evaluate (.row (p.extents.voxels block)) = .ok scattered ∧
      grids.rayleigh.Carries store (p.extents.voxels block) scattered.rayleigh.data.toList ∧
      grids.mie.Carries store (p.extents.voxels block) scattered.mie.data.toList
  | .failed failure => (p.kernel x).evaluate (.row (p.extents.voxels block)) = .error failure ∨
      ∃ scattered, (p.kernel x).evaluate (.row (p.extents.voxels block)) = .ok scattered ∧
        ¬ p.Fits block scattered ∧ ∃ s t, failure = .shapes (.unfit s t)

/-- Only the cells of its own block matter to a task. -/
theorem Justified.congr {grids' : ScatterGrids α} (h : p.Justified store x grids block task)
    (hgrids : ∀ v ∈ p.extents.voxels block, grids'.rayleigh.read v = grids.rayleigh.read v ∧
      grids'.mie.read v = grids.mie.read v) : p.Justified store x grids' block task := by
  have hrayleigh := fun v hv => (hgrids v hv).1
  have hmie := fun v hv => (hgrids v hv).2
  cases task with
  | waiting => trivial
  | half scattered => exact ⟨h.1, h.2.congr hrayleigh⟩
  | finished scattered => exact ⟨h.1, h.2.1.congr hrayleigh, h.2.2.congr hmie⟩
  | failed failure => exact h

/-- What holds of the pool whatever has been done: the voxels that have been written belong to tasks
that have come as far, the tasks are justified, and the first results have been added to the sums in
their order. -/
structure Sound (p : PassPlan α) (store : α → α) (x : Transmittance α) (projection : Projection α)
    (blocks : List Extents.Block) (sums : p.Sums) (pool : Pool α p.extents.voxelCount) : Prop where
  rayleigh : p.Confined blocks 1 pool.tasks pool.grids.rayleigh
  mie : p.Confined blocks 2 pool.tasks pool.grids.mie
  justified : ∀ i block, blocks[i]? = some block →
    p.Justified store x pool.grids block (pool.tasks i)
  collected : (blocks.take pool.collected).foldlM (p.blockSums store x projection) sums =
    .ok pool.sums

theorem sound_poolStart (sums : p.Sums) :
    p.Sound store x projection blocks sums (p.poolStart sums) where
  rayleigh := confined_empty 1 _
  mie := confined_empty 2 _
  justified _ _ _ := trivial
  collected := rfl

namespace Sound

/-- The other tasks stay justified when a task has changed the cells of its block. -/
theorem justified_update (h : p.Sound store x projection blocks sums pool)
    (htiles : Extents.Tiles 0 p.extents.voxelCount blocks) (hblock : blocks[i]? = some block)
    (hgrids : ∀ v ∉ p.extents.voxels block, grids.rayleigh.read v = pool.grids.rayleigh.read v ∧
      grids.mie.read v = pool.grids.mie.read v)
    (htask : p.Justified store x grids block task) :
    ∀ j b, blocks[j]? = some b →
      p.Justified store x grids b (Function.update pool.tasks i task j) := by
  intro j b hb
  by_cases hj : j = i
  · subst hj
    obtain rfl := Option.some.inj (hblock.symm.trans hb)
    rwa [Function.update_self]
  · rw [Function.update_of_ne hj]
    exact (h.justified j b hb).congr fun v hv => hgrids v fun hv' =>
      hj (VoxelGrid.eq_of_mem_voxels htiles le_rfl hb hblock hv hv')

/-- A task that fails leaves the grids as they are. -/
theorem fail (h : p.Sound store x projection blocks sums pool)
    (htiles : Extents.Tiles 0 p.extents.voxelCount blocks) (hblock : blocks[i]? = some block)
    {failure : Failure α} (hfailed : p.Justified store x pool.grids block (.failed failure)) :
    p.Sound store x projection blocks sums
      { pool with tasks := Function.update pool.tasks i (.failed failure) } where
  rayleigh := h.rayleigh.update (BlockTask.actions_le_two _)
  mie := h.mie.update (BlockTask.actions_le_two _)
  justified := h.justified_update htiles hblock (fun _ _ => ⟨rfl, rfl⟩) hfailed
  collected := h.collected

/-- An action of a task keeps the pool sound: its voxels have not been written before. -/
theorem act (h : p.Sound store x projection blocks sums pool)
    (htiles : Extents.Tiles 0 p.extents.voxelCount blocks) (hblock : blocks[i]? = some block) :
    p.Sound store x projection blocks sums { pool with
      grids := ((pool.tasks i).act (p.kernel x) store (p.extents.voxels block) pool.grids).2
      tasks := Function.update pool.tasks i
        ((pool.tasks i).act (p.kernel x) store (p.extents.voxels block) pool.grids).1 } := by
  have hstop := (htiles.bounds _ (List.mem_of_getElem? hblock)).2.2
  have htask := h.justified i block hblock
  cases hstate : pool.tasks i with
  | waiting =>
    have hblank := h.rayleigh.blank htiles hblock (by simp [hstate, BlockTask.actions])
    rcases BlockTask.act_waiting_cases (p.kernel x) store (p.extents.voxels block) pool.grids with
      ⟨failure, hevaluate, hact⟩ | ⟨scattered, hevaluate, ⟨failure, hrefusal, hact⟩ |
        ⟨hrefusal, hact⟩⟩ <;> rw [hact]
    · exact h.fail htiles hblock (.inl hevaluate)
    · rw [GridStep.refusal?_of_blank h.rayleigh.shape_eq hstop hblank] at hrefusal
      split_ifs at hrefusal with hsize
      exact h.fail htiles hblock (.inr ⟨scattered, hevaluate, fun hfits => hsize hfits.1, _, _,
        (Option.some.inj hrefusal).symm⟩)
    · rw [GridStep.refusal?_of_blank h.rayleigh.shape_eq hstop hblank] at hrefusal
      split_ifs at hrefusal with hsize
      have hactions : (pool.tasks i).actions ≤ (BlockTask.half scattered).actions := by
        simp [hstate, BlockTask.actions]
      exact {
        rayleigh := h.rayleigh.fill htiles hblock hactions le_rfl _
        mie := h.mie.update hactions
        justified := h.justified_update htiles hblock
          (fun v hv => ⟨VoxelGrid.read_fill_block_of_not_mem h.rayleigh.shape_eq hstop _ hv, rfl⟩)
          ⟨hevaluate, VoxelGrid.carries_fill h.rayleigh.shape_eq hstop hsize⟩
        collected := h.collected }
  | half scattered =>
    rw [hstate] at htask
    obtain ⟨hevaluate, hwritten⟩ := htask
    have hblank := h.mie.blank htiles hblock (by simp [hstate, BlockTask.actions])
    rcases BlockTask.act_half_cases (p.kernel x) store (p.extents.voxels block) pool.grids
      scattered with ⟨failure, hrefusal, hact⟩ | ⟨hrefusal, hact⟩ <;> rw [hact]
    · rw [GridStep.refusal?_of_blank h.mie.shape_eq hstop hblank] at hrefusal
      split_ifs at hrefusal with hsize
      exact h.fail htiles hblock (.inr ⟨scattered, hevaluate, fun hfits => hsize hfits.2, _, _,
        (Option.some.inj hrefusal).symm⟩)
    · rw [GridStep.refusal?_of_blank h.mie.shape_eq hstop hblank] at hrefusal
      split_ifs at hrefusal with hsize
      have hactions : (pool.tasks i).actions ≤ (BlockTask.finished scattered).actions :=
        BlockTask.actions_le_two _
      exact {
        rayleigh := h.rayleigh.update hactions
        mie := h.mie.fill htiles hblock hactions le_rfl _
        justified := h.justified_update htiles hblock
          (fun v hv => ⟨rfl, VoxelGrid.read_fill_block_of_not_mem h.mie.shape_eq hstop _ hv⟩)
          ⟨hevaluate, hwritten, VoxelGrid.carries_fill h.mie.shape_eq hstop hsize⟩
        collected := h.collected }
  | finished scattered | failed failure =>
    have hsame := Function.update_eq_self i pool.tasks
    rw [hstate] at hsame
    simp only [BlockTask.act, hsame]
    exact h

/-- The grids hold the light of a finished block. -/
theorem light (h : p.Sound store x projection blocks sums pool) {scattered : ScatteredArrays α}
    (hblock : blocks[i]? = some block) (hstate : pool.tasks i = .finished scattered) :
    (p.kernel x).evaluate (.row (p.extents.voxels block)) = .ok scattered ∧
      pool.grids.rayleigh.Carries store (p.extents.voxels block) scattered.rayleigh.data.toList ∧
      pool.grids.mie.Carries store (p.extents.voxels block) scattered.mie.data.toList := by
  have htask := h.justified i block hblock
  rwa [hstate] at htask

/-- Adding the result of the next block keeps the pool sound. -/
theorem collect (h : p.Sound store x projection blocks sums pool)
    (hmove : p.move store x projection blocks pool .collect = .ok pool') :
    p.Sound store x projection blocks sums pool' := by
  obtain rfl | ⟨block, scattered, journal, hblock, hstate, hadd, rfl⟩ := move_collect_cases hmove
  · exact h
  have hsums := blockSums_of_addBlock (h.light hblock hstate).1 hadd
  refine ⟨h.rayleigh, h.mie, h.justified, ?_⟩
  rw [List.take_add_one, hblock, List.foldlM_append, h.collected, ok_bind]
  exact (bind_pure _).trans hsums

/-- Every move keeps the pool sound. -/
theorem move {m : PoolMove} (h : p.Sound store x projection blocks sums pool)
    (htiles : Extents.Tiles 0 p.extents.voxelCount blocks)
    (hmove : p.move store x projection blocks pool m = .ok pool') :
    p.Sound store x projection blocks sums pool' := by
  cases m with
  | act i =>
    cases hblock : blocks[i]? with
    | none =>
      rw [move_act_of_none hblock] at hmove
      cases hmove
      exact h
    | some block =>
      rw [move_act hblock] at hmove
      cases hmove
      exact h.act htiles hblock
  | collect => exact h.collect hmove

/-- Every schedule keeps the pool sound. -/
theorem moves {schedule : List PoolMove} (h : p.Sound store x projection blocks sums pool)
    (htiles : Extents.Tiles 0 p.extents.voxelCount blocks)
    (hmoves : p.moves store x projection blocks pool schedule = .ok pool') :
    p.Sound store x projection blocks sums pool' := by
  induction schedule generalizing pool with
  | nil =>
    cases hmoves
    exact h
  | cons m schedule ih =>
    rw [moves_cons] at hmoves
    obtain ⟨middle, hmove, hrest⟩ := bind_eq_ok_iff.mp hmoves
    exact ih (h.move htiles hmove) hrest

end Sound

/-! ### Schedules that come to their end -/

/-- The blocks of a pass can be evaluated, their light fits, and they lead the sums to a total. -/
structure Succeeds (p : PassPlan α) (store : α → α) (x : Transmittance α)
    (projection : Projection α) (blocks : List Extents.Block) (sums total : p.Sums) : Prop where
  light : ∀ block ∈ blocks, ∃ scattered,
    (p.kernel x).evaluate (.row (p.extents.voxels block)) = .ok scattered ∧ p.Fits block scattered
  sums_eq : blocks.foldlM (p.blockSums store x projection) sums = .ok total

/-- All tasks have written their light. -/
def Finished (blocks : List Extents.Block) (pool : Pool α p.extents.voxelCount) : Prop :=
  ∀ i < blocks.length, ∃ scattered, pool.tasks i = .finished scattered

namespace Sound

/-- Where all tasks are finished and all results have been added, the blocks succeed. -/
theorem succeeds (h : p.Sound store x projection blocks sums pool)
    (hfinished : Finished blocks pool) (hcollected : blocks.length ≤ pool.collected) :
    p.Succeeds store x projection blocks sums pool.sums where
  light block hmem := by
    obtain ⟨i, hi, hget⟩ := List.mem_iff_getElem.mp hmem
    obtain ⟨scattered, hstate⟩ := hfinished i hi
    obtain ⟨hevaluate, hrayleigh, hmie⟩ :=
      h.light (List.getElem?_eq_some_iff.mpr ⟨hi, hget⟩) hstate
    exact ⟨scattered, hevaluate, hrayleigh.length_eq, hmie.length_eq⟩
  sums_eq := by
    have hsums := h.collected
    rwa [List.take_of_length_le hcollected] at hsums

/-- No task fails if its block succeeds. -/
theorem not_failed (h : p.Sound store x projection blocks sums pool)
    (hall : p.Succeeds store x projection blocks sums total) (hblock : blocks[i]? = some block)
    (failure : Failure α) : pool.tasks i ≠ .failed failure := by
  intro hstate
  have htask := h.justified i block hblock
  rw [hstate] at htask
  obtain ⟨scattered, hevaluate, hfits⟩ := hall.light block (List.mem_of_getElem? hblock)
  obtain herror | ⟨scattered', hevaluate', hmisfit, -⟩ := htask
  · cases hevaluate.symm.trans herror
  · cases hevaluate.symm.trans hevaluate'
    exact hmisfit hfits

/-- Tasks that have made both actions are finished. -/
theorem finished (h : p.Sound store x projection blocks sums pool)
    (hall : p.Succeeds store x projection blocks sums total)
    (hactions : ∀ i < blocks.length, 2 ≤ (pool.tasks i).actions) : Finished blocks pool := by
  intro i hi
  have hnot := h.not_failed hall (List.getElem?_eq_getElem hi)
  have htwo := hactions i hi
  cases hstate : pool.tasks i with
  | waiting | half _ => simp [hstate, BlockTask.actions] at htwo
  | finished scattered => exact ⟨scattered, rfl⟩
  | failed failure => exact absurd hstate (hnot failure)

/-- The sums of the next block can be computed. -/
theorem exists_blockSums (h : p.Sound store x projection blocks sums pool)
    (hall : p.Succeeds store x projection blocks sums total)
    (hblock : blocks[pool.collected]? = some block) :
    ∃ next, p.blockSums store x projection pool.sums block = .ok next := by
  obtain ⟨hlength, hget⟩ := List.getElem?_eq_some_iff.mp hblock
  have htotal := hall.sums_eq
  rw [← List.take_append_drop pool.collected blocks, List.foldlM_append, h.collected, ok_bind,
    List.drop_eq_getElem_cons hlength, hget, List.foldlM_cons] at htotal
  obtain ⟨next, hnext, -⟩ := bind_eq_ok_iff.mp htotal
  exact ⟨next, hnext⟩

/-- Every move succeeds if the blocks do. -/
theorem exists_move (h : p.Sound store x projection blocks sums pool)
    (hall : p.Succeeds store x projection blocks sums total) (m : PoolMove) :
    ∃ pool', p.move store x projection blocks pool m = .ok pool' := by
  cases m with
  | act i =>
    cases hblock : blocks[i]? with
    | none => exact ⟨_, move_act_of_none hblock⟩
    | some block => exact ⟨_, move_act hblock⟩
  | collect =>
    cases hblock : blocks[pool.collected]? with
    | none => exact ⟨pool, by simp only [PassPlan.move, hblock]⟩
    | some block =>
      cases hstate : pool.tasks pool.collected with
      | waiting | half _ => exact ⟨pool, by simp only [PassPlan.move, hblock, hstate]⟩
      | finished scattered =>
        obtain ⟨next, hnext⟩ := h.exists_blockSums hall hblock
        exact ⟨_, move_collect_of_finished hblock hstate (h.light hblock hstate).1 hnext⟩
      | failed failure => exact absurd hstate (h.not_failed hall hblock failure)

/-- Every schedule runs to its end if the blocks succeed. -/
theorem exists_moves (h : p.Sound store x projection blocks sums pool)
    (hall : p.Succeeds store x projection blocks sums total)
    (htiles : Extents.Tiles 0 p.extents.voxelCount blocks) (schedule : List PoolMove) :
    ∃ pool', p.moves store x projection blocks pool schedule = .ok pool' := by
  induction schedule generalizing pool with
  | nil => exact ⟨pool, rfl⟩
  | cons m schedule ih =>
    obtain ⟨middle, hmove⟩ := h.exists_move hall m
    obtain ⟨pool', hmoves⟩ := ih (h.move htiles hmove)
    refine ⟨pool', ?_⟩
    rw [moves_cons, hmove, ok_bind, hmoves]

/-- When all tasks are finished the calling thread can add the results that are left. -/
theorem exists_collects (h : p.Sound store x projection blocks sums pool)
    (hall : p.Succeeds store x projection blocks sums total) (hfinished : Finished blocks pool)
    {k : Nat} (hk : blocks.length ≤ pool.collected + k) :
    ∃ last, p.moves store x projection blocks pool (List.replicate k .collect) = .ok last ∧
      last.grids = pool.grids ∧ last.sums = total := by
  induction k generalizing pool with
  | zero =>
    have hsums := (h.succeeds hfinished hk).sums_eq.symm.trans hall.sums_eq
    exact ⟨pool, rfl, rfl, Except.ok.inj hsums⟩
  | succ k ih =>
    cases hblock : blocks[pool.collected]? with
    | none =>
      have hlength := List.getElem?_eq_none_iff.mp hblock
      obtain ⟨last, hmoves, hlast⟩ := ih h hfinished (by omega)
      refine ⟨last, ?_, hlast⟩
      rw [List.replicate_succ, moves_cons]
      simp only [PassPlan.move, hblock, ok_bind]
      exact hmoves
    | some block =>
      obtain ⟨hlength, -⟩ := List.getElem?_eq_some_iff.mp hblock
      obtain ⟨scattered, hstate⟩ := hfinished _ hlength
      obtain ⟨next, hnext⟩ := h.exists_blockSums hall hblock
      have hmove := move_collect_of_finished hblock hstate (h.light hblock hstate).1 hnext
      obtain ⟨last, hmoves, hlast⟩ := ih (h.collect hmove) hfinished (by dsimp only; omega)
      refine ⟨last, ?_, hlast⟩
      rw [List.replicate_succ, moves_cons, hmove, ok_bind, hmoves]

/-- When all tasks are finished both grids are complete. -/
theorem isComplete (h : p.Sound store x projection blocks sums pool)
    (htiles : Extents.Tiles 0 p.extents.voxelCount blocks) (hfinished : Finished blocks pool) :
    pool.grids.rayleigh.isComplete = true ∧ pool.grids.mie.isComplete = true := by
  rw [VoxelGrid.isComplete_iff, VoxelGrid.isComplete_iff, h.rayleigh.shape_eq, h.mie.shape_eq]
  have hread : ∀ v, p.extents.shape.contains v = true →
      (pool.grids.rayleigh.read v).isSome = true ∧ (pool.grids.mie.read v).isSome = true := by
    intro v hv
    obtain ⟨i, block, hblock, hmem⟩ := VoxelGrid.exists_block_of_contains htiles hv
    obtain ⟨scattered, hstate⟩ := hfinished i (List.getElem?_eq_some_iff.mp hblock).1
    obtain ⟨-, hrayleigh, hmie⟩ := h.light hblock hstate
    exact ⟨hrayleigh.isSome hmem, hmie.isSome hmem⟩
  exact ⟨fun v hv => (hread v hv).1, fun v hv => (hread v hv).2⟩

/-- Two schedules in which all tasks are finished leave the same grids. -/
theorem grids_eq (h : p.Sound store x projection blocks sums pool)
    (h' : p.Sound store x projection blocks sums pool')
    (htiles : Extents.Tiles 0 p.extents.voxelCount blocks) (hfinished : Finished blocks pool)
    (hfinished' : Finished blocks pool') : pool.grids = pool'.grids := by
  have hread : ∀ v, p.extents.shape.contains v = true →
      pool.grids.rayleigh.read v = pool'.grids.rayleigh.read v ∧
        pool.grids.mie.read v = pool'.grids.mie.read v := by
    intro v hv
    obtain ⟨i, block, hblock, hmem⟩ := VoxelGrid.exists_block_of_contains htiles hv
    have hi := (List.getElem?_eq_some_iff.mp hblock).1
    obtain ⟨scattered, hstate⟩ := hfinished i hi
    obtain ⟨scattered', hstate'⟩ := hfinished' i hi
    obtain ⟨hevaluate, hrayleigh, hmie⟩ := h.light hblock hstate
    obtain ⟨hevaluate', hrayleigh', hmie'⟩ := h'.light hblock hstate'
    cases hevaluate.symm.trans hevaluate'
    exact ⟨hrayleigh.read_eq hrayleigh' hmem, hmie.read_eq hmie' hmem⟩
  have hrayleigh : pool.grids.rayleigh = pool'.grids.rayleigh :=
    VoxelGrid.ext_read (h.rayleigh.shape_eq.trans h'.rayleigh.shape_eq.symm) fun v hv =>
      (hread v (h.rayleigh.shape_eq ▸ hv)).1
  have hmie : pool.grids.mie = pool'.grids.mie :=
    VoxelGrid.ext_read (h.mie.shape_eq.trans h'.mie.shape_eq.symm) fun v hv =>
      (hread v (h.mie.shape_eq ▸ hv)).2
  calc pool.grids = ⟨pool.grids.rayleigh, pool.grids.mie⟩ := rfl
    _ = pool'.grids := by rw [hrayleigh, hmie]

end Sound

/-! ### The pass that runs the blocks one after another -/

/-- Both actions of a task and the addition of its result do what the pass does with a block. -/
theorem moves_block {scattered : ScatteredArrays α} {next : p.Sums}
    (hblock : blocks[pool.collected]? = some block)
    (hstate : pool.tasks pool.collected = .waiting)
    (hkernel : ((p.kernel x).run store .ok (.row (p.extents.voxels block))).run pool.grids =
      (.ok scattered, grids))
    (hnext : p.blockSums store x projection pool.sums block = .ok next) :
    p.moves store x projection blocks pool
        [.act pool.collected, .act pool.collected, .collect] =
      .ok (pool.advance scattered grids next) := by
  let acted : Pool α p.extents.voxelCount :=
    { pool with grids, tasks := Function.update pool.tasks pool.collected (.finished scattered) }
  have htwice := BlockTask.act_twice (p.kernel x) store (p.extents.voxels block) pool.grids
  rw [hkernel, BlockTask.ofOutcome] at htwice
  have hacts : p.moves store x projection blocks pool [.act pool.collected, .act pool.collected] =
      .ok acted := by
    simp only [moves, List.foldlM_cons, List.foldlM_nil, move_act hblock, ok_bind, hstate,
      Function.update_self, htwice, Function.update_idem, pure_eq_ok, acted]
  have hcollect : p.move store x projection blocks acted .collect =
      .ok (pool.advance scattered grids next) :=
    move_collect_of_finished hblock (Function.update_self ..) (Kernel.evaluate_of_run hkernel) hnext
  calc p.moves store x projection blocks pool [.act pool.collected, .act pool.collected, .collect]
    _ = p.moves store x projection blocks pool [.act pool.collected, .act pool.collected] >>=
          fun pool => p.moves store x projection blocks pool [.collect] :=
        moves_append [.act pool.collected, .act pool.collected] [.collect]
    _ = p.moves store x projection blocks acted [.collect] := by rw [hacts, ok_bind]
    _ = .ok (pool.advance scattered grids next) := by rw [moves_cons, hcollect]; rfl

/-- A pass that has run some first blocks one after another goes on like a schedule in which each
task makes both of its actions and its result is added before the next task begins. -/
theorem exists_moves_of_runBlocks (pool : Pool α p.extents.voxelCount)
    {rest : List Extents.Block} {count done : Nat} {events : Array (Event α)}
    {journal : Journal α p.Sums}
    (hrun : p.runBlocks store x projection none count done rest pool.grids ⟨pool.sums, events⟩ =
      (.ok grids, journal))
    (hrest : blocks.drop pool.collected = rest)
    (hfinished : ∀ i < pool.collected, ∃ scattered, pool.tasks i = .finished scattered)
    (hwaiting : ∀ i, pool.collected ≤ i → pool.tasks i = .waiting) :
    ∃ schedule last, p.moves store x projection blocks pool schedule = .ok last ∧
      last.grids = grids ∧ last.sums = journal.state ∧ Finished blocks last ∧
        blocks.length ≤ last.collected := by
  induction rest generalizing pool done events with
  | nil =>
    have hlength := List.drop_eq_nil_iff.mp hrest
    cases hrun
    exact ⟨[], pool, rfl, rfl, rfl, fun i hi => hfinished i (by omega), hlength⟩
  | cons block rest ih =>
    have hblock : blocks[pool.collected]? = some block := by
      rw [← List.head?_drop, hrest, List.head?_cons]
    have hdrop : blocks.drop (pool.collected + 1) = rest := by
      rw [← List.tail_drop, hrest, List.tail_cons]
    rw [runBlocks] at hrun
    rcases hkernel : ((p.kernel x).run store .ok (.row (p.extents.voxels block))).run pool.grids
      with ⟨failure | scattered, middle⟩
    · simp only [hkernel, Run.lift_error_bind] at hrun
      cases hrun
    simp only [hkernel, Run.lift_ok_bind] at hrun
    obtain ⟨_, ⟨next, events'⟩, hadd, hrun⟩ := run_bind_eq_ok hrun
    have hnext := blockSums_of_addBlock (Kernel.evaluate_of_run hkernel) hadd
    have hbefore : ∀ i < pool.collected + 1,
        ∃ s, (pool.advance scattered middle next).tasks i = .finished s := by
      intro i hi
      by_cases hlast : i = pool.collected
      · exact ⟨scattered, hlast ▸ Function.update_self ..⟩
      · obtain ⟨s, hstate⟩ := hfinished i (by omega)
        exact ⟨s, (Function.update_of_ne hlast ..).trans hstate⟩
    have hafter : ∀ i, pool.collected + 1 ≤ i →
        (pool.advance scattered middle next).tasks i = .waiting := fun i hi =>
      (Function.update_of_ne (by omega) ..).trans (hwaiting i (by omega))
    obtain ⟨schedule, last, hmoves, hlast⟩ :=
      ih (pool.advance scattered middle next) hrun hdrop hbefore hafter
    refine ⟨[.act pool.collected, .act pool.collected, .collect] ++ schedule, last, ?_, hlast⟩
    rw [moves_append, moves_block hblock (hwaiting _ le_rfl) hkernel hnext, ok_bind]
    exact hmoves

/-- A pass does not depend on the order in which its workers act, however many there are. Whatever
the schedule, a task fails only because its block cannot be evaluated or its light is not one
spectrum for each voxel, so no write finds a voxel outside the grid or written before. If the pass
that runs the blocks one after another succeeds, all schedules run to their end without a failure.
When each task has made its two actions, both grids are complete, and they and the sums of the
results that the calling thread has added are those of that pass. It does succeed where the kernel
gives light for each voxel. -/
theorem pool_eq_runBlocks (p : PassPlan α) (store : α → α) (x : Transmittance α)
    (projection : Projection α) (sums : p.Sums) {n : Int} (hsize : p.blockSize = .integer n)
    (hn : 1 ≤ n) : ∃ blocks, p.blocks = .ok blocks ∧
      (∀ schedule pool, p.moves store x projection blocks (p.poolStart sums) schedule = .ok pool →
        ∀ i block failure, blocks[i]? = some block → pool.tasks i = .failed failure →
          (p.kernel x).evaluate (.row (p.extents.voxels block)) = .error failure ∨
            ∃ s t, failure = .shapes (.unfit s t)) ∧
      (∀ grids journal, Run.start sums (p.runBlocks store x projection none blocks.length 0 blocks
          ⟨.empty p.extents.shape, .empty p.extents.shape⟩) = (.ok grids, journal) →
        grids.rayleigh.isComplete = true ∧ grids.mie.isComplete = true ∧
          ∀ schedule : List PoolMove, ∃ pool,
            p.moves store x projection blocks (p.poolStart sums) schedule = .ok pool ∧
            (∀ i < blocks.length, ∀ failure, pool.tasks i ≠ .failed failure) ∧
            ((∀ i < blocks.length, 2 ≤ schedule.count (.act i)) → pool.grids = grids ∧
              ∃ last, p.moves store x projection blocks pool
                  (List.replicate blocks.length .collect) = .ok last ∧
                last.grids = grids ∧ last.sums = journal.state)) ∧
      ∀ light : Voxel → Scattered α,
        (∀ v, p.extents.shape.contains v = true → (p.kernel x).evaluate (.single v) =
          .ok ⟨.single (light v).rayleigh, .single (light v).mie⟩) →
        ∃ grids journal, Run.start sums (p.runBlocks store x projection none blocks.length 0 blocks
          ⟨.empty p.extents.shape, .empty p.extents.shape⟩) = (.ok grids, journal) := by
  obtain ⟨blocks, hblocks, htiles⟩ := tiles_blocks hsize hn
  have hstart : p.Sound store x projection blocks sums (p.poolStart sums) := sound_poolStart sums
  refine ⟨blocks, hblocks, ?_, ?_, ?_⟩
  · intro schedule pool hmoves i block failure hblock hstate
    have htask := (hstart.moves htiles hmoves).justified i block hblock
    rw [hstate] at htask
    exact htask.imp_right fun ⟨_, _, _, hfailure⟩ => hfailure
  · intro grids journal hrun
    obtain ⟨serial, last, hserial, hgrids, hsums, hfinished, hcollected⟩ :=
      exists_moves_of_runBlocks (p.poolStart sums) hrun rfl nofun fun _ _ => rfl
    have hlast := hstart.moves htiles hserial
    have hall := hlast.succeeds hfinished hcollected
    obtain ⟨hrayleigh, hmie⟩ := hlast.isComplete htiles hfinished
    refine ⟨hgrids ▸ hrayleigh, hgrids ▸ hmie, fun schedule => ?_⟩
    obtain ⟨pool, hmoves⟩ := hstart.exists_moves hall htiles schedule
    have hpool := hstart.moves htiles hmoves
    refine ⟨pool, hmoves, fun i hi => hpool.not_failed hall (List.getElem?_eq_getElem hi), ?_⟩
    intro hcount
    have hdone : Finished blocks pool := hpool.finished hall fun i hi => by
      have hactions := le_actions_moves hmoves hi
      have := hcount i hi
      omega
    have hsame : pool.grids = grids :=
      (hpool.grids_eq hlast htiles hdone hfinished).trans hgrids
    obtain ⟨final, hfinal, hfinalGrids, hfinalSums⟩ :=
      hpool.exists_collects hall hdone (k := blocks.length) (by omega)
    exact ⟨hsame, final, hfinal, hfinalGrids.trans hsame, hfinalSums.trans hsums⟩
  · intro light hlight
    have hlit : p.Lit x light := lit_of_evaluate hlight
    have hmedium := Parameters.medium?_isSome_of_scatterInto
      (hlit _ (Extents.contains_voxelAt p.extents.voxelCount_pos))
    have hsilent : ∀ o ∈ (none : Option (Observer α)), o.Silent := nofun
    have hgrids : p.gridsTo store light 0 =
        ⟨.empty p.extents.shape, .empty p.extents.shape⟩ := by
      simp only [gridsTo, ← VoxelGrid.empty_eq_filledTo]
    have hrun := yields_runBlocks store projection hlit hmedium hsilent sums htiles le_rfl
      blocks.length 0
    rw [hgrids, sumsTo_zero] at hrun
    obtain ⟨events, hevents⟩ := hrun #[]
    exact ⟨_, _, hevents⟩

/-- Around the Earth, with all light surviving its way, workers fill the standard grid in any order,
though the size of the blocks does not divide it. -/
theorem pool_eq_runBlocks_earth :
    let p : PassPlan ℝ := ⟨.earth, .standard, .null, .integer 1000, .integer 50⟩
    let x : Transmittance ℝ := .constant (Spectrum.constant 1)
    let projection : Projection ℝ := .replicate 4 (.replicate 4 1)
    ∃ blocks, p.blocks = .ok blocks ∧ ∃ grids : ScatterGrids ℝ, ∃ total : p.Sums,
      grids.isComplete = true ∧ ∀ schedule : List PoolMove,
        (∀ i < blocks.length, schedule.count (.act i) = 2) →
          ∃ pool last, p.moves id x projection blocks (p.poolStart .zero) schedule = .ok pool ∧
            p.moves id x projection blocks pool (List.replicate blocks.length .collect) =
              .ok last ∧ last.grids = grids ∧ last.sums = total := by
  intro p x projection
  obtain ⟨light, hlight⟩ := (p.kernel x).exists_light Parameters.validate_earth
    Parameters.regular_earth rfl (by decide : (1 : Int) ≤ 50)
    (Oracle.answers_constant (Spectrum.constant 1))
  obtain ⟨blocks, hblocks, -, hserial, hsucceeds⟩ := pool_eq_runBlocks p id x projection .zero rfl
    (by decide : (1 : Int) ≤ 1000)
  obtain ⟨grids, journal, hrun⟩ := hsucceeds light hlight
  obtain ⟨hrayleigh, hmie, hschedules⟩ := hserial grids journal hrun
  refine ⟨blocks, hblocks, grids, journal.state, ?_, fun schedule hcount => ?_⟩
  · rw [ScatterGrids.isComplete, hrayleigh, hmie, Bool.and_self]
  · obtain ⟨pool, hmoves, -, hdone⟩ := hschedules schedule
    obtain ⟨-, last, hlast, hgrids, hsums⟩ := hdone fun i hi => (hcount i hi).ge
    exact ⟨pool, last, hmoves, hlast, hgrids, hsums⟩

end PassPlan

end Airlight
