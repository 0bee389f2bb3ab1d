import Mathlib.Logic.Function.Basic
import Airlight.Proofs.GridFill
import Airlight.Proofs.KernelSteps

/-!
# Tasks of blocks

Each block of a pass has a task with two actions: the first evaluates the voxels of the block and
writes the light scattered by molecules, the second writes that of the aerosols. Both together are a
run of the kernel. The blocks have no voxel in common, so a task that has yet to write finds its
voxels unwritten if nothing but tasks has written, and its light is refused only if it is not one
spectrum for each voxel.

## Main definitions

* `BlockTask` — how far the task of a block has come.
* `BlockTask.act` — the next action of a task.
* `VoxelGrid.Carries` — a grid holds given values at some voxels.
* `PassPlan.Confined` — only tasks that have come as far have written to a grid.
-/

namespace Airlight

open Colour Grid Texture

variable {α : Type}

/-! ## Tasks -/

/-- How far the task of a block has come: it has yet to begin, has written the light scattered by
molecules, has written that of the aerosols, too, or has failed. -/
inductive BlockTask (α : Type)
  | waiting
  | half (scattered : ScatteredArrays α)
  | finished (scattered : ScatteredArrays α)
  | failed (failure : Failure α)

namespace BlockTask

/-- The task that an outcome of the kernel leaves. -/
def ofOutcome : Except (Failure α) (ScatteredArrays α) → BlockTask α
  | .ok scattered => finished scattered
  | .error failure => failed failure

/-- The number of actions of a task that are over. -/
def actions : BlockTask α → Nat
  | waiting => 0
  | half _ => 1
  | finished _ => 2
  | failed _ => 2

theorem actions_le_two (task : BlockTask α) : task.actions ≤ 2 := by
  cases task <;> simp [actions]

end BlockTask

/-! ## What has been written -/

namespace Texture.VoxelGrid

variable {n : Nat} {g g' : VoxelGrid α n} {store : α → α} {voxels : List Voxel}
  {values : List (Vector α n)} {v : Voxel}

/-- The grid holds given values at some voxels, one for each. -/
def Carries (g : VoxelGrid α n) (store : α → α) (voxels : List Voxel)
    (values : List (Vector α n)) : Prop :=
  voxels.map g.read = values.map fun value => some (value.map store)

theorem carries_fill {e : Extents} {b : Extents.Block} (hshape : g.shape = e.shape)
    (hstop : b.2 ≤ e.voxelCount) (hlength : values.length = (e.voxels b).length) :
    (g.fill store ((e.voxels b).zip values)).Carries store (e.voxels b) values :=
  map_read_fill (nodup_voxels e b) (fun _ hv => hshape ▸ ((mem_voxels hstop).mp hv).1) hlength

namespace Carries

theorem length_eq (h : g.Carries store voxels values) : values.length = voxels.length := by
  have hlength := congrArg List.length h
  simpa using hlength.symm

theorem congr (h : g.Carries store voxels values) (hread : ∀ v ∈ voxels, g'.read v = g.read v) :
    g'.Carries store voxels values :=
  (List.map_congr_left hread).trans h

theorem read_eq (h : g.Carries store voxels values) (h' : g'.Carries store voxels values)
    (hv : v ∈ voxels) : g.read v = g'.read v :=
  List.map_inj_left.mp (Eq.trans h (Eq.symm h')) v hv

theorem isSome (h : g.Carries store voxels values) (hv : v ∈ voxels) :
    (g.read v).isSome = true := by
  have hmem : g.read v ∈ voxels.map g.read := List.mem_map_of_mem hv
  rw [h] at hmem
  obtain ⟨value, -, hvalue⟩ := List.mem_map.mp hmem
  rw [← hvalue, Option.isSome_some]

end Carries

end Texture.VoxelGrid

namespace PassPlan

variable {p : PassPlan α} {blocks : List Extents.Block} {block : Extents.Block} {store : α → α}
  {n i : Nat} {tasks : Nat → BlockTask α} {task : BlockTask α} {grid : VoxelGrid α 4}

/-- The voxels that have been written belong to blocks whose tasks have made `n` actions. -/
structure Confined (p : PassPlan α) (blocks : List Extents.Block) (n : Nat)
    (tasks : Nat → BlockTask α) (grid : VoxelGrid α 4) : Prop where
  shape_eq : grid.shape = p.extents.shape
  owner : ∀ v, (grid.read v).isSome = true → ∃ i block, blocks[i]? = some block ∧
    v ∈ p.extents.voxels block ∧ n ≤ (tasks i).actions

theorem confined_empty (n : Nat) (tasks : Nat → BlockTask α) :
    p.Confined blocks n tasks (.empty p.extents.shape) :=
  ⟨rfl, fun v hv => by simp [VoxelGrid.read_empty] at hv⟩

/-- Blocks whose tasks have not made as many actions are blank. -/
theorem Confined.blank (h : p.Confined blocks n tasks grid)
    (htiles : Extents.Tiles 0 p.extents.voxelCount blocks) (hblock : blocks[i]? = some block)
    (hactions : (tasks i).actions < n) : ∀ v ∈ p.extents.voxels block, grid.read v = none := by
  intro v hv
  rw [← Option.not_isSome_iff_eq_none]
  intro hread
  obtain ⟨j, b, hb, hmem, hdone⟩ := h.owner v hread
  obtain rfl := VoxelGrid.eq_of_mem_voxels htiles le_rfl hblock hb hv hmem
  omega

theorem Confined.update (h : p.Confined blocks n tasks grid)
    (hactions : (tasks i).actions ≤ task.actions) :
    p.Confined blocks n (Function.update tasks i task) grid := by
  refine ⟨h.shape_eq, fun v hv => ?_⟩
  obtain ⟨j, b, hb, hmem, hdone⟩ := h.owner v hv
  refine ⟨j, b, hb, hmem, ?_⟩
  by_cases hj : j = i
  · subst hj
    rw [Function.update_self]
    omega
  · rwa [Function.update_of_ne hj]

theorem Confined.fill (h : p.Confined blocks n tasks grid)
    (htiles : Extents.Tiles 0 p.extents.voxelCount blocks) (hblock : blocks[i]? = some block)
    (hactions : (tasks i).actions ≤ task.actions) (hn : n ≤ task.actions)
    (values : List (Spectrum α)) :
    p.Confined blocks n (Function.update tasks i task)
      (grid.fill store ((p.extents.voxels block).zip values)) := by
  have hstop := (htiles.bounds _ (List.mem_of_getElem? hblock)).2.2
  refine ⟨h.shape_eq, fun v hv => ?_⟩
  by_cases hmem : v ∈ p.extents.voxels block
  · exact ⟨i, block, hblock, hmem, by rwa [Function.update_self]⟩
  · rw [VoxelGrid.read_fill_block_of_not_mem h.shape_eq hstop _ hmem] at hv
    exact (h.update hactions).owner v hv

end PassPlan

namespace GridStep

variable {e : Extents} {g : VoxelGrid α 4} {b : Extents.Block} {values : Tensor (Spectrum α)}

/-- Light for a block that has not been written is refused only if it is not one spectrum for each
voxel. -/
theorem refusal?_of_blank (hshape : g.shape = e.shape) (hstop : b.2 ≤ e.voxelCount)
    (hblank : ∀ v ∈ e.voxels b, g.read v = none) (values : Tensor (Spectrum α)) :
    refusal? g (e.voxels b) values = if values.data.size = (e.voxels b).length then none
      else some (.shapes (.unfit (values.shape ++ [4]) [(e.voxels b).length, 4])) := by
  rw [refusal?, VoxelGrid.refusal?_block hshape hstop hblank, Option.none_or]

end GridStep

/-! ## Actions -/

variable [Scalar α] [Inhabited α]

namespace BlockTask

/-- The next action of a task. The first one also evaluates the voxels. -/
def act (k : Kernel α) (store : α → α) (voxels : List Voxel) (grids : ScatterGrids α) :
    BlockTask α → BlockTask α × ScatterGrids α
  | waiting =>
    match k.evaluate (.row voxels) with
    | .error failure => (failed failure, grids)
    | .ok scattered =>
      match (GridStep.writeRayleigh store voxels scattered.rayleigh).run grids with
      | (.error failure, grids) => (failed failure, grids)
      | (.ok (), grids) => (half scattered, grids)
  | half scattered =>
    match (GridStep.writeMie store voxels scattered.mie).run grids with
    | (.error failure, grids) => (failed failure, grids)
    | (.ok (), grids) => (finished scattered, grids)
  | task => (task, grids)

variable {k : Kernel α} {store : α → α} {voxels : List Voxel} {grids : ScatterGrids α}
  {scattered : ScatteredArrays α}

/-- What the first action of a task does: the voxels cannot be evaluated, or their light is refused,
or it is written. -/
theorem act_waiting_cases (k : Kernel α) (store : α → α) (voxels : List Voxel)
    (grids : ScatterGrids α) :
    (∃ failure, k.evaluate (.row voxels) = .error failure ∧
        act k store voxels grids waiting = (failed failure, grids)) ∨
      ∃ scattered, k.evaluate (.row voxels) = .ok scattered ∧
        ((∃ failure, GridStep.refusal? grids.rayleigh voxels scattered.rayleigh = some failure ∧
            act k store voxels grids waiting = (failed failure, grids)) ∨
          GridStep.refusal? grids.rayleigh voxels scattered.rayleigh = none ∧
            act k store voxels grids waiting = (half scattered, { grids with
              rayleigh := grids.rayleigh.fill store
                (voxels.zip scattered.rayleigh.data.toList) })) := by
  obtain ⟨rayleigh, mie⟩ := grids
  unfold act
  cases hevaluate : k.evaluate (.row voxels) with
  | error failure => exact .inl ⟨failure, rfl, rfl⟩
  | ok scattered =>
    refine .inr ⟨scattered, rfl, ?_⟩
    cases hrefusal : GridStep.refusal? rayleigh voxels scattered.rayleigh with
    | some failure =>
      refine .inl ⟨failure, rfl, ?_⟩
      simp only [GridStep.run_writeRayleigh_of_some hrefusal]
    | none =>
      refine .inr ⟨rfl, ?_⟩
      simp only [GridStep.run_writeRayleigh_of_none hrefusal]

/-- What the second action of a task does: its light is refused or written. -/
theorem act_half_cases (k : Kernel α) (store : α → α) (voxels : List Voxel)
    (grids : ScatterGrids α) (scattered : ScatteredArrays α) :
    (∃ failure, GridStep.refusal? grids.mie voxels scattered.mie = some failure ∧
        act k store voxels grids (half scattered) = (failed failure, grids)) ∨
      GridStep.refusal? grids.mie voxels scattered.mie = none ∧
        act k store voxels grids (half scattered) = (finished scattered, { grids with
          mie := grids.mie.fill store (voxels.zip scattered.mie.data.toList) }) := by
  obtain ⟨rayleigh, mie⟩ := grids
  unfold act
  cases hrefusal : GridStep.refusal? mie voxels scattered.mie with
  | some failure =>
    refine .inl ⟨failure, rfl, ?_⟩
    simp only [GridStep.run_writeMie_of_some hrefusal]
  | none =>
    refine .inr ⟨rfl, ?_⟩
    simp only [GridStep.run_writeMie_of_none hrefusal]

/-- An action brings a task further, to its end if it fails. -/
theorem le_actions_act (k : Kernel α) (store : α → α) (voxels : List Voxel)
    (grids : ScatterGrids α) (task : BlockTask α) :
    min 2 (task.actions + 1) ≤ (task.act k store voxels grids).1.actions := by
  cases task with
  | waiting =>
    rcases act_waiting_cases k store voxels grids with
      ⟨_, -, hact⟩ | ⟨_, -, ⟨_, -, hact⟩ | ⟨-, hact⟩⟩ <;> rw [hact] <;> simp [actions]
  | half scattered =>
    rcases act_half_cases k store voxels grids scattered with ⟨_, -, hact⟩ | ⟨-, hact⟩ <;>
      rw [hact] <;> simp [actions]
  | finished _ | failed _ => simp [act, actions]

/-- A task with both of its actions is a run of the kernel. -/
theorem act_twice (k : Kernel α) (store : α → α) (voxels : List Voxel) (grids : ScatterGrids α) :
    act k store voxels (act k store voxels grids waiting).2 (act k store voxels grids waiting).1 =
      (ofOutcome ((k.run store .ok (.row voxels)).run grids).1,
        ((k.run store .ok (.row voxels)).run grids).2) := by
  rcases act_waiting_cases k store voxels grids with
    ⟨failure, hevaluate, hact⟩ | ⟨scattered, hevaluate, ⟨failure, hrayleigh, hact⟩ |
      ⟨hrayleigh, hact⟩⟩
  · rw [hact, Kernel.run_of_evaluate_error hevaluate]
    rfl
  · rw [hact, Kernel.run_of_evaluate hevaluate, Tensor.data_row, List.toList_toArray, hrayleigh]
    rfl
  · rw [hact, Kernel.run_of_evaluate hevaluate, Tensor.data_row, List.toList_toArray, hrayleigh]
    rcases act_half_cases k store voxels _ scattered with ⟨failure, hmie, hact'⟩ | ⟨hmie, hact'⟩
    · rw [hact', show GridStep.refusal? grids.mie voxels scattered.mie = some failure from hmie]
      rfl
    · rw [hact', show GridStep.refusal? grids.mie voxels scattered.mie = none from hmie]
      rfl

end BlockTask

end Airlight
