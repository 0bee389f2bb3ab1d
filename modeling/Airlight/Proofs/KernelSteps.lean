import Airlight.Proofs.RunSteps
import Airlight.Scattering.Kernel

/-!
# Steps of the kernel

Once voxels have been evaluated the kernel writes the light of the molecules, then that of the
aerosols, and projects both. A write is refused and changes nothing, or it fills one of the two
grids.

## Main definitions

* `ScatterGrids.fill` — the grids after the light of some voxels has been written to both.
-/

namespace Airlight

open Texture

variable {α : Type}

namespace GridStep

variable {β γ : Type} {store : α → α} {voxels : List Voxel} {values : Tensor (Spectrum α)}
  {failure : Failure α}

theorem lift_ok_bind (b : β) (next : β → GridStep α γ) :
    ((ExceptT.mk (pure (.ok b)) : GridStep α β) >>= next) = next b := rfl

theorem run_lift_error_bind (failure : Failure α) (next : β → GridStep α γ)
    (grids : ScatterGrids α) :
    ((ExceptT.mk (pure (.error failure)) : GridStep α β) >>= next).run grids =
      (.error failure, grids) := rfl

theorem refusal?_eq_none_iff {g : VoxelGrid α 4} : refusal? g voxels values = none ↔
    g.refusal? (φ := α) voxels = none ∧ values.data.size = voxels.length := by
  simp [refusal?, Option.or_eq_none_iff]

section

variable {rayleigh mie : VoxelGrid α 4}

theorem run_writeRayleigh_of_some (h : refusal? rayleigh voxels values = some failure) :
    (writeRayleigh store voxels values).run ⟨rayleigh, mie⟩ =
      (.error failure, ⟨rayleigh, mie⟩) := by
  simp only [writeRayleigh, ExceptT.run, ExceptT.mk, h]

theorem run_writeRayleigh_of_none (h : refusal? rayleigh voxels values = none) :
    (writeRayleigh store voxels values).run ⟨rayleigh, mie⟩ =
      (.ok (), ⟨rayleigh.fill store (voxels.zip values.data.toList), mie⟩) := by
  simp only [writeRayleigh, ExceptT.run, ExceptT.mk, h]

theorem run_writeMie_of_some (h : refusal? mie voxels values = some failure) :
    (writeMie store voxels values).run ⟨rayleigh, mie⟩ = (.error failure, ⟨rayleigh, mie⟩) := by
  simp only [writeMie, ExceptT.run, ExceptT.mk, h]

theorem run_writeMie_of_none (h : refusal? mie voxels values = none) :
    (writeMie store voxels values).run ⟨rayleigh, mie⟩ =
      (.ok (), ⟨rayleigh, mie.fill store (voxels.zip values.data.toList)⟩) := by
  simp only [writeMie, ExceptT.run, ExceptT.mk, h]

end

end GridStep

/-- The grids after the light of some voxels has been written to both. -/
def ScatterGrids.fill (grids : ScatterGrids α) (store : α → α) (voxels : List Voxel)
    (scattered : ScatteredArrays α) : ScatterGrids α :=
  ⟨grids.rayleigh.fill store (voxels.zip scattered.rayleigh.data.toList),
    grids.mie.fill store (voxels.zip scattered.mie.data.toList)⟩

namespace Kernel

variable [Scalar α] [Inhabited α] {β : Type} {k : Kernel α} {store : α → α}
  {project : ScatteredArrays α → Except (Failure α) β} {voxels : Tensor Voxel}
  {scattered : ScatteredArrays α} {grids grids' : ScatterGrids α}

theorem run_of_evaluate_error {failure : Failure α} (h : k.evaluate voxels = .error failure)
    (store : α → α) (project : ScatteredArrays α → Except (Failure α) β)
    (grids : ScatterGrids α) :
    (k.run store project voxels).run grids = (.error failure, grids) := by
  rw [Kernel.run, h, GridStep.run_lift_error_bind]

/-- What the kernel does once the voxels have been evaluated: the light of the molecules is refused,
or it is written and that of the aerosols is refused, or both are written and projected. -/
theorem run_of_evaluate (h : k.evaluate voxels = .ok scattered) (store : α → α)
    (project : ScatteredArrays α → Except (Failure α) β) (grids : ScatterGrids α) :
    (k.run store project voxels).run grids =
      match GridStep.refusal? grids.rayleigh voxels.data.toList scattered.rayleigh,
          GridStep.refusal? grids.mie voxels.data.toList scattered.mie with
      | some failure, _ => (.error failure, grids)
      | none, some failure =>
        (.error failure, ⟨(grids.fill store voxels.data.toList scattered).rayleigh, grids.mie⟩)
      | none, none => (project scattered, grids.fill store voxels.data.toList scattered) := by
  obtain ⟨rayleigh, mie⟩ := grids
  rw [Kernel.run, h, GridStep.lift_ok_bind]
  cases hrayleigh :
      GridStep.refusal? rayleigh voxels.data.toList scattered.rayleigh with
  | some failure => rw [run_bind_of_error (GridStep.run_writeRayleigh_of_some hrayleigh)]
  | none =>
    rw [run_bind_of_ok (GridStep.run_writeRayleigh_of_none hrayleigh)]
    cases hmie : GridStep.refusal? mie voxels.data.toList scattered.mie with
    | some failure =>
      rw [run_bind_of_error (GridStep.run_writeMie_of_some hmie)]
      rfl
    | none =>
      rw [run_bind_of_ok (GridStep.run_writeMie_of_none hmie)]
      rfl

/-- A run of the kernel that succeeds has evaluated the voxels and written their light to both
grids. -/
theorem exists_of_run_eq_ok {b : β} (h : (k.run store project voxels).run grids = (.ok b, grids')) :
    ∃ scattered, k.evaluate voxels = .ok scattered ∧
      GridStep.refusal? grids.rayleigh voxels.data.toList scattered.rayleigh = none ∧
      GridStep.refusal? grids.mie voxels.data.toList scattered.mie = none ∧
      project scattered = .ok b ∧ grids' = grids.fill store voxels.data.toList scattered := by
  cases hevaluate : k.evaluate voxels with
  | error failure =>
    rw [run_of_evaluate_error hevaluate] at h
    cases h
  | ok scattered =>
    rw [run_of_evaluate hevaluate] at h
    split at h
    · cases h
    · cases h
    · next hrayleigh hmie =>
      obtain ⟨hproject, hgrids⟩ := Prod.mk.inj h
      exact ⟨scattered, rfl, hrayleigh, hmie, hproject, hgrids.symm⟩

/-- What the kernel returns for voxels is what it evaluates. -/
theorem evaluate_of_run (h : (k.run store .ok voxels).run grids = (.ok scattered, grids')) :
    k.evaluate voxels = .ok scattered := by
  obtain ⟨found, hevaluate, -, -, hproject, -⟩ := exists_of_run_eq_ok h
  rwa [← Except.ok.inj hproject]

/-- The kernel has found one spectrum of each constituent for each voxel that it has written. -/
theorem sizes_of_run (h : (k.run store .ok voxels).run grids = (.ok scattered, grids')) :
    scattered.rayleigh.data.size = voxels.data.size ∧
      scattered.mie.data.size = voxels.data.size := by
  obtain ⟨found, -, hrayleigh, hmie, hproject, -⟩ := exists_of_run_eq_ok h
  cases hproject
  exact ⟨(GridStep.refusal?_eq_none_iff.mp hrayleigh).2.trans Array.length_toList,
    (GridStep.refusal?_eq_none_iff.mp hmie).2.trans Array.length_toList⟩

end Kernel

end Airlight
