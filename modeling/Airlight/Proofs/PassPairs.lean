import Airlight.Proofs.RunSteps
import Airlight.Proofs.Tensors
import Airlight.Scattering.Pass

/-!
# Passes side by side

Two passes of the same plan, in atmospheres with the same scattering layers, take the same steps as
long as their kernels do. What the luminances are and what the sums hold makes no difference to
that.

## Main definitions

* `Kernel.Alike` — two kernels keep grids related.
* `TextureSet.Holds` — the table and the grids of a pass are textures of a set.
-/

namespace Airlight

open Colour Grid Texture

variable {α : Type} [Scalar α]

/-- A set of textures has the table of a transmittance and two grids. -/
structure TextureSet.Holds [Inhabited α] (t : TextureSet α) (x : Transmittance α)
    (grids : ScatterGrids α) : Prop where
  transmittance : t.transmittance = x.texels?
  deltaRayleigh : t.deltaRayleigh = grids.rayleigh.toTensor
  deltaMie : t.deltaMie = grids.mie.toTensor

/-- Whatever voxels two kernels are run on, they keep grids related. Both give light of the same
sizes, or both fail with the same failure. -/
def Kernel.Alike [Inhabited α] (k k' : Kernel α) (store : α → α)
    (R : ScatterGrids α → ScatterGrids α → Prop) : Prop :=
  ∀ voxels grids grids', R grids grids' →
    Corresponds (fun s s' : ScatteredArrays α =>
      s.rayleigh.shape = s'.rayleigh.shape ∧ s.mie.shape = s'.mie.shape)
      ((k.run store .ok voxels).run grids).1 ((k'.run store .ok voxels).run grids').1 ∧
    R ((k.run store .ok voxels).run grids).2 ((k'.run store .ok voxels).run grids').2

omit [Scalar α] in
/-- Whether a matrix can be used depends on its sizes only. -/
theorem Colour.Projection.corresponds_ofMatrix {m m' : Tensor α} (h : m.shape = m'.shape) :
    Corresponds (fun _ _ => True) (Projection.ofMatrix m) (Projection.ofMatrix m') := by
  have hsize : m.data.size = m'.data.size := by rw [m.size_eq, m'.size_eq, h]
  by_cases hsizes : m.data.size = 16 ∧ m.shape = [4, 4]
  · have hsizes' : m'.data.size = 16 ∧ m'.shape = [4, 4] := hsize ▸ h ▸ hsizes
    rw [ofMatrix, dif_pos hsizes, ofMatrix, dif_pos hsizes']
    exact .ok trivial
  · have hsizes' : ¬ (m'.data.size = 16 ∧ m'.shape = [4, 4]) := hsize ▸ h ▸ hsizes
    rw [ofMatrix, dif_neg hsizes, ofMatrix, dif_neg hsizes', h]
    exact .error _

namespace PassPlan

/-- Whether a plan is made depends neither on the atmosphere nor on the number of workers. -/
theorem make_eq_map (sizes : GridSizes α) (blockSize sampleCount : Value α) :
    ∃ checked : Except (Failure α) Extents, ∀ (a : Parameters α) (workers : Value α),
      make a sizes workers blockSize sampleCount =
        checked.map fun e => ⟨a, e, workers, blockSize, sampleCount⟩ := by
  refine ⟨do
    if ← blockSize.isBelow 1 then throw (.argument (.blockSize blockSize))
    if ← sampleCount.isBelow 1 then throw (.argument (.sampleCount sampleCount))
    let extents ← sizes.extents
    Tensor.checkRoom (extents.shape.sizes ++ [3]) ScatterGrids.valueBytes
    return extents, fun a workers => ?_⟩
  unfold make
  cases blockSize.isBelow 1 with
  | error _ => rfl
  | ok small =>
    cases small with
    | true => rfl
    | false =>
      cases sampleCount.isBelow 1 with
      | error _ => rfl
      | ok few =>
        cases few with
        | true => rfl
        | false =>
          cases sizes.extents with
          | error _ => rfl
          | ok e =>
            simp only [ok_bind, Bool.false_eq_true, if_false]
            cases (Tensor.checkRoom (e.shape.sizes ++ [3]) ScatterGrids.valueBytes :
              Except (Failure α) Unit) with
            | error _ => rfl
            | ok _ => rfl

/-- Whether luminances can be added depends on the layers and on the sizes only. -/
theorem corresponds_addends (projection projection' : Projection α) (layers : Profile (Value α))
    {s s' : Tensor (Spectrum α)} (h : s.shape = s'.shape) :
    Corresponds (fun _ _ => True) (addends projection layers s)
      (addends projection' layers s') := by
  have hsize : s.data.size = s'.data.size := by rw [s.size_eq, s'.size_eq, h]
  unfold addends
  rw [h, hsize]
  cases layers.any DensityLayer.keepsElements with
  | true => exact .error _
  | false =>
    rcases s'.shape with _ | ⟨n, _ | ⟨m, rest⟩⟩
    · exact .error _
    · exact .ok trivial
    · exact .error _

variable {p : PassPlan α} {a : Parameters α} {x y : Transmittance α} {store : α → α}
  {R : ScatterGrids α → ScatterGrids α → Prop}

theorem corresponds_addBlock (hrayleigh : a.rayleighDensity = p.atmosphere.rayleighDensity)
    (hmie : a.mieDensity = p.atmosphere.mieDensity) (projection projection' : Projection α)
    (start : Nat) {s s' : ScatteredArrays α} (hs : s.rayleigh.shape = s'.rayleigh.shape)
    (hs' : s.mie.shape = s'.mie.shape) :
    Run.Corresponds Eq (p.addBlock store projection start s)
      (addBlock { p with atmosphere := a } store projection' start s') := by
  unfold addBlock
  rw [hrayleigh, hmie]
  refine (Run.corresponds_lift (corresponds_addends _ _ _ hs)).bind fun _ _ _ => ?_
  refine (Run.corresponds_change _ _).bind fun _ _ _ => ?_
  refine (Run.corresponds_lift (corresponds_addends _ _ _ hs')).bind fun _ _ _ => ?_
  exact Run.corresponds_change _ _

variable [Inhabited α]

/-- The blocks of two passes are run side by side. -/
theorem corresponds_runBlocks (hrayleigh : a.rayleighDensity = p.atmosphere.rayleighDensity)
    (hmie : a.mieDensity = p.atmosphere.mieDensity)
    (hkernel : (p.kernel x).Alike (kernel { p with atmosphere := a } y) store R)
    (projection projection' : Projection α) (observer : Option (Observer α)) (total done : Nat)
    (blocks : List Extents.Block) {grids grids' : ScatterGrids α} (hgrids : R grids grids') :
    Run.Corresponds R (p.runBlocks store x projection observer total done blocks grids)
      (runBlocks { p with atmosphere := a } store y projection' observer total done blocks
        grids') := by
  induction blocks generalizing done grids grids' with
  | nil => exact Run.corresponds_pure hgrids
  | cons block rest ih =>
    obtain ⟨hscattered, hnext⟩ := hkernel (.row (p.extents.voxels block)) grids grids' hgrids
    refine (Run.corresponds_lift hscattered).bind fun s s' hs => ?_
    refine (corresponds_addBlock hrayleigh hmie _ _ _ hs.1 hs.2).bind fun _ _ _ => ?_
    exact (Run.corresponds_tell _ _).bind fun _ _ _ => ih (done + 1) hnext

/-- Two passes are run side by side, and their grids stay related. -/
theorem corresponds_run (hrayleigh : a.rayleighDensity = p.atmosphere.rayleighDensity)
    (hmie : a.mieDensity = p.atmosphere.mieDensity)
    (hkernel : (p.kernel x).Alike (kernel { p with atmosphere := a } y) store R)
    (hempty : ∀ grids, ScatterGrids.make (φ := α) p.extents.shape = .ok grids → R grids grids)
    (hcomplete : ∀ grids grids', R grids grids' → grids.isComplete = grids'.isComplete)
    {matrix matrix' : Tensor α} (hmatrix : matrix.shape = matrix'.shape)
    (observer : Option (Observer α)) :
    Run.Corresponds (fun t t' => ∃ grids grids', R grids grids' ∧ t.Holds x grids ∧
        t'.Holds y grids') (p.run store x matrix observer)
      (run { p with atmosphere := a } store y matrix' observer) := by
  have hmake : Corresponds R (ScatterGrids.make (φ := α) p.extents.shape)
      (ScatterGrids.make p.extents.shape) := by
    cases hgrids : (ScatterGrids.make p.extents.shape : Except (Failure α) (ScatterGrids α)) with
    | error failure => exact .error failure
    | ok grids => exact .ok (hempty grids hgrids)
  refine (Run.corresponds_lift (Projection.corresponds_ofMatrix hmatrix)).bind
    fun projection projection' _ => ?_
  refine (Run.corresponds_lift hmake).bind fun empty empty' hgrids => ?_
  refine (Run.corresponds_lift (corresponds_self (R := Eq) (fun _ => rfl) p.blocks)).bind ?_
  rintro blocks _ rfl
  refine (Run.corresponds_note _ _).bind fun _ _ _ => ?_
  refine (Run.corresponds_lift (corresponds_self (R := Eq) (fun _ => rfl) _)).bind fun _ _ _ => ?_
  refine (corresponds_runBlocks hrayleigh hmie hkernel projection projection' observer _ _ blocks
    hgrids).bind fun grids grids' hgrids => ?_
  dsimp only
  rw [hcomplete grids grids' hgrids]
  split
  · exact Run.corresponds_throw _
  · refine (Run.corresponds_state (R := fun _ _ => True) fun _ _ => trivial).bind fun _ _ _ => ?_
    refine (Run.corresponds_note _ _).bind fun _ _ _ => ?_
    exact Run.corresponds_pure ⟨grids, grids', hgrids, ⟨rfl, rfl, rfl⟩, rfl, rfl, rfl⟩

end PassPlan

end Airlight
