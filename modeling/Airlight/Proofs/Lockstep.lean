import Airlight.Proofs.GridContents
import Airlight.Proofs.KernelSteps
import Airlight.Proofs.ListedDensities
import Airlight.Proofs.Projection

/-!
# Grids in step

A call of the kernel writes to two grids, one after the other, and takes nothing back. The second
write is refused for the same voxels as the first one, as long as the same voxels of both grids have
been written. So each call leaves the grids in step, and one that fails leaves them as they were,
with two exceptions: the light of the aerosols can be no spectrum for each voxel, and the light can
be impossible to project.

## Main definitions

* `ScatterGrids.InStep` — the same voxels of both grids have been written.
* `KernelCall` — a call of the kernel on a voxel or on a block.
-/

namespace Airlight

open Grid Texture

variable {α : Type}

namespace Texture.VoxelGrid

variable {φ : Type} {n : Nat} {g g' : VoxelGrid α n} {voxels : List Voxel}

/-- Whether voxels are refused depends on the sizes of a grid and on what has been written only. -/
theorem refusal?_congr (hshape : g.shape = g'.shape)
    (hread : ∀ v, (g.read v).isSome = (g'.read v).isSome) :
    g.refusal? (φ := φ) voxels = g'.refusal? voxels := by
  simp only [refusal?, hshape, hread]

/-- Voxels that are not refused lie in the grid. -/
theorem contains_of_refusal? (h : g.refusal? (φ := φ) voxels = none) :
    ∀ v ∈ voxels, g.shape.contains v = true := by
  rcases refusal?_cases (φ := φ) g voxels with ⟨-, hsome⟩ | ⟨hinside, -⟩
  · cases h.symm.trans hsome
  · exact hinside

end Texture.VoxelGrid

/-! ## Two grids -/

namespace ScatterGrids

variable {grids : ScatterGrids α} {store : α → α} {voxels : List Voxel}
  {scattered : ScatteredArrays α}

/-- Both grids have the same sizes, and the same voxels of them have been written. -/
structure InStep (grids : ScatterGrids α) : Prop where
  shape_eq : grids.rayleigh.shape = grids.mie.shape
  isSome_read : ∀ v, (grids.rayleigh.read v).isSome = (grids.mie.read v).isSome

theorem isSome_read_fill_rayleigh {v : Voxel} (hv : v ∈ voxels)
    (hinside : ∀ v ∈ voxels, grids.rayleigh.shape.contains v = true)
    (hsize : scattered.rayleigh.data.size = voxels.length) :
    ((grids.fill store voxels scattered).rayleigh.read v).isSome = true := by
  refine (VoxelGrid.isSome_read_fill store (fun entry hentry => ?_) v).mpr (.inl ?_)
  · exact hinside _ (List.of_mem_zip hentry).1
  · rwa [List.map_fst_zip (by simp [hsize])]

theorem InStep.fill (h : grids.InStep)
    (hinside : ∀ v ∈ voxels, grids.rayleigh.shape.contains v = true)
    (hrayleigh : scattered.rayleigh.data.size = voxels.length)
    (hmie : scattered.mie.data.size = voxels.length) :
    (grids.fill store voxels scattered).InStep := by
  refine ⟨h.shape_eq, fun v => Bool.eq_iff_iff.mpr ?_⟩
  have hfst : ∀ values : Tensor (Spectrum α), values.data.size = voxels.length →
      (voxels.zip values.data.toList).map Prod.fst = voxels := fun values hsize =>
    List.map_fst_zip (by simp [hsize])
  have hentries : ∀ values : Tensor (Spectrum α), ∀ entry ∈ voxels.zip values.data.toList,
      grids.rayleigh.shape.contains entry.1 = true := fun values entry hentry =>
    hinside _ (List.of_mem_zip hentry).1
  have hfirst : ((grids.fill store voxels scattered).rayleigh.read v).isSome = true ↔
      v ∈ voxels ∨ (grids.rayleigh.read v).isSome = true := by
    have hread := VoxelGrid.isSome_read_fill store (hentries scattered.rayleigh) v
    rwa [hfst _ hrayleigh] at hread
  have hsecond : ((grids.fill store voxels scattered).mie.read v).isSome = true ↔
      v ∈ voxels ∨ (grids.mie.read v).isSome = true := by
    have hread := VoxelGrid.isSome_read_fill (g := grids.mie) store
      (h.shape_eq ▸ hentries scattered.mie) v
    rwa [hfst _ hmie] at hread
  rw [hfirst, hsecond, h.isSome_read v]

end ScatterGrids

variable [Scalar α] [Inhabited α] {β : Type}

namespace Kernel

variable {k : Kernel α} {voxels : Tensor Voxel} {scattered : ScatteredArrays α}

/-- What the kernel leaves of grids that are in step: they are as they were, or the light of all
voxels has been written to both and only its projection can fail. -/
theorem run_cases {grids : ScatterGrids α} (h : grids.InStep) (k : Kernel α)
    (hlayers : ∀ layer ∈ k.atmosphere.mieDensity, layer.NumberCoefficients) (store : α → α)
    (project : ScatteredArrays α → Except (Failure α) β) (voxels : Tensor Voxel) :
    (∃ failure, (k.run store project voxels).run grids = (.error failure, grids)) ∨
      ∃ scattered after, after.InStep ∧
        (k.run store project voxels).run grids = (project scattered, after) := by
  rcases hevaluate : k.evaluate voxels with failure | scattered
  · exact .inl ⟨failure, run_of_evaluate_error hevaluate store project grids⟩
  rw [run_of_evaluate hevaluate]
  rcases hrayleigh : GridStep.refusal? grids.rayleigh voxels.data.toList scattered.rayleigh with
    _ | failure
  · obtain ⟨hvoxels, hsize⟩ := GridStep.refusal?_eq_none_iff.mp hrayleigh
    have hsize' : scattered.mie.data.size = voxels.data.toList.length :=
      (size_mie_of_evaluate hevaluate hlayers).trans Array.length_toList.symm
    -- the second write is refused for the same voxels as the first one
    have hmie : GridStep.refusal? grids.mie voxels.data.toList scattered.mie = none :=
      GridStep.refusal?_eq_none_iff.mpr
        ⟨(VoxelGrid.refusal?_congr h.shape_eq h.isSome_read).symm.trans hvoxels, hsize'⟩
    rw [hmie]
    exact .inr ⟨scattered, _, h.fill (VoxelGrid.contains_of_refusal? hvoxels) hsize hsize', rfl⟩
  · exact .inl ⟨failure, rfl⟩

end Kernel

/-! ## Calls -/

/-- A call of the kernel on a voxel or on a block of voxels, given by their coordinates, with the
matrix that projects their light. -/
inductive KernelCall (α : Type)
  | voxel (k : Kernel α) (matrix : Tensor α) (coordinates : Tensor Int)
  | block (k : Kernel α) (matrix : Tensor α) (coordinates : Tensor Int)

namespace KernelCall

omit [Scalar α] [Inhabited α] in
/-- The kernel that is called. -/
def kernel : KernelCall α → Kernel α
  | voxel k _ _ => k
  | block k _ _ => k

omit [Scalar α] [Inhabited α] in
/-- The matrix that projects the light. -/
def matrix : KernelCall α → Tensor α
  | voxel _ matrix _ => matrix
  | block _ matrix _ => matrix

/-- Makes the call: what it gives, and what it leaves of the grids. -/
def on (store : α → α) (grids : ScatterGrids α) :
    KernelCall α → Except (Failure α) (Tensor α × Tensor α) × ScatterGrids α
  | voxel k matrix coordinates => (k.runAt store matrix coordinates).run grids
  | block k matrix coordinates => (k.runOn store matrix coordinates).run grids

/-- The aerosols of the atmosphere have layers with numbers as coefficients. -/
def HasNumbers (call : KernelCall α) : Prop :=
  ∀ layer ∈ call.kernel.atmosphere.mieDensity, layer.NumberCoefficients

variable {call : KernelCall α} {store : α → α} {grids : ScatterGrids α}

/-- A call for a voxel that has not been written: one spectrum of the molecules is written, and then
the light of the aerosols is refused unless it is one spectrum, too. -/
theorem on_voxel_of_blank (h : grids.InStep) {k : Kernel α} {v : Voxel}
    (hindices : ∀ c ∈ v.coordinates, Tensor.isIndex c = true)
    (hinside : grids.rayleigh.shape.contains v = true) (hblank : grids.rayleigh.read v = none)
    {scattered : ScatteredArrays α} (hevaluate : k.evaluate (.single v) = .ok scattered)
    (hsize : scattered.rayleigh.data.size = 1) (store : α → α) (matrix : Tensor α) :
    (voxel k matrix (.row v.coordinates.toList)).on store grids =
      if scattered.mie.data.size = 1 then
        (Kernel.luminances matrix scattered, grids.fill store [v] scattered)
      else (.error (.shapes (.unfit (scattered.mie.shape ++ [4]) [1, 4])),
        ⟨(grids.fill store [v] scattered).rayleigh, grids.mie⟩) := by
  have hrefusal : grids.rayleigh.refusal? (φ := α) [v] = none := by
    simp [VoxelGrid.refusal?, hinside, hblank]
  have hrefusal' : grids.mie.refusal? (φ := α) [v] = none :=
    (VoxelGrid.refusal?_congr h.shape_eq h.isSome_read).symm.trans hrefusal
  have hrayleigh : GridStep.refusal? grids.rayleigh [v] scattered.rayleigh = none :=
    GridStep.refusal?_eq_none_iff.mpr ⟨hrefusal, hsize⟩
  have hmie : GridStep.refusal? grids.mie [v] scattered.mie =
      if scattered.mie.data.size = 1 then none
      else some (.shapes (.unfit (scattered.mie.shape ++ [4]) [1, 4])) := by
    rw [GridStep.refusal?, hrefusal', Option.none_or]
    rfl
  have hrun := k.run_of_evaluate hevaluate store (Kernel.luminances matrix) grids
  simp only [Tensor.data_single, hrayleigh, hmie] at hrun
  rw [on, Kernel.runAt, Voxel.ofTensor_coordinates hindices, GridStep.lift_ok_bind]
  refine Eq.trans hrun ?_
  split_ifs <;> rfl

/-- What a call leaves of grids that are in step: they are as they were, or they are in step again
and only the projection of the light can have failed. -/
theorem on_cases (h : grids.InStep) (hnumbers : call.HasNumbers) (store : α → α) :
    (∃ failure, call.on store grids = (.error failure, grids)) ∨
      ∃ scattered after, after.InStep ∧
        call.on store grids = (Kernel.luminances call.matrix scattered, after) := by
  cases call with
  | voxel k matrix coordinates =>
    simp only [on, Kernel.runAt, KernelCall.matrix]
    cases hvoxels : (Voxel.ofTensor coordinates : Except (Failure α) (Tensor Voxel)) with
    | error failure => exact .inl ⟨failure, rfl⟩
    | ok voxels =>
      rw [GridStep.lift_ok_bind]
      split_ifs
      · exact k.run_cases h hnumbers store (Kernel.luminances matrix) voxels
      · -- surplus coordinates are noticed after the evaluation and before the first write
        cases hevaluate : k.evaluate voxels with
        | error failure => exact .inl ⟨failure, rfl⟩
        | ok scattered => exact .inl ⟨_, rfl⟩
  | block k matrix coordinates =>
    simp only [on, Kernel.runOn, KernelCall.matrix]
    cases hindices : (coordinates.indices : Except (Failure α) (Tensor Int)) with
    | error failure => exact .inl ⟨failure, rfl⟩
    | ok rows =>
      rw [GridStep.lift_ok_bind]
      split
      · cases hvoxels : (Voxel.ofTensor rows : Except (Failure α) (Tensor Voxel)) with
        | error failure => exact .inl ⟨failure, rfl⟩
        | ok voxels =>
          rw [GridStep.lift_ok_bind]
          exact k.run_cases h hnumbers store (Kernel.luminances matrix) voxels
      · exact .inl ⟨_, rfl⟩

/-- A call leaves grids in step. -/
theorem inStep_on (h : grids.InStep) (hnumbers : call.HasNumbers) (store : α → α) :
    (call.on store grids).2.InStep := by
  rcases on_cases h hnumbers store with ⟨failure, hon⟩ | ⟨scattered, after, hafter, hon⟩
  · rw [hon]
    exact h
  · rw [hon]
    exact hafter

/-- A call that fails with a matrix of four columns leaves the grids as they were. -/
theorem on_eq_of_error (h : grids.InStep) (hnumbers : call.HasNumbers) {failure : Failure α}
    (hfailed : (call.on store grids).1 = .error failure) :
    (call.on store grids).2 = grids ∨ ∀ n, call.matrix.shape ≠ [n, 4] := by
  rcases on_cases h hnumbers store with ⟨_, hon⟩ | ⟨scattered, after, -, hon⟩
  · rw [hon]
    exact .inl rfl
  · refine .inr fun n hmatrix => ?_
    obtain ⟨rayleigh, hrayleigh⟩ := Colour.exists_project hmatrix scattered.rayleigh
    obtain ⟨mie, hmie⟩ := Colour.exists_project hmatrix scattered.mie
    rw [hon, Kernel.luminances, hrayleigh, hmie] at hfailed
    cases hfailed

end KernelCall

namespace ScatterGrids

variable {store : α → α} {grids : ScatterGrids α} {calls : List (KernelCall α)}

/-- The grids after some calls, one after another. -/
def after (store : α → α) (grids : ScatterGrids α) (calls : List (KernelCall α)) :
    ScatterGrids α :=
  calls.foldl (fun grids call => (call.on store grids).2) grids

theorem after_take_succ {i : Nat} {call : KernelCall α} (hcall : calls[i]? = some call) :
    grids.after store (calls.take (i + 1)) =
      (call.on store (grids.after store (calls.take i))).2 := by
  rw [after, List.take_add_one, hcall, List.foldl_append]
  rfl

/-- Calls leave grids in step. -/
theorem InStep.after (h : grids.InStep) (hnumbers : ∀ call ∈ calls, call.HasNumbers) :
    (grids.after store calls).InStep := by
  induction calls generalizing grids with
  | nil => exact h
  | cons call calls ih =>
    obtain ⟨hcall, hcalls⟩ := List.forall_mem_cons.mp hnumbers
    exact ih (KernelCall.inStep_on h hcall store) hcalls

/-- Grids that are in step stay so over all calls, and each call that fails leaves both as they were
or could not project the light because its matrix does not have four columns. -/
theorem inStep_after_calls (h : grids.InStep) (hnumbers : ∀ call ∈ calls, call.HasNumbers)
    (store : α → α) (i : Nat) :
    (grids.after store (calls.take i)).InStep ∧
      ∀ call failure, calls[i]? = some call →
        (call.on store (grids.after store (calls.take i))).1 = .error failure →
          grids.after store (calls.take (i + 1)) = grids.after store (calls.take i) ∨
            ∀ n, call.matrix.shape ≠ [n, 4] := by
  have hbefore : (grids.after store (calls.take i)).InStep :=
    h.after fun call hcall => hnumbers call (List.mem_of_mem_take hcall)
  refine ⟨hbefore, fun call failure hcall hfailed => ?_⟩
  rw [after_take_succ hcall]
  exact KernelCall.on_eq_of_error hbefore (hnumbers call (List.mem_of_getElem? hcall)) hfailed

/-! ## Around the Earth -/

omit [Scalar α] [Inhabited α] in
theorem inStep_empty (shape : GridShape) : InStep (⟨.empty shape, .empty shape⟩ : ScatterGrids α) :=
  ⟨rfl, fun v => by simp only [VoxelGrid.read_empty]⟩

/-- The second call for a voxel leaves the grids as the first one has left them, if it fails. -/
theorem inStep_after_calls_earth :
    let k : Kernel ℝ := ⟨.standard, .earth, .constant (Spectrum.constant 1), .integer 50⟩
    let call : KernelCall ℝ := .voxel k (.ofFn [4, 4] fun _ => 1) (.row [0, 0, 0])
    let grids : ScatterGrids ℝ := ⟨.empty Extents.standard.shape, .empty Extents.standard.shape⟩
    grids.InStep ∧ (∀ call' ∈ [call, call], call'.HasNumbers) ∧ (grids.after id [call]).InStep ∧
      ∀ failure, (call.on id (grids.after id [call])).1 = .error failure →
        grids.after id [call, call] = grids.after id [call] := by
  intro k call grids
  have hlayers : ∀ layer ∈ k.atmosphere.mieDensity, layer.NumberCoefficients :=
    Parameters.regular_earth.numberCoefficients .mieDensity
  have hnumbers : ∀ call' ∈ [call, call], call'.HasNumbers := by
    simpa [call, KernelCall.HasNumbers, KernelCall.kernel] using hlayers
  obtain ⟨hfirst, hsecond⟩ := inStep_after_calls (inStep_empty _) hnumbers id 1
  refine ⟨inStep_empty _, hnumbers, hfirst, fun failure hfailed => ?_⟩
  exact (hsecond call failure rfl hfailed).resolve_right fun hmatrix => hmatrix 4 rfl

/-- A call that cannot project the light has already written it, and a call for which the light of
the aerosols comes as two spectra for one voxel has written that of the molecules. -/
theorem failed_calls_change_grids :
    let extents : Extents := { nuSize := 2, muSSize := 2, muSize := 4, rSize := 2 }
    let k : Kernel ℝ := ⟨extents, .earth, .constant (Spectrum.constant 1), .integer 2⟩
    let listed : Kernel ℝ :=
      { k with atmosphere := { Parameters.earth with mieDensity := [.listed [1, 1]] } }
    let unprojected : KernelCall ℝ := .voxel k (.ofFn [2, 2] fun _ => 1) (.row [0, 0, 0])
    let uneven : KernelCall ℝ := .voxel listed (.ofFn [4, 4] fun _ => 1) (.row [0, 0, 0])
    let grids : ScatterGrids ℝ := ⟨.empty extents.shape, .empty extents.shape⟩
    grids.InStep ∧ listed.atmosphere.validate = .ok () ∧
      ((∃ failure, (unprojected.on id grids).1 = .error failure) ∧
        (unprojected.on id grids).2 ≠ grids) ∧
      (∃ failure, (uneven.on id grids).1 = .error failure) ∧
        ¬ (uneven.on id grids).2.InStep := by
  intro extents k listed unprojected uneven grids
  have hvalid : listed.atmosphere.validate = .ok () := Parameters.validate_earth
  have hanswers := Oracle.answers_constant (Spectrum.constant (1 : ℝ))
  let origin : Voxel := ⟨0, 0, 0⟩
  have hindices : ∀ c ∈ origin.coordinates, Tensor.isIndex c = true := by decide
  have hinside : extents.shape.contains origin = true := by decide
  have hblank : ∀ shape, (VoxelGrid.empty shape : VoxelGrid ℝ 4).read origin = none := fun _ =>
    VoxelGrid.read_empty _
  have hwritten : ∀ scattered : ScatteredArrays ℝ, scattered.rayleigh.data.size = 1 →
      ((grids.fill id [origin] scattered).rayleigh.read origin).isSome = true := fun _ hsize =>
    isSome_read_fill_rayleigh (List.mem_singleton_self _)
      (fun _ hv => List.mem_singleton.mp hv ▸ hinside) hsize
  refine ⟨inStep_empty _, hvalid, ?_, ?_⟩
  · obtain ⟨light, hlight⟩ := k.exists_light Parameters.validate_earth Parameters.regular_earth rfl
      (by decide : (1 : Int) ≤ 2) hanswers
    have hon : unprojected.on id grids = _ := (KernelCall.on_voxel_of_blank (inStep_empty _)
      hindices hinside (hblank _) (hlight origin hinside) rfl id _).trans (if_pos rfl)
    rw [hon]
    refine ⟨⟨_, rfl⟩, fun heq => ?_⟩
    have hread := hwritten ⟨.single (light origin).rayleigh, .single (light origin).mie⟩ rfl
    have hsame := congrArg (fun g : ScatterGrids ℝ => (g.rayleigh.read origin).isSome) heq
    cases hread.symm.trans (hsame.trans (congrArg Option.isSome (hblank _)))
  · have hlisted : listed.atmosphere.mieDensity = [.listed [1, 1]] := rfl
    obtain ⟨scattered, hscattered, hfirst, hsecond⟩ := listed.exists_light_listed hvalid
      (Profile.stack?_regular (Parameters.regular_earth .rayleighDensity)) hlisted rfl
      (by decide : (1 : Int) ≤ 2) hanswers hinside
    have huneven : scattered.mie.data.size ≠ 1 := by
      rw [hsecond]
      decide
    have hon : uneven.on id grids = _ := (KernelCall.on_voxel_of_blank (inStep_empty _) hindices
      hinside (hblank _) hscattered hfirst id _).trans (if_neg huneven)
    rw [hon]
    refine ⟨⟨_, rfl⟩, fun hstep => ?_⟩
    have hsame := hstep.isSome_read origin
    cases (hwritten scattered hfirst).symm.trans (hsame.trans (congrArg Option.isSome (hblank _)))

end ScatterGrids

end Airlight
