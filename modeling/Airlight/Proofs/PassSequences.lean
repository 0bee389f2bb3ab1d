import Airlight.Proofs.PassPairs
import Airlight.Proofs.SuccessfulPass

/-!
# Sequences of passes

A dispatcher makes one pass after another, each with a transmittance and a matrix of its own. The
running sums go on from pass to pass, while the two grids begin anew with each pass. A pass that
succeeds adds its luminance once to the sum at each voxel, so that over the real numbers the sums
hold the luminances of all passes. The grids of a pass do not depend on the passes before it.

## Main definitions

* `PassCall` — what is given to a single pass.
* `PassPlan.sumsAfter` — the running sums after some passes.
* `PassPlan.Succeed` — passes that succeed one after another.
* `PassPlan.Emits` — the projection and the light of a pass.
* `PassPlan.Accumulates` — what a pass that succeeds does to the sums and returns.
-/

namespace Airlight

open Colour Grid Texture

/-- What is given to a single pass. -/
structure PassCall (α : Type) where
  transmittance : Transmittance α
  matrix : Tensor α
  observer : Option (Observer α)

/-- Two passes are given the same, up to those who watch them. -/
def PassCall.Alike {α : Type} (call other : PassCall α) : Prop :=
  other.transmittance = call.transmittance ∧ other.matrix = call.matrix

/-- The two grids that belong to a single pass. -/
def TextureSet.deltas {α : Type} (t : TextureSet α) : Tensor α × Tensor α :=
  (t.deltaRayleigh, t.deltaMie)

namespace PassPlan

variable {α : Type} [Scalar α] [Inhabited α]

/-- Makes a pass that begins with given sums. -/
def pass (p : PassPlan α) (store : α → α) (sums : p.Sums) (call : PassCall α) :
    Except (Failure α) (TextureSet α) × Journal α p.Sums :=
  Run.start sums (p.run store call.transmittance call.matrix call.observer)

/-- The sums after some passes. -/
def sumsAfter (p : PassPlan α) (store : α → α) (sums : p.Sums) (calls : List (PassCall α)) :
    p.Sums :=
  calls.foldl (fun sums call => (p.pass store sums call).2.state) sums

/-- Passes that succeed one after another. -/
def Succeed (p : PassPlan α) (store : α → α) : p.Sums → List (PassCall α) → Prop
  | _, [] => True
  | sums, call :: rest => (∃ textures, (p.pass store sums call).1 = .ok textures) ∧
      p.Succeed store (p.pass store sums call).2.state rest

/-- The luminance of a pass at a voxel is that of its light there by its projection. -/
structure Emits (p : PassPlan α) (call : PassCall α) (projection : Projection α)
    (light : Voxel → Scattered α) : Prop where
  matrix : Projection.ofMatrix call.matrix = .ok projection
  light : p.Shines call.transmittance light

/-- A pass has added the luminance of its light to the sum at each voxel, returns its light in the
two grids and the new sums in the two others. -/
structure Accumulates (p : PassPlan α) (store : α → α) (projection : Projection α)
    (light : Voxel → Scattered α) (textures : TextureSet α) (sums sums' : p.Sums) : Prop where
  all : ∀ i c, (hi : i < p.extents.voxelCount) → (hc : c < 3) →
    sums'.scattering[i][c] =
      store (sums.scattering[i][c] + (projection.apply (light (p.extents.voxelAt i)).rayleigh)[c])
  aerosols : ∀ i c, (hi : i < p.extents.voxelCount) → (hc : c < 3) →
    sums'.singleMie[i][c] =
      store (sums.singleMie[i][c] + (projection.apply (light (p.extents.voxelAt i)).mie)[c])
  rayleigh : ∀ i j l c, i < p.extents.width → j < p.extents.height → l < p.extents.depth →
    (hc : c < 4) →
      textures.deltaRayleigh.get? [l, j, i, c] = some (store (light ⟨i, j, l⟩).rayleigh[c])
  mie : ∀ i j l c, i < p.extents.width → j < p.extents.height → l < p.extents.depth →
    (hc : c < 4) → textures.deltaMie.get? [l, j, i, c] = some (store (light ⟨i, j, l⟩).mie[c])
  scattering : textures.scattering =
    LuminanceSums.toTensor p.extents.shape.sizes sums'.scattering
  singleMie : textures.singleMie = LuminanceSums.toTensor p.extents.shape.sizes sums'.singleMie

variable {p : PassPlan α} {store : α → α} {sums : p.Sums} {call : PassCall α}
  {projection : Projection α} {light : Voxel → Scattered α} {textures : TextureSet α}

/-! ## Single passes -/

theorem exists_emits_of_pass (h : (p.pass store sums call).1 = .ok textures) :
    ∃ projection light, p.Emits call projection light := by
  obtain ⟨projection, light, hmatrix, hlight, -⟩ :=
    (p.ensures_run store call.transmittance call.matrix call.observer sums).start h
  exact ⟨projection, light, hmatrix, hlight⟩

/-- What a pass returns and leaves follows from its projection and its light. -/
theorem pass_eq (h : (p.pass store sums call).1 = .ok textures)
    (hemits : p.Emits call projection light) :
    textures = p.textures store projection light call.transmittance sums ∧
      (p.pass store sums call).2.state =
        p.sumsTo store projection light sums p.extents.voxelCount := by
  obtain ⟨projection', light', hmatrix, hlight, htextures, hsums⟩ :=
    (p.ensures_run store call.transmittance call.matrix call.observer sums).start h
  cases hmatrix.symm.trans hemits.matrix
  have hsame := fun i (hi : i < p.extents.voxelCount) => hlight.lightAt_eq hemits.light hi
  refine ⟨htextures.trans ?_, hsums.trans (sumsTo_congr hsame sums)⟩
  rw [PassPlan.textures, gridsTo_congr hsame, sumsTo_congr hsame]
  rfl

theorem accumulates_of_pass (h : (p.pass store sums call).1 = .ok textures)
    (hemits : p.Emits call projection light) :
    p.Accumulates store projection light textures sums (p.pass store sums call).2.state := by
  obtain ⟨rfl, hsums⟩ := pass_eq h hemits
  rw [hsums]
  constructor
  · intro i c hi hc
    simp [sumsTo, hi, lightAt]
  · intro i c hi hc
    simp [sumsTo, hi, lightAt]
  · exact fun i j l c hi hj hl hc => (get?_textures_grids sums hi hj hl hc).1
  · exact fun i j l c hi hj hl hc => (get?_textures_grids sums hi hj hl hc).2
  · rfl
  · rfl

/-- The grids of a pass, or the failure that it ends with, do not depend on the sums. -/
theorem steady_run (x : Transmittance α) (matrix : Tensor α) (observer : Option (Observer α)) :
    (p.run store x matrix observer).Steady TextureSet.deltas := by
  have hkernel : (p.kernel x).Alike (p.kernel x) store Eq := by
    rintro voxels grids _ rfl
    exact ⟨corresponds_self (fun _ => ⟨rfl, rfl⟩) _, rfl⟩
  have hrun := corresponds_run (p := p) (a := p.atmosphere) rfl rfl hkernel (fun _ _ => rfl)
    (fun _ _ => congrArg ScatterGrids.isComplete) (rfl : matrix.shape = matrix.shape) observer
  refine Run.Corresponds.steady (hrun.mono ?_)
  rintro t t' ⟨grids, _, rfl, h, h'⟩
  rw [TextureSet.deltas, TextureSet.deltas, h.deltaRayleigh, h.deltaMie, h'.deltaRayleigh,
    h'.deltaMie]

/-! ## Passes one after another -/

theorem sumsAfter_append (before after : List (PassCall α)) :
    p.sumsAfter store sums (before ++ after) =
      p.sumsAfter store (p.sumsAfter store sums before) after :=
  List.foldl_append

theorem succeed_append {before after : List (PassCall α)} :
    p.Succeed store sums (before ++ after) ↔
      p.Succeed store sums before ∧ p.Succeed store (p.sumsAfter store sums before) after := by
  induction before generalizing sums with
  | nil => simp [Succeed, sumsAfter]
  | cons call rest ih =>
    rw [List.cons_append, Succeed, Succeed, ih, and_assoc]
    rfl

/-- Passes succeed one after another if each of them does, whatever the sums are. -/
theorem succeed_of_forall {calls : List (PassCall α)}
    (h : ∀ call ∈ calls, ∀ sums, ∃ textures, (p.pass store sums call).1 = .ok textures)
    (sums : p.Sums) : p.Succeed store sums calls := by
  induction calls generalizing sums with
  | nil => trivial
  | cons call rest ih =>
    obtain ⟨hcall, hrest⟩ := List.forall_mem_cons.mp h
    exact ⟨hcall sums, ih hrest _⟩

theorem Emits.congr {other : PassCall α} (h : p.Emits call projection light)
    (halike : call.Alike other) : p.Emits other projection light :=
  ⟨halike.2 ▸ h.matrix, halike.1 ▸ h.light⟩

/-- Over the real numbers the sums after some passes are those before them and the luminances of all
passes. -/
theorem sumsAfter_eq_sum {p : PassPlan ℝ} {sums : p.Sums} {calls : List (PassCall ℝ)}
    (projection : Nat → Projection ℝ) (light : Nat → Voxel → Scattered ℝ)
    (hsucceed : p.Succeed id sums calls)
    (hemits : ∀ k call, calls[k]? = some call → p.Emits call (projection k) (light k))
    {i c : Nat} (hi : i < p.extents.voxelCount) (hc : c < 3) :
    (p.sumsAfter id sums calls).scattering[i][c] = sums.scattering[i][c] +
        ∑ k ∈ Finset.range calls.length,
          ((projection k).apply (light k (p.extents.voxelAt i)).rayleigh)[c] ∧
      (p.sumsAfter id sums calls).singleMie[i][c] = sums.singleMie[i][c] +
        ∑ k ∈ Finset.range calls.length,
          ((projection k).apply (light k (p.extents.voxelAt i)).mie)[c] := by
  -- from pass to pass, the last one at the end of the list
  induction calls using List.reverseRecOn with
  | nil => simp [sumsAfter]
  | append_singleton earlier call ih =>
    obtain ⟨hearlier, ⟨textures, hpass⟩, -⟩ := succeed_append.mp hsucceed
    obtain ⟨hall, haerosols⟩ := ih hearlier fun k other hother => by
      obtain ⟨hk, -⟩ := List.getElem?_eq_some_iff.mp hother
      exact hemits k other (by rw [List.getElem?_append_left hk, hother])
    have hlast := hemits earlier.length call (by simp)
    have hstep := accumulates_of_pass hpass hlast
    have hsums : p.sumsAfter id sums (earlier ++ [call]) =
        (p.pass id (p.sumsAfter id sums earlier) call).2.state := sumsAfter_append _ _
    rw [hsums, hstep.all i c hi hc, hstep.aerosols i c hi hc, hall, haerosols]
    simp only [id, List.length_append, List.length_singleton, Finset.sum_range_succ, add_assoc,
      and_self]

/-- Passes that are alike leave in fresh sums a multiple of the luminance of one of them. -/
theorem sumsAfter_of_alike {p : PassPlan ℝ} {call : PassCall ℝ} {projection : Projection ℝ}
    {light : Voxel → Scattered ℝ} {calls : List (PassCall ℝ)}
    (hemits : p.Emits call projection light) (halike : ∀ other ∈ calls, call.Alike other)
    (hsucceed : p.Succeed id .zero calls) {i c : Nat} (hi : i < p.extents.voxelCount)
    (hc : c < 3) :
    (p.sumsAfter id .zero calls).scattering[i][c] =
        (calls.length : ℝ) * (projection.apply (light (p.extents.voxelAt i)).rayleigh)[c] ∧
      (p.sumsAfter id .zero calls).singleMie[i][c] =
        (calls.length : ℝ) * (projection.apply (light (p.extents.voxelAt i)).mie)[c] := by
  have hsums := sumsAfter_eq_sum (fun _ => projection) (fun _ => light) hsucceed
    (fun k other hother => hemits.congr (halike other (List.mem_of_getElem? hother))) hi hc
  have hnone : (0.0 : ℝ) = 0 := by norm_num
  simpa [LuminanceSums.zero, hnone] using hsums

/-- In a sequence of passes that succeed, each pass adds the luminance of its light once to the sum
at each voxel, kept with the precision of the sums, and the new sums are two of its textures. The
light is what the kernel gives for the voxel, alone where it can be evaluated alone. The two other
grids hold the light and would be the same for any other sums, so that they do not depend on the
passes before. Over the real numbers the sums hold the luminances of all passes, and passes that are
alike leave in fresh sums a multiple of what the first of them has left. -/
theorem accumulation_of_passes :
    (∀ {α : Type} [Scalar α] [Inhabited α] (p : PassPlan α) (store : α → α) (sums : p.Sums)
      (earlier : List (PassCall α)) (call : PassCall α),
        p.Succeed store sums (earlier ++ [call]) → ∃ projection light textures,
          p.Emits call projection light ∧
          (∀ v own, p.extents.shape.contains v = true →
            (p.kernel call.transmittance).evaluate (.single v) =
              .ok ⟨.single own.rayleigh, .single own.mie⟩ → light v = own) ∧
          (p.pass store (p.sumsAfter store sums earlier) call).1 = .ok textures ∧
          p.Accumulates store projection light textures (p.sumsAfter store sums earlier)
            (p.sumsAfter store sums (earlier ++ [call])) ∧
          ∀ other, (p.pass store other call).1.map TextureSet.deltas = .ok textures.deltas) ∧
    (∀ (p : PassPlan ℝ) (sums : p.Sums) (calls : List (PassCall ℝ))
      (projection : Nat → Projection ℝ) (light : Nat → Voxel → Scattered ℝ),
        p.Succeed id sums calls →
        (∀ k call, calls[k]? = some call → p.Emits call (projection k) (light k)) →
          ∀ i c, (hi : i < p.extents.voxelCount) → (hc : c < 3) →
            (p.sumsAfter id sums calls).scattering[i][c] = sums.scattering[i][c] +
              ∑ k ∈ Finset.range calls.length,
                ((projection k).apply (light k (p.extents.voxelAt i)).rayleigh)[c] ∧
            (p.sumsAfter id sums calls).singleMie[i][c] = sums.singleMie[i][c] +
              ∑ k ∈ Finset.range calls.length,
                ((projection k).apply (light k (p.extents.voxelAt i)).mie)[c]) ∧
    ∀ (p : PassPlan ℝ) (call : PassCall ℝ) (calls : List (PassCall ℝ)),
      (∀ other ∈ calls, call.Alike other) → p.Succeed id .zero (call :: calls) →
        ∀ i c, (hi : i < p.extents.voxelCount) → (hc : c < 3) →
          (p.sumsAfter id .zero (call :: calls)).scattering[i][c] =
            ((calls.length + 1 : Nat) : ℝ) * (p.sumsAfter id .zero [call]).scattering[i][c] ∧
          (p.sumsAfter id .zero (call :: calls)).singleMie[i][c] =
            ((calls.length + 1 : Nat) : ℝ) * (p.sumsAfter id .zero [call]).singleMie[i][c] := by
  refine ⟨?_, fun p sums calls projection light hsucceed hemits i c hi hc =>
    sumsAfter_eq_sum projection light hsucceed hemits hi hc, ?_⟩
  · intro α _ _ p store sums earlier call hsucceed
    obtain ⟨-, ⟨textures, hpass⟩, -⟩ := succeed_append.mp hsucceed
    obtain ⟨projection, light, hemits⟩ := exists_emits_of_pass hpass
    have hsums : p.sumsAfter store sums (earlier ++ [call]) =
        (p.pass store (p.sumsAfter store sums earlier) call).2.state := sumsAfter_append _ _
    refine ⟨projection, light, textures, hemits, fun v own hv hown => hemits.light.light_eq hv hown,
      hpass, hsums ▸ accumulates_of_pass hpass hemits, fun other => ?_⟩
    have hsteady : (p.pass store other call).1.map TextureSet.deltas =
        (p.pass store (p.sumsAfter store sums earlier) call).1.map TextureSet.deltas :=
      steady_run call.transmittance call.matrix call.observer _ _
    rw [hsteady, hpass]
    rfl
  · intro p call calls halike hsucceed i c hi hc
    obtain ⟨⟨textures, hpass⟩, hrest⟩ := hsucceed
    obtain ⟨projection, light, hemits⟩ := exists_emits_of_pass hpass
    have hself : ∀ other ∈ [call], call.Alike other := List.forall_mem_singleton.mpr ⟨rfl, rfl⟩
    obtain ⟨hall, haerosols⟩ := sumsAfter_of_alike hemits
      (List.forall_mem_cons.mpr ⟨⟨rfl, rfl⟩, halike⟩) ⟨⟨textures, hpass⟩, hrest⟩ hi hc
    obtain ⟨hfirst, hfirst'⟩ := sumsAfter_of_alike hemits hself ⟨⟨textures, hpass⟩, trivial⟩ hi hc
    rw [hall, haerosols, hfirst, hfirst']
    simp

/-- Around the Earth, with all light surviving its way, two passes over the standard grid succeed,
the second adds to what the first has left, and both together leave twice as much as the first. -/
theorem accumulation_of_passes_earth :
    let p : PassPlan ℝ := ⟨.earth, .standard, .null, .integer 1000, .integer 50⟩
    let call : PassCall ℝ := ⟨.constant (Spectrum.constant 1), .ofFn [4, 4] fun _ => 1, none⟩
    p.Succeed id .zero [call, call] ∧
      ∃ projection light textures, p.Emits call projection light ∧
        p.Accumulates id projection light textures (p.sumsAfter id .zero [call])
          (p.sumsAfter id .zero [call, call]) ∧
        ∀ i c, (hi : i < p.extents.voxelCount) → (hc : c < 3) →
          (p.sumsAfter id .zero [call, call]).scattering[i][c] =
              ∑ _k ∈ Finset.range 2, (projection.apply (light (p.extents.voxelAt i)).rayleigh)[c] ∧
            (p.sumsAfter id .zero [call, call]).scattering[i][c] =
              ((1 + 1 : Nat) : ℝ) * (p.sumsAfter id .zero [call]).scattering[i][c] := by
  intro p call
  obtain ⟨light, hlight⟩ := (p.kernel (.constant (Spectrum.constant 1))).exists_light
    Parameters.validate_earth Parameters.regular_earth rfl (by decide : (1 : Int) ≤ 50)
    (Oracle.answers_constant (Spectrum.constant 1))
  have hlit : p.Lit call.transmittance light := lit_of_evaluate hlight
  have hsilent : ∀ o ∈ call.observer, o.Silent := nofun
  have hpass : ∀ sums, ∃ textures, (p.pass id sums call).1 = .ok textures := fun sums =>
    ⟨_, (yields_run id hlit (Projection.ofMatrix_constant 1) rfl (by decide) rfl checkRoom_standard
      hsilent sums).start_eq⟩
  have hsucceed : p.Succeed id .zero ([call] ++ [call]) :=
    succeed_of_forall (by simpa using hpass) .zero
  obtain ⟨hsteps, hsums, hmultiple⟩ := accumulation_of_passes
  obtain ⟨projection, light, textures, hemits, -, -, haccumulates, -⟩ :=
    hsteps p id .zero [call] call hsucceed
  refine ⟨hsucceed, projection, light, textures, hemits, haccumulates, fun i c hi hc => ⟨?_, ?_⟩⟩
  · have hboth : ∀ (k : Nat) other, ([call] ++ [call])[k]? = some other →
        p.Emits other projection light := by
      intro k other hother
      have hmem := List.mem_of_getElem? hother
      obtain rfl : other = call := by simpa using hmem
      exact hemits
    have hsum := (hsums p .zero ([call] ++ [call]) (fun _ => projection) (fun _ => light) hsucceed
      hboth i c hi hc).1
    have hnone : (0.0 : ℝ) = 0 := by norm_num
    simpa [LuminanceSums.zero, hnone] using hsum
  · have halike : ∀ other ∈ [call], call.Alike other :=
      List.forall_mem_singleton.mpr ⟨rfl, rfl⟩
    exact (hmultiple p call [call] halike hsucceed i c hi hc).1

end PassPlan

end Airlight
