import Airlight.Proofs.ChannelSelection
import Airlight.Proofs.KernelSteps
import Airlight.Proofs.PassPairs
import Airlight.Proofs.UnitIndependence

/-!
# Channels that do not mix

A precomputation goes through the same steps for two atmospheres that agree in a channel, and what
it stores of that channel is the same: in the table of the transmittance and in both grids of
scattered light. Only luminances mix channels.

## Main definitions

* `Parameters.AgreeIn` — two atmospheres agree on what the light in a channel depends on.
* `Tensor.AgreeIn` — two arrays whose last axis runs through channels agree in one of them.
* `TextureSet.AgreeIn` — the spectral textures of two sets agree in a channel.
-/

namespace Airlight

open Colour Grid Texture

variable {α : Type} {σ : Fin 4 → Fin 4} {c : Fin 4}

/-! ## Grids -/

namespace Texture.VoxelGrid

/-- The grid with selected channels in each cell. -/
def select (σ : Fin 4 → Fin 4) (g : VoxelGrid α 4) : VoxelGrid α 4 :=
  ⟨g.shape, g.cells.map (Option.map (Spectrum.select σ))⟩

theorem read_select (g : VoxelGrid α 4) (v : Voxel) :
    (g.select σ).read v = (g.read v).map (Spectrum.select σ) := by
  unfold read select
  split_ifs
  · rw [Vector.getElem?_map]
    cases g.cells[g.shape.position v]? <;> rfl
  · rfl

theorem refusal?_select {φ : Type} (g : VoxelGrid α 4) (voxels : List Voxel) :
    (g.select σ).refusal? (φ := φ) voxels = g.refusal? voxels := by
  unfold refusal?
  simp only [read_select, Option.isSome_map]
  rfl

theorem isComplete_select (g : VoxelGrid α 4) : (g.select σ).isComplete = g.isComplete := by
  simp [isComplete, select]

theorem fillCells_select (shape : GridShape) (store : α → α)
    (entries : List (Voxel × Spectrum α)) (cells : Vector (Option (Spectrum α)) shape.count) :
    fillCells shape store (entries.map (Prod.map id (Spectrum.select σ)))
        (cells.map (Option.map (Spectrum.select σ))) =
      (fillCells shape store entries cells).map (Option.map (Spectrum.select σ)) := by
  induction entries generalizing cells with
  | nil => rfl
  | cons entry rest ih =>
    obtain ⟨v, value⟩ := entry
    simp only [List.map_cons, Prod.map, id, fillCells, ← ih, Spectrum.map_select]
    rw [← Option.map_some, Vector.map_setIfInBounds]

/-- Each channel of a cell is filled by itself. -/
theorem fill_select (g : VoxelGrid α 4) (store : α → α) (voxels : List Voxel)
    (values : List (Spectrum α)) :
    (g.select σ).fill store (voxels.zip (values.map (Spectrum.select σ))) =
      (g.fill store (voxels.zip values)).select σ := by
  rw [List.zip_map_right]
  exact congrArg (VoxelGrid.mk g.shape) (fillCells_select g.shape store _ g.cells)

end Texture.VoxelGrid

namespace ScatterGrids

/-- The grids with selected channels in each cell. -/
def select (σ : Fin 4 → Fin 4) (g : ScatterGrids α) : ScatterGrids α :=
  ⟨g.rayleigh.select σ, g.mie.select σ⟩

theorem isComplete_select (g : ScatterGrids α) : (g.select σ).isComplete = g.isComplete := by
  simp only [isComplete, select, VoxelGrid.isComplete_select]

end ScatterGrids

/-! ## The kernel -/

theorem GridStep.refusal?_select (g : VoxelGrid α 4) (voxels : List Voxel)
    (values : Tensor (Spectrum α)) :
    refusal? (g.select σ) voxels (values.map (Spectrum.select σ)) = refusal? g voxels values := by
  simp only [refusal?, VoxelGrid.refusal?_select, Tensor.data_map, Tensor.shape_map,
    Array.size_map]

theorem ScatterGrids.fill_select (grids : ScatterGrids α) (store : α → α) (voxels : List Voxel)
    (scattered : ScatteredArrays α) :
    (grids.select σ).fill store voxels (scattered.select σ) =
      (grids.fill store voxels scattered).select σ := by
  simp only [fill, select, ScatteredArrays.select, Tensor.data_map, Array.toList_map,
    VoxelGrid.fill_select]

namespace Kernel

variable [Scalar α] [Inhabited α]

/-- The kernel for selected channels of its atmosphere and its transmittance. -/
def select (σ : Fin 4 → Fin 4) (k : Kernel α) : Kernel α :=
  { k with atmosphere := k.atmosphere.select σ, transmittance := k.transmittance.select σ }

theorem evaluate_select (k : Kernel α) (voxels : Tensor Voxel) :
    (k.select σ).evaluate voxels = ScatteredArrays.select σ <$> k.evaluate voxels :=
  Parameters.scatterInto_select k.atmosphere k.transmittance k.sampleCount _

/-- The kernel for selected channels does to these channels of the grids what the kernel does. -/
theorem run_select (k : Kernel α) (store : α → α) (voxels : Tensor Voxel)
    (grids : ScatterGrids α) :
    ((k.select σ).run store .ok voxels).run (grids.select σ) =
      Prod.map (Except.map (ScatteredArrays.select σ)) (ScatterGrids.select σ)
        ((k.run store .ok voxels).run grids) := by
  have hevaluate' := evaluate_select (σ := σ) k voxels
  cases hevaluate : k.evaluate voxels with
  | error failure =>
    rw [hevaluate] at hevaluate'
    rw [run_of_evaluate_error hevaluate, run_of_evaluate_error hevaluate']
    rfl
  | ok scattered =>
    rw [hevaluate] at hevaluate'
    have hrayleigh := GridStep.refusal?_select (σ := σ) grids.rayleigh voxels.data.toList
      scattered.rayleigh
    have hmie := GridStep.refusal?_select (σ := σ) grids.mie voxels.data.toList scattered.mie
    rw [run_of_evaluate hevaluate, run_of_evaluate hevaluate', ScatterGrids.fill_select]
    simp only [ScatterGrids.select, ScatteredArrays.select, hrayleigh, hmie]
    split <;> rfl

/-- Kernels with the same selected channels keep grids with the same selected channels so. -/
theorem alike_of_select_eq {k k' : Kernel α} (h : k.select σ = k'.select σ) (store : α → α) :
    k.Alike k' store fun g g' => g.select σ = g'.select σ := by
  intro voxels g g' hg
  have hrun := (run_select k store voxels g).symm.trans
    ((congrArg₂ (fun k g => (Kernel.run k store .ok voxels).run g) h hg).trans
      (run_select k' store voxels g'))
  obtain ⟨hresult, hgrids⟩ := Prod.mk.inj hrun
  refine ⟨(corresponds_iff_map_eq.mpr hresult).mono fun s s' hs => ?_, hgrids⟩
  exact ⟨congrArg (fun s => s.rayleigh.shape) hs, congrArg (fun s => s.mie.shape) hs⟩

end Kernel

/-! ## Textures -/

/-- Two arrays whose last axis runs through channels have the same sizes and in channel `c` the same
values. -/
def Tensor.AgreeIn (c : Fin 4) (s t : Tensor α) : Prop :=
  s.shape = t.shape ∧ ∀ index, s.get? (index ++ [c.val]) = t.get? (index ++ [c.val])

/-- Two sets have a table of the transmittance and two grids of scattered light that agree in
channel `c`. -/
structure TextureSet.AgreeIn (c : Fin 4) (t t' : TextureSet α) : Prop where
  transmittance : ∃ table table', t.transmittance = some table ∧ t'.transmittance = some table' ∧
    table.AgreeIn c table'
  deltaRayleigh : t.deltaRayleigh.AgreeIn c t'.deltaRayleigh
  deltaMie : t.deltaMie.AgreeIn c t'.deltaMie

/-- Spectra with the same value in a channel form arrays that agree in it. -/
theorem Tensor.agreeIn_ofVectors [Inhabited α] (shape : List Nat) {xs ys : Array (Spectrum α)}
    (h : xs.map (Spectrum.select fun _ => c) = ys.map (Spectrum.select fun _ => c)) :
    (ofVectors shape xs).AgreeIn c (ofVectors shape ys) := by
  refine ⟨rfl, fun index => ?_⟩
  have hvalue : ∀ k : Nat, xs[k]?.map (·[c.val]) = ys[k]?.map (·[c.val]) := by
    intro k
    have hspectrum := congrArg (·[k]?.map (·[c.val])) h
    simpa [Function.comp_def, Spectrum.getElem_select] using hspectrum
  simp only [get?_ofVectors_concat shape _ index c.isLt, hvalue]

theorem Texture.Table.agreeIn_toTensor [Inhabited α] {t t' : Table α 4}
    (h : t.select (fun _ => c) = t'.select fun _ => c) : t.toTensor.AgreeIn c t'.toTensor := by
  obtain ⟨height, width, texels⟩ := t
  obtain ⟨height', width', texels'⟩ := t'
  obtain ⟨rfl, rfl, htexels⟩ := Table.mk.inj h
  exact Tensor.agreeIn_ofVectors _ (congrArg Vector.toArray (eq_of_heq htexels))

theorem Texture.VoxelGrid.agreeIn_toTensor [Scalar α] [Inhabited α] {g g' : VoxelGrid α 4}
    (h : g.select (fun _ => c) = g'.select fun _ => c) : g.toTensor.AgreeIn c g'.toTensor := by
  obtain ⟨shape, cells⟩ := g
  obtain ⟨shape', cells'⟩ := g'
  obtain ⟨rfl, hcells⟩ := VoxelGrid.mk.inj h
  -- zeros stand for empty cells in all channels
  have hvalues : ∀ cells : Array (Option (Spectrum α)),
      (cells.map (·.getD (Vector.replicate 4 0.0))).map (Spectrum.select fun _ => c) =
        (cells.map (Option.map (Spectrum.select fun _ => c))).map
          (·.getD (Spectrum.select (fun _ => c) (Vector.replicate 4 0.0))) := by
    intro cells
    simp only [Array.map_map, Function.comp_def, Option.getD_map]
  refine Tensor.agreeIn_ofVectors _ ?_
  rw [hvalues, hvalues]
  exact congrArg (Array.map _) (congrArg Vector.toArray (eq_of_heq hcells))

/-! ## Precomputation -/

section

variable [Scalar α] [Inhabited α]

/-- Two atmospheres agree on everything that the light in channel `c` depends on. -/
structure Parameters.AgreeIn (c : Fin 4) (p q : Parameters α) : Prop where
  shell : p.toLitShell = q.toLitShell
  sun : p.sunAngularRadius = q.sunAngularRadius
  profiles : ∀ f, p.profile f = q.profile f
  solarIrradiance : p.solarIrradiance.get c = q.solarIrradiance.get c
  rayleighScattering : p.rayleighScattering.get c = q.rayleighScattering.get c
  mieScattering : p.mieScattering.get c = q.mieScattering.get c
  mieExtinction : p.mieExtinction.get c = q.mieExtinction.get c
  absorptionExtinction : p.absorptionExtinction.get c = q.absorptionExtinction.get c

omit [Scalar α] in
theorem Parameters.AgreeIn.select_eq {p q : Parameters α} (h : p.AgreeIn c q) :
    p.select (fun _ => c) = q.select fun _ => c := by
  have hspectrum : ∀ {x y : Spectrum α}, x.get c = y.get c →
      Spectrum.select (fun _ => c) x = Spectrum.select (fun _ => c) y := by
    intro x y hxy
    simp only [Spectrum.select, hxy]
  have hrayleigh : p.rayleighDensity = q.rayleighDensity := h.profiles .rayleighDensity
  have hmie : p.mieDensity = q.mieDensity := h.profiles .mieDensity
  have habsorption : p.absorptionDensity = q.absorptionDensity := h.profiles .absorptionDensity
  simp only [Parameters.select, h.shell, h.sun, hrayleigh, hmie, habsorption,
    hspectrum h.solarIrradiance, hspectrum h.rayleighScattering, hspectrum h.mieScattering,
    hspectrum h.mieExtinction, hspectrum h.absorptionExtinction]

/-- Passes with tables that are the same in channel `c`, in atmospheres that agree in it, give
textures that agree in it. -/
theorem PassPlan.corresponds_run_agreeIn {p : PassPlan α} {a : Parameters α}
    (ha : p.atmosphere.AgreeIn c a) {t t' : Table α 4}
    (ht : t.select (fun _ => c) = t'.select fun _ => c) (store : α → α) {matrix matrix' : Tensor α}
    (hmatrix : matrix.shape = matrix'.shape) (observer : Option (Observer α)) :
    Run.Corresponds (TextureSet.AgreeIn c)
      (p.run store (.ofTable p.atmosphere t) matrix observer)
      (run { p with atmosphere := a } store (.ofTable a t') matrix' observer) := by
  have hselect := ha.select_eq
  have htransmittance : (Transmittance.ofTable p.atmosphere t).select (fun _ => c) =
      (Transmittance.ofTable a t').select fun _ => c := by
    have hsunlit : p.atmosphere.sunlit = a.sunlit := by
      simp only [Atmosphere.sunlit, Atmosphere.shell, ha.shell, ha.sun]
    simp only [Transmittance.ofTable, Transmittance.select, hsunlit, ht]
  have hkernel : (p.kernel (.ofTable p.atmosphere t)).select (fun _ => c) =
      (kernel { p with atmosphere := a } (.ofTable a t')).select fun _ => c := by
    simp only [kernel, Kernel.select, hselect, htransmittance]
  have hempty : ∀ grids : ScatterGrids α, grids.select (fun _ => c) = grids.select fun _ => c :=
    fun _ => rfl
  have hcomplete : ∀ g g' : ScatterGrids α, (g.select fun _ => c) = g'.select (fun _ => c) →
      g.isComplete = g'.isComplete := by
    intro g g' hg
    rw [← ScatterGrids.isComplete_select (σ := fun _ => c), hg, ScatterGrids.isComplete_select]
  have hrun := corresponds_run (ha.profiles .rayleighDensity).symm (ha.profiles .mieDensity).symm
    (Kernel.alike_of_select_eq hkernel store) (fun grids _ => hempty grids) hcomplete hmatrix
    observer
  refine hrun.mono ?_
  rintro s s' ⟨g, g', hg, hs, hs'⟩
  obtain ⟨hrayleigh, hmie⟩ := ScatterGrids.mk.inj hg
  refine ⟨⟨_, _, hs.transmittance, hs'.transmittance, Table.agreeIn_toTensor ht⟩, ?_, ?_⟩
  · rw [hs.deltaRayleigh, hs'.deltaRayleigh]
    exact VoxelGrid.agreeIn_toTensor hrayleigh
  · rw [hs.deltaMie, hs'.deltaMie]
    exact VoxelGrid.agreeIn_toTensor hmie

/-- Precomputations in atmospheres that agree in a channel are run side by side. -/
theorem Parameters.corresponds_precompute {p q : Parameters α} (h : p.AgreeIn c q)
    (sizes : GridSizes α) (effort : Effort α) (matrix : Option (Tensor α)) (store : α → α)
    (observer : Option (Observer α)) :
    Run.Corresponds (TextureSet.AgreeIn c) (p.precompute sizes effort matrix store observer)
      (q.precompute sizes effort matrix store observer) := by
  obtain ⟨checked, hmake⟩ := PassPlan.make_eq_map sizes effort.blockSize effort.sampleCount
  have htable : Corresponds (fun t t' : Table α 4 => t.select (fun _ => c) = t'.select fun _ => c)
      (p.transmittanceTable store effort.tableWidth effort.tableHeight effort.tableSampleCount)
      (q.transmittanceTable store effort.tableWidth effort.tableHeight
        effort.tableSampleCount) := by
    refine corresponds_iff_map_eq.mpr ?_
    have hown := transmittanceTable_select (σ := fun _ => c) p store effort.tableWidth
      effort.tableHeight effort.tableSampleCount
    rw [h.select_eq] at hown
    exact hown.symm.trans (transmittanceTable_select q store _ _ _)
  -- the matrix that is used when none is given depends on the wavelengths, but not its sizes
  have hmatrix : (matrix.getD p.projection.toTensor).shape =
      (matrix.getD q.projection.toTensor).shape := by
    have hshape : ∀ projection : Projection α, projection.toTensor.shape = [4, 4] := fun _ => rfl
    cases matrix with
    | none => rw [Option.getD_none, Option.getD_none, hshape, hshape]
    | some m => rw [Option.getD_some, Option.getD_some]
  refine (Run.corresponds_tell _ _).bind fun _ _ _ => ?_
  refine (Run.corresponds_note _ _).bind fun _ _ _ => ?_
  refine (Run.corresponds_lift htable).bind fun t t' ht => ?_
  refine (Run.corresponds_note _ _).bind fun _ _ _ => ?_
  rw [hmake p, hmake q]
  cases checked with
  | error failure => exact fun _ _ => .error failure
  | ok e =>
    have hpass := PassPlan.corresponds_run_agreeIn
      (p := ⟨p, e, effort.workers, effort.blockSize, effort.sampleCount⟩) h ht store hmatrix
      (observer.map (Observer.ofPart fun done => 0.1 + 0.9 * done))
    exact hpass.within.bind fun r r' hr => Run.corresponds_pure hr

end

namespace Parameters

/-- In atmospheres that agree on what the light in a channel depends on, precomputations with the
same sizes and counts store the same in that channel, whatever the other channels are, or fail with
the same failure. They do not fail for sizes and counts that are accepted, if the coefficients of
the layers are numbers. -/
theorem precompute_agreeIn :
    (∀ {α : Type} [Scalar α] [Inhabited α] (c : Fin 4) (p q : Parameters α), p.AgreeIn c q →
      ∀ (sizes : GridSizes α) (effort : Effort α) (matrix : Option (Tensor α)) (store : α → α)
        (observer : Option (Observer α)),
        Corresponds (TextureSet.AgreeIn c)
          (Run.start () (p.precompute sizes effort matrix store observer)).1
          (Run.start () (q.precompute sizes effort matrix store observer)).1) ∧
    ∀ (c : Fin 4) (p q : Parameters ℝ), p.AgreeIn c q → p.validate = .ok () → p.Regular →
      ∀ (e : Extents) (effort : Effort ℝ) (height width : Nat) (matrix : Option (Tensor ℝ))
        (store : ℝ → ℝ) (observer : Option (Observer ℝ)), effort.Accepted height width →
        (∀ m ∈ matrix, m.shape = [4, 4]) → (∀ o ∈ observer, o.Silent) →
        Tensor.checkRoom (e.shape.sizes ++ [4]) ScatterGrids.valueBytes =
          (.ok () : Except (Failure ℝ) Unit) →
        ∃ textures textures',
          (Run.start () (p.precompute (.ofExtents e) effort matrix store observer)).1 =
            .ok textures ∧
          (Run.start () (q.precompute (.ofExtents e) effort matrix store observer)).1 =
            .ok textures' ∧
          textures.AgreeIn c textures' := by
  refine ⟨fun c p q h sizes effort matrix store observer =>
    (corresponds_precompute h sizes effort matrix store observer).start () (), ?_⟩
  intro c p q h hvalid hregular e effort height width matrix store observer heffort hmatrix
    hsilent hroom
  have hgiven : p.precompute (.ofExtents e) effort matrix store observer =
      p.precompute (.ofExtents e) effort (some (matrix.getD p.projection.toTensor)) store
        observer := rfl
  have hshape : (matrix.getD p.projection.toTensor).shape = [4, 4] := by
    cases matrix with
    | none => rfl
    | some m => exact hmatrix m rfl
  obtain ⟨textures, htextures⟩ :=
    precompute_yields hvalid hregular e heffort hshape store hsilent hroom
  have hown := htextures.start_eq
  rw [← hgiven] at hown
  have hboth := (corresponds_precompute h (.ofExtents e) effort matrix store observer).start () ()
  rw [hown] at hboth
  generalize hother : (Run.start () (q.precompute (.ofExtents e) effort matrix store
    observer)).1 = other at hboth
  cases hboth with
  | ok hagree => exact ⟨textures, _, hown, rfl, hagree⟩

/-- An atmosphere with other values in the other channels has the same light as that of the Earth in
channel 2. -/
theorem precompute_agreeIn_earth :
    let q : Parameters ℝ :=
      { earth with
        wavelengths := Spectrum.constant 500
        solarIrradiance := earth.solarIrradiance.set 0 7 (by decide)
        mieExtinction := earth.mieExtinction.set 3 0 (by decide)
        groundAlbedo := Spectrum.constant 1
        miePhaseAsymmetry := 0 }
    q.validate = .ok () ∧ (earth : Parameters ℝ).AgreeIn 2 q ∧
      Corresponds (TextureSet.AgreeIn 2)
        (Run.start () ((earth : Parameters ℝ).precompute (.ofExtents .standard) .standard none id
          none)).1
        (Run.start () (q.precompute (.ofExtents .standard) .standard none id none)).1 ∧
      ∃ textures textures',
        (Run.start () ((earth : Parameters ℝ).precompute (.ofExtents .standard) .standard none id
          none)).1 = .ok textures ∧
        (Run.start () (q.precompute (.ofExtents .standard) .standard none id none)).1 =
          .ok textures' ∧
        textures.AgreeIn 2 textures' := by
  intro q
  have hearth : (earth : Parameters ℝ).Invariants := (validate_eq_ok_iff _).mp validate_earth
  have hconstant : ∀ {y x : ℝ}, x ∈ Spectrum.constant y → x = y := by
    intro y x hx
    obtain ⟨c, hc, rfl⟩ := Vector.getElem_of_mem hx
    exact Spectrum.getElem_constant y c hc
  have hset : ∀ {i : Nat} (hi : i < 4) {v : Spectrum ℝ} {y x : ℝ}, x ∈ v.set i y hi →
      x ∈ v ∨ x = y := fun _ => Vector.mem_or_eq_of_mem_set
  have hnonneg : ∀ f, ∀ x ∈ q.spectrum f, ¬ x < 0.0 := by
    intro f x hx
    cases f with
    | wavelengths =>
      rw [hconstant hx]
      norm_num
    | solarIrradiance =>
      obtain hx | rfl := hset (by decide) hx
      · exact hearth.spectrum_nonneg .solarIrradiance x hx
      · norm_num
    | mieExtinction =>
      obtain hx | rfl := hset (by decide) hx
      · exact hearth.spectrum_nonneg .mieExtinction x hx
      · norm_num
    | groundAlbedo =>
      rw [hconstant hx]
      norm_num
    | rayleighScattering => exact hearth.spectrum_nonneg .rayleighScattering x hx
    | mieScattering => exact hearth.spectrum_nonneg .mieScattering x hx
    | absorptionExtinction => exact hearth.spectrum_nonneg .absorptionExtinction x hx
  have hvalid : q.validate = .ok () := (validate_eq_ok_iff q).mpr
    { hearth with
      spectrum_nonneg := hnonneg
      wavelengths_pos := fun x hx => by
        rw [hconstant hx]
        norm_num
      neg_one_lt_asymmetry := by norm_num [q]
      asymmetry_lt_one := by norm_num [q] }
  have hagree : (earth : Parameters ℝ).AgreeIn 2 q := {
    shell := rfl
    sun := rfl
    profiles := fun f => by cases f <;> rfl
    solarIrradiance := (Vector.getElem_set_ne (by decide) (by decide) (by decide)).symm
    rayleighScattering := rfl
    mieScattering := rfl
    mieExtinction := (Vector.getElem_set_ne (by decide) (by decide) (by decide)).symm
    absorptionExtinction := rfl }
  obtain ⟨hboth, hsucceed⟩ := precompute_agreeIn
  exact ⟨hvalid, hagree, hboth 2 _ q hagree _ _ _ _ _, hsucceed 2 _ q hagree validate_earth
    regular_earth .standard .standard 64 256 none id none Effort.accepted_standard nofun nofun
    PassPlan.checkRoom_standard⟩

end Parameters

end Airlight
