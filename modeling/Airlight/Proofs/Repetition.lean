import Airlight.Model
import Airlight.Proofs.PassPairs

/-!
# Precomputations that are repeated

A precomputation that has succeeded gives the same textures again with another number of workers and
with any observer that does not interrupt. The number of workers is only checked and noted, and
observers are only told.

## Main definitions

* `Model.Computes` — the textures of a model, whoever computes them and whoever watches.
-/

namespace Airlight

open Colour Grid Texture

variable {α : Type} [Scalar α]

namespace PassPlan

/-- A plan is made in the same way for another number of workers. -/
theorem make_of_make {atmosphere : Parameters α} {sizes : GridSizes α}
    {workers blockSize sampleCount : Value α} {plan : PassPlan α}
    (h : make atmosphere sizes workers blockSize sampleCount = .ok plan) (workers' : Value α) :
    make atmosphere sizes workers' blockSize sampleCount =
      .ok { plan with workers := workers' } := by
  obtain ⟨checked, hmake⟩ := make_eq_map sizes blockSize sampleCount
  rw [hmake] at h ⊢
  cases checked with
  | error _ => cases h
  | ok extents =>
    cases h
    rfl

variable [Inhabited α] {p : PassPlan α} {workers : Value α} {observer' : Option (Observer α)}

omit [Inhabited α] in
theorem repeats_addBlock (p : PassPlan α) (workers : Value α) (store : α → α)
    (projection : Projection α) (start : Nat) (scattered : ScatteredArrays α) :
    Run.Repeats (p.addBlock store projection start scattered)
      (addBlock { p with workers } store projection start scattered) := by
  unfold addBlock
  refine (Run.repeats_lift _).bind fun all => ?_
  refine (Run.repeats_change _).bind fun _ => ?_
  refine (Run.repeats_lift _).bind fun aerosols => ?_
  exact Run.repeats_change _

/-- The blocks of a pass are run again with another number of workers. -/
theorem repeats_runBlocks (p : PassPlan α) (workers : Value α) (store : α → α)
    (x : Transmittance α) (projection : Projection α) (observer : Option (Observer α))
    (hsilent : ∀ o ∈ observer', o.Silent) (total done : Nat) (blocks : List Extents.Block)
    (grids : ScatterGrids α) :
    Run.Repeats (p.runBlocks store x projection observer total done blocks grids)
      (runBlocks { p with workers } store x projection observer' total done blocks grids) := by
  induction blocks generalizing done grids with
  | nil => exact Run.repeats_pure grids
  | cons block rest ih =>
    refine (Run.repeats_lift _).bind fun scattered => ?_
    refine (repeats_addBlock p workers store projection _ scattered).bind fun _ => ?_
    exact (Run.repeats_tell observer hsilent _).bind fun _ => ih (done + 1) _

/-- A pass is run again with another number of workers. -/
theorem repeats_run (p : PassPlan α) (hworkers : checkWorkers workers = .ok ()) (store : α → α)
    (x : Transmittance α) (matrix : Tensor α) (observer : Option (Observer α))
    (hsilent : ∀ o ∈ observer', o.Silent) :
    Run.Repeats (p.run store x matrix observer)
      (run { p with workers } store x matrix observer') := by
  unfold run
  refine (Run.repeats_lift _).bind fun projection => ?_
  refine (Run.repeats_lift _).bind fun empty => ?_
  refine (Run.repeats_lift _).bind fun blocks => ?_
  refine (Run.repeats_note _ _).bind fun _ => ?_
  refine Run.repeats_lift_bind fun _ _ => ⟨(), hworkers, ?_⟩
  refine (repeats_runBlocks p workers store x projection observer hsilent _ _ blocks empty).bind
    fun grids => ?_
  dsimp only
  split
  · exact Run.repeats_throw _ _
  · refine Run.repeats_state.bind fun sums => ?_
    exact (Run.repeats_note _ _).bind fun _ => Run.repeats_pure _

end PassPlan

variable [Inhabited α] {workers : Value α} {observer' : Option (Observer α)}

/-- A precomputation is run again with another number of workers. -/
theorem Parameters.repeats_precompute (p : Parameters α) (sizes : GridSizes α) (effort : Effort α)
    (matrix : Option (Tensor α)) (store : α → α) (observer : Option (Observer α))
    (hworkers : PassPlan.checkWorkers workers = .ok ()) (hsilent : ∀ o ∈ observer', o.Silent) :
    Run.Repeats (p.precompute sizes effort matrix store observer)
      (p.precompute sizes { effort with workers } matrix store observer') := by
  unfold precompute
  refine (Run.repeats_tell _ hsilent _).bind fun _ => ?_
  refine (Run.repeats_note _ _).bind fun _ => ?_
  refine (Run.repeats_lift _).bind fun table => ?_
  refine (Run.repeats_note _ _).bind fun _ => ?_
  refine Run.repeats_lift_bind fun plan hplan => ⟨_, PassPlan.make_of_make hplan workers, ?_⟩
  have hpass := plan.repeats_run hworkers store (.ofTable p table)
    (matrix.getD p.projection.toTensor)
    (observer.map (Observer.ofPart fun done => 0.1 + 0.9 * done))
    (Observer.silent_map_ofPart hsilent fun done => 0.1 + 0.9 * done)
  exact (hpass.within .zero).bind fun r => Run.repeats_pure r.1

namespace Model

theorem repeats_precompute (m : Model α) (effort : Effort α) (store : α → α)
    (observer : Option (Observer α)) (hworkers : PassPlan.checkWorkers workers = .ok ())
    (hsilent : ∀ o ∈ observer', o.Silent) :
    Run.Repeats (m.precompute effort store observer)
      (m.precompute { effort with workers } store observer') := by
  unfold precompute
  refine (Run.repeats_tell _ hsilent _).bind fun _ => ?_
  refine (Run.repeats_lift _).bind fun p => ?_
  refine (Run.repeats_lift _).bind fun unit => ?_
  refine (Run.repeats_lift _).bind fun shape => ?_
  dsimp only
  split
  · exact fun s => (Run.ensures_throw _ s fun _ _ => False).bind fun _ _ => False.elim
  · refine (Run.repeats_note _ _).bind fun _ => ?_
    exact p.repeats_precompute m.sizes effort _ store observer hworkers hsilent

/-- A model gets its textures in the same way from another number of workers and with an observer
that does not interrupt. -/
theorem repeats_init (effort : Effort α) (store : α → α) (observer : Option (Observer α))
    (hworkers : PassPlan.checkWorkers workers = .ok ()) (hsilent : ∀ o ∈ observer', o.Silent) :
    Run.Repeats (init effort store observer) (init { effort with workers } store observer') := by
  unfold init
  refine Run.repeats_state.bind fun m => ?_
  refine ((m.repeats_precompute effort store observer hworkers hsilent).within ()).bind
    fun ⟨textures, _⟩ => ?_
  refine (Run.repeats_change _).bind fun _ => ?_
  exact Run.repeats_tell _ hsilent _

/-- The model gets these textures whatever the number of workers is, as long as there are any, and
whoever is told about the progress without interrupting. -/
def Computes (m : Model α) (effort : Effort α) (store : α → α) (textures : TextureSet α) : Prop :=
  ∀ workers, PassPlan.checkWorkers workers = .ok () →
    ∀ observer : Option (Observer α), (∀ o ∈ observer, o.Silent) →
      ∃ journal, Run.start m (init { effort with workers } store observer) = (.ok (), journal) ∧
        journal.state.textures = some textures

/-- A model that has been initialized differs from the one before by its textures. -/
theorem ensures_init (m : Model α) (effort : Effort α) (store : α → α)
    (observer : Option (Observer α)) :
    (init effort store observer).Ensures m fun _ m' =>
      ∃ textures, m' = m.withTextures textures := by
  unfold init
  refine (Run.ensures_state m).bind ?_
  rintro _ m ⟨rfl, rfl⟩
  have hprecompute : (m.precompute effort store observer).Ensures () fun _ _ => True :=
    fun _ _ _ _ => trivial
  refine (hprecompute.within m).bind ?_
  rintro ⟨textures, _⟩ m ⟨-, rfl⟩
  have hchange : (Run.change (·.withTextures textures) : Run α (Model α) Unit).Leaves m
      fun _ m' => m' = m.withTextures textures :=
    Run.leaves_change rfl
  refine hchange.ensures.bind ?_
  rintro _ _ rfl
  refine (Run.ensures_tell _ _ _).mono ?_
  rintro _ _ rfl
  exact ⟨textures, rfl⟩

/-- A model that has been initialized has the textures that it computes. -/
theorem ensures_computes (m : Model α) (effort : Effort α) (store : α → α)
    (observer : Option (Observer α)) :
    (init effort store observer).Ensures m fun _ m' => ∃ textures,
      m' = m.withTextures textures ∧ m.Computes effort store textures := by
  intro events _ j hrun
  obtain ⟨textures, hmodel⟩ := m.ensures_init effort store observer events _ j hrun
  refine ⟨textures, hmodel, fun workers hworkers observer' hsilent => ?_⟩
  have hagain := repeats_init effort store observer hworkers hsilent m events _ j hrun
  obtain ⟨journal, hstart, hstate⟩ := hagain.start
  refine ⟨journal, hstart, ?_⟩
  rw [hstate, hmodel]
  rfl

end Model

end Airlight
