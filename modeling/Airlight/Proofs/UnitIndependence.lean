import Airlight.Proofs.LayeredAir
import Airlight.Proofs.PassResult
import Airlight.Proofs.UnitPrecompute

/-!
# Textures do not depend on the length unit

A precomputation with accepted sizes and counts succeeds, and after a change of the length unit it
gives the same textures.

## Main definitions

* `Effort.Accepted` — the sizes and counts with which a precomputation goes through.
-/

namespace Airlight

open Colour Grid Scalar Texture

/-- Sizes and counts that pass their checks, for a table that there is room for. -/
structure Effort.Accepted (effort : Effort ℝ) (height width : Nat) : Prop where
  workers : PassPlan.checkWorkers effort.workers = .ok ()
  blockSize : ∃ n : Int, effort.blockSize = .integer n ∧ 1 ≤ n
  sampleCount : ∃ n : Int, effort.sampleCount = .integer n ∧ 1 ≤ n
  tableHeight : effort.tableHeight = .integer height
  tableWidth : effort.tableWidth = .integer width
  two_le_height : 2 ≤ height
  two_le_width : 2 ≤ width
  tableSampleCount : ∃ n : Int, effort.tableSampleCount = .integer n ∧ 1 ≤ n
  room : Tensor.checkRoom [height, width] 8 = (.ok () : Except (Failure ℝ) Unit)

/-- The sizes and counts used when none are given are accepted. -/
theorem Effort.accepted_standard : (standard : Effort ℝ).Accepted 64 256 where
  workers := rfl
  blockSize := ⟨8192, rfl, by decide⟩
  sampleCount := ⟨50, rfl, by decide⟩
  tableHeight := rfl
  tableWidth := rfl
  two_le_height := by decide
  two_le_width := by decide
  tableSampleCount := ⟨500, rfl, by decide⟩
  room := (Tensor.checkRoom_eq_ok_iff (by decide)).mpr (by decide)

namespace Parameters

variable {p : Parameters ℝ} {effort : Effort ℝ} {height width : Nat}

/-- A transmittance table of accepted sizes can be computed. -/
theorem exists_transmittanceTable (h : p.Regular) (heffort : effort.Accepted height width)
    (store : ℝ → ℝ) :
    ∃ table : Table ℝ 4, p.transmittanceTable store effort.tableWidth effort.tableHeight
      effort.tableSampleCount = .ok table ∧ table.height = height ∧ table.width = width := by
  obtain ⟨n, hcount, hn⟩ := heffort.tableSampleCount
  rw [heffort.tableHeight, heffort.tableWidth, hcount]
  exact ⟨_, h.hasAir.transmittanceTable_eq_ok heffort.two_le_height heffort.two_le_width hn
    heffort.room store, rfl, rfl⟩

/-- A precomputation of checked parameters with regular profiles succeeds for accepted sizes and
counts and a matrix that projects spectra, if the grids fit into memory. -/
theorem precompute_yields (hvalid : p.validate = .ok ()) (h : p.Regular) (e : Extents)
    (heffort : effort.Accepted height width) {matrix : Tensor ℝ} (hmatrix : matrix.shape = [4, 4])
    (store : ℝ → ℝ) {observer : Option (Observer ℝ)} (hsilent : ∀ o ∈ observer, o.Silent)
    (hroom : Tensor.checkRoom (e.shape.sizes ++ [4]) ScatterGrids.valueBytes =
      (.ok () : Except (Failure ℝ) Unit)) :
    ∃ textures, (p.precompute (.ofExtents e) effort (some matrix) store observer).Yields ()
      textures () := by
  obtain ⟨table, htable, hheight, hwidth⟩ := exists_transmittanceTable h heffort store
  obtain ⟨blockSize, hblockSize, hblock⟩ := heffort.blockSize
  obtain ⟨sampleCount, hsampleCount, hsamples⟩ := heffort.sampleCount
  have hheight0 := heffort.two_le_height
  have hwidth0 := heffort.two_le_width
  let plan : PassPlan ℝ :=
    ⟨p, e, effort.workers, .integer blockSize, .integer sampleCount⟩
  have hmake : PassPlan.make p (.ofExtents e) effort.workers effort.blockSize effort.sampleCount =
      .ok plan := by
    rw [hblockSize, hsampleCount]
    exact PassPlan.make_eq_ok hblock (Value.isBelow_integer hsamples) hroom
  have hanswers : (Transmittance.ofTable p table).oracle.Answers :=
    Table.answers (by omega) (by omega) p.sunlit
  obtain ⟨light, hlight⟩ := (plan.kernel (.ofTable p table)).exists_light hvalid h rfl hsamples
    hanswers
  obtain ⟨projection, hprojection⟩ := Projection.exists_ofMatrix hmatrix
  have hpart := Observer.silent_map_ofPart hsilent fun done => 0.1 + 0.9 * done
  have hpass := plan.yields_run store (PassPlan.lit_of_evaluate hlight) hprojection rfl hblock
    heffort.workers hroom hpart .zero
  refine ⟨_, (Run.yields_tell hsilent _ _).bind <| (Run.yields_note _ _).bind <|
    (Run.yields_lift htable _).bind <| (Run.yields_note _ _).bind <|
    (Run.yields_lift hmake _).bind <| (hpass.within ()).bind (Run.yields_pure _ _)⟩

/-- The same atmosphere in another length unit gives the same textures. Checked parameters with
regular profiles can be converted to every positive unit, and a precomputation then goes through the
same steps as before, with the same result or the same failure. With accepted sizes and counts and a
matrix that projects spectra both give the same textures. -/
theorem precompute_toLengthUnit (hvalid : p.validate = .ok ()) (hregular : p.Regular) {unit : ℝ}
    (hunit : 0 < unit) :
    ∃ q : Parameters ℝ, p.toLengthUnit unit = .ok q ∧
      (∀ (sizes : GridSizes ℝ) (effort : Effort ℝ) (matrix : Option (Tensor ℝ)) (store : ℝ → ℝ)
        (observer : Option (Observer ℝ)),
        q.precompute sizes effort matrix store observer =
          p.precompute sizes effort matrix store observer) ∧
      ∀ (e : Extents) (effort : Effort ℝ) (height width : Nat) (matrix : Tensor ℝ)
        (store : ℝ → ℝ) (observer : Option (Observer ℝ)), effort.Accepted height width →
        matrix.shape = [4, 4] → (∀ o ∈ observer, o.Silent) →
        Tensor.checkRoom (e.shape.sizes ++ [4]) ScatterGrids.valueBytes =
          (.ok () : Except (Failure ℝ) Unit) →
        ∃ textures,
          (Run.start () (q.precompute (.ofExtents e) effort (some matrix) store observer)).1 =
            .ok textures ∧
          (Run.start () (p.precompute (.ofExtents e) effort (some matrix) store observer)).1 =
            .ok textures := by
  obtain ⟨hk, hconverted⟩ := toLengthUnit_eq_ok hvalid hregular hunit
  refine ⟨_, hconverted, precompute_inUnit hregular hk, ?_⟩
  intro e effort height width matrix store observer heffort hmatrix hsilent hroom
  obtain ⟨textures, htextures⟩ :=
    precompute_yields hvalid hregular e heffort hmatrix store hsilent hroom
  refine ⟨textures, ?_, htextures.start_eq⟩
  rw [precompute_inUnit hregular hk]
  exact htextures.start_eq

/-- The Earth in kilometres gives the textures of the Earth in metres. -/
theorem precompute_toLengthUnit_kilometres :
    ∃ q : Parameters ℝ, (earth : Parameters ℝ).toLengthUnit 1000 = .ok q ∧
      ∃ textures,
        (Run.start () (q.precompute (.ofExtents .standard) .standard
          (some (.ofFn [4, 4] fun _ => 1)) id none)).1 = .ok textures ∧
        (Run.start () ((earth : Parameters ℝ).precompute (.ofExtents .standard) .standard
          (some (.ofFn [4, 4] fun _ => 1)) id none)).1 = .ok textures := by
  have hunit : (0 : ℝ) < 1000 := by norm_num
  obtain ⟨q, hq, -, htextures⟩ := precompute_toLengthUnit validate_earth regular_earth hunit
  exact ⟨q, hq, htextures .standard .standard 64 256 _ id none Effort.accepted_standard rfl nofun
    PassPlan.checkRoom_standard⟩

end Parameters

end Airlight
