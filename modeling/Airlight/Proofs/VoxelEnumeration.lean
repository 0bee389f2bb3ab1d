import Mathlib.Algebra.Order.Floor.Div
import Airlight.Grid.Sizes
import Airlight.Proofs.GridFill
import Airlight.Proofs.KernelEvaluation
import Airlight.Scalar.Float

/-!
# Enumeration of the voxels

The positions of a grid name its voxels one by one: the blocks of any size run through all positions
and thereby through all voxels, slice by slice and row by row. Positions are integers of 64 bits. A
position that is none is refused, and so is any position of a grid with more voxels than such
integers count.

## Main definitions

* `Extents.LiesAt` — a voxel of the grid has a position in row-major order.
* `Extents.rowMajor` — all voxels of the grid in row-major order.
-/

namespace Airlight.Grid

open Texture

namespace Extents

variable {e : Extents} {v : Voxel} {start stop size : Nat}

/-! ## Positions -/

/-- A voxel of the grid lies at a position: slices before it are skipped as a whole, and so are the
rows before it in its slice. -/
structure LiesAt (e : Extents) (v : Voxel) (i : Int) : Prop where
  x : 0 ≤ v.x ∧ v.x < e.width
  y : 0 ≤ v.y ∧ v.y < e.height
  z : 0 ≤ v.z ∧ v.z < e.depth
  position : i = (v.z * e.height + v.y) * e.width + v.x

theorem liesAt_iff {i : Int} :
    e.LiesAt v i ↔ e.shape.contains v = true ∧ i = (e.shape.position v : Int) := by
  have hposition (h : e.shape.contains v = true) :
      (e.shape.position v : Int) = (v.z * e.height + v.y) * e.width + v.x := by
    obtain ⟨⟨hx, -⟩, ⟨hy, -⟩, hz, -⟩ := GridShape.contains_iff.mp h
    simp only [GridShape.position, shape, Nat.cast_add, Nat.cast_mul, Int.toNat_of_nonneg hx,
      Int.toNat_of_nonneg hy, Int.toNat_of_nonneg hz]
  constructor
  · rintro ⟨hx, hy, hz, rfl⟩
    have hv : e.shape.contains v = true := GridShape.contains_iff.mpr ⟨hx, hy, hz⟩
    exact ⟨hv, (hposition hv).symm⟩
  · rintro ⟨hv, rfl⟩
    obtain ⟨hx, hy, hz⟩ := GridShape.contains_iff.mp hv
    exact ⟨hx, hy, hz, hposition hv⟩

/-- A position of the grid belongs to a voxel. -/
theorem liesAt_voxelAt {i : Int} (hlo : 0 ≤ i) (hhi : i < e.voxelCount) :
    e.LiesAt (e.voxelAt i.toNat) i := by
  refine liesAt_iff.mpr ⟨contains_voxelAt (by omega), ?_⟩
  rw [position_voxelAt, Int.toNat_of_nonneg hlo]

/-- No other voxel lies at the position. -/
theorem LiesAt.eq_voxelAt {i : Int} (h : e.LiesAt v i) : v = e.voxelAt i.toNat := by
  obtain ⟨hv, rfl⟩ := liesAt_iff.mp h
  rw [Int.toNat_natCast, voxelAt_position hv]

/-! ## Arrays of positions -/

section Positions

variable {α : Type} {positions : Tensor Int}

/-- Positions of the grid are taken to their voxels. -/
theorem voxelsAt_eq_ok (haxes : positions.shape.length < Value.maxAxes)
    (hroom : e.voxelCount ≤ Tensor.indexLimit)
    (hinside : ∀ i ∈ positions.data, 0 ≤ i ∧ i < (e.voxelCount : Int)) :
    (e.voxelsAt positions : Except (Failure α) _) =
      .ok (positions.map fun i => e.voxelAt i.toNat) := by
  have hindices : positions.data.all Tensor.isIndex = true := by
    refine Array.all_eq_true_iff_forall_mem.mpr fun i hi => ?_
    have := hinside i hi
    simp only [Tensor.isIndex, Bool.and_eq_true, decide_eq_true_eq]
    omega
  have hrange : (positions.data.all fun i => 0 ≤ i && i < (e.voxelCount : Int)) = true := by
    refine Array.all_eq_true_iff_forall_mem.mpr fun i hi => ?_
    simpa using hinside i hi
  simp only [voxelsAt, Tensor.indices, hindices, hrange, if_true, ok_bind,
    if_neg (not_le.mpr haxes), decide_eq_true hroom, Bool.and_self, pure_eq_ok]

/-- An integer that is no position of the grid is refused because of its value, and so is any
integer if the grid has too many voxels. -/
theorem voxelsAt_of_outside (hindices : ∀ i ∈ positions.data, Tensor.isIndex i = true)
    (houtside : Tensor.indexLimit < e.voxelCount ∨
      ∃ i ∈ positions.data, ¬ (0 ≤ i ∧ i < (e.voxelCount : Int))) :
    (e.voxelsAt positions : Except (Failure α) _) = .error (.shapes .other) := by
  have hguard : ¬ (decide (e.voxelCount ≤ Tensor.indexLimit) &&
      positions.data.all fun i => 0 ≤ i && i < (e.voxelCount : Int)) = true := by
    intro hguard
    obtain ⟨hroom, hall⟩ := Bool.and_eq_true_iff.mp hguard
    rcases houtside with hcount | ⟨i, hi, hout⟩
    · exact absurd (of_decide_eq_true hroom) (by omega)
    · exact hout (by simpa using Array.all_eq_true_iff_forall_mem.mp hall i hi)
  simp only [voxelsAt, Tensor.indices, Array.all_eq_true_iff_forall_mem.mpr hindices, if_true,
    ok_bind, if_neg hguard]
  split_ifs <;> rfl

/-- Integers of more than 64 bits are refused before their range is looked at. -/
theorem voxelsAt_of_not_isIndex (h : ∃ i ∈ positions.data, Tensor.isIndex i = false) :
    (e.voxelsAt positions : Except (Failure α) _) = .error .overflow := by
  have hindices : ¬ positions.data.all Tensor.isIndex = true := by
    obtain ⟨i, hi, hfalse⟩ := h
    intro hall
    simp [Array.all_eq_true_iff_forall_mem.mp hall i hi] at hfalse
  rw [voxelsAt, Tensor.indices, if_neg hindices]
  rfl

end Positions

/-! ## Lengths of blocks -/

theorem length_blocksFrom (start stop size : Nat) :
    (blocksFrom start stop size).length = (stop - start) ⌈/⌉ size := by
  rw [blocksFrom, List.length_map, List.length_range, Nat.ceilDiv_eq_add_pred_div]

theorem length_block_le {b : Block} (hb : b ∈ blocksFrom start stop size) : b.2 - b.1 ≤ size := by
  obtain ⟨k, -, rfl⟩ := List.mem_map.mp hb
  have hnext : start + (k + 1) * size = start + k * size + size := by ring
  dsimp only
  omega

/-- All blocks but the last have the full length. -/
theorem length_block_of_mem_dropLast {b : Block} (hsize : 0 < size)
    (hb : b ∈ (blocksFrom start stop size).dropLast) : b.2 - b.1 = size := by
  induction hn : stop - start using Nat.strong_induction_on generalizing start with
  | _ n ih =>
    rcases Nat.lt_or_ge start stop with hlt | hge
    · rw [blocksFrom_of_lt hsize hlt] at hb
      rcases Nat.lt_or_ge (start + size) stop with hmore | hlast
      · rw [List.dropLast_cons_of_ne_nil (by rw [blocksFrom_of_lt hsize hmore]; simp)] at hb
        rcases List.mem_cons.mp hb with rfl | hb
        · dsimp only
          omega
        · exact ih _ (by omega) hb rfl
      · -- a block that reaches the end is the last one
        rw [blocksFrom_of_le hsize hlast] at hb
        cases hb
    · rw [blocksFrom_of_le hsize hge] at hb
      cases hb

/-! ## Blocks one after another -/

/-- The positions of blocks that cover a range are those of the range, in order. -/
theorem Tiles.flatMap_range' {blocks : List Block} (h : Tiles start stop blocks) :
    (blocks.flatMap fun b => List.range' b.1 (b.2 - b.1)) = List.range' start (stop - start) := by
  induction h with
  | nil n => simp
  | @cons first last stop rest hlt hrest ih =>
    have hle := hrest.le
    rw [List.flatMap_cons, ih]
    obtain ⟨m, rfl⟩ := Nat.exists_eq_add_of_le hlt.le
    rw [Nat.add_sub_cancel_left, List.range'_append_1]
    congr 1
    omega

/-- All voxels of the grid, slice by slice and row by row. -/
def rowMajor (e : Extents) : List Voxel :=
  (List.range e.depth).flatMap fun (z : Nat) =>
    (List.range e.height).flatMap fun (y : Nat) =>
      (List.range e.width).map fun (x : Nat) => ⟨x, y, z⟩

/-- Numbers up to a product, in rows. -/
theorem range_mul (m n : Nat) :
    List.range (m * n) = (List.range m).flatMap fun i => (List.range n).map fun j => i * n + j := by
  induction m with
  | zero => simp
  | succ m ih =>
    rw [Nat.succ_mul, List.range_add, ih, List.range_succ, List.flatMap_append]
    simp

/-- The voxels at all positions, in order. -/
theorem map_voxelAt_range (e : Extents) :
    (List.range e.voxelCount).map e.voxelAt = e.rowMajor := by
  have hcount : e.voxelCount = e.depth * e.height * e.width := by
    rw [voxelCount]
    ring
  -- both sides run through slices, then through rows, and agree on each row
  rw [rowMajor, hcount, range_mul, range_mul, List.flatMap_assoc, List.map_flatMap]
  refine List.flatMap_congr fun z hz => ?_
  rw [List.map_flatMap, List.flatMap_map]
  refine List.flatMap_congr fun y hy => ?_
  rw [List.map_map]
  refine List.map_congr_left fun x hx => ?_
  have hv := contains_of_lt (List.mem_range.mp hx) (List.mem_range.mp hy) (List.mem_range.mp hz)
  exact voxelAt_position hv

/-- The voxels of blocks that cover the grid are all voxels in row-major order. -/
theorem Tiles.flatMap_voxels {blocks : List Block} (h : Tiles 0 e.voxelCount blocks) :
    blocks.flatMap e.voxels = e.rowMajor := by
  have hblocks : blocks.flatMap e.voxels =
      (blocks.flatMap fun b => List.range' b.1 (b.2 - b.1)).map e.voxelAt := by
    rw [List.map_flatMap]
    rfl
  rw [hblocks, h.flatMap_range', Nat.sub_zero, ← List.range_eq_range', map_voxelAt_range]

/-- Every voxel of the grid is listed exactly once, and no other is. -/
theorem count_rowMajor (e : Extents) (v : Voxel) :
    e.rowMajor.count v = if e.shape.contains v = true then 1 else 0 := by
  have hvoxels : e.rowMajor = e.voxels (0, e.voxelCount) := by
    rw [← map_voxelAt_range, List.range_eq_range', voxels, Nat.sub_zero]
  have hmem : v ∈ e.rowMajor ↔ e.shape.contains v = true := by
    rw [hvoxels, VoxelGrid.mem_voxels le_rfl]
    exact ⟨And.left, fun hv => ⟨hv, Nat.zero_le _, position_lt hv⟩⟩
  have hnodup : e.rowMajor.Nodup := hvoxels ▸ VoxelGrid.nodup_voxels e _
  split_ifs with hv
  · exact List.count_eq_one_of_mem hnodup (hmem.mpr hv)
  · exact List.count_eq_zero_of_not_mem (mt hmem.mp hv)

/-- The whole sizes of extents multiply to the number of voxels. -/
theorem toNat_sizes (e : Extents) :
    ((e.nuSize : Int) * e.muSSize * e.muSize * e.rSize).toNat = e.voxelCount := by
  rw [← Int.toNat_natCast e.voxelCount]
  rfl

/-- The blocks of a positive size. -/
theorem blocks_ofExtents {α : Type} [Scalar α] {n : Int} (e : Extents) (hn : 1 ≤ n) :
    (GridSizes.ofExtents e : GridSizes α).blocks (.integer n) = .ok (e.blocks n.toNat) := by
  simp only [GridSizes.blocks, Value.isBelow_integer hn, Value.quantity, ok_bind,
    Bool.false_eq_true, if_false, GridSizes.voxelCount, GridSizes.width, GridSizes.ofExtents,
    Quantity.mul, Quantity.toInt, pure_eq_ok, toNat_sizes, blocks]

/-- Blocks cut the positions of a grid into ranges of `n`: none is empty, each begins where the one
before it ends, and only the last may be shorter. -/
structure CutInto (e : Extents) (n : Nat) (blocks : List Block) : Prop where
  length : blocks.length = e.voxelCount ⌈/⌉ n
  tiles : Tiles 0 e.voxelCount blocks
  full : ∀ b ∈ blocks.dropLast, b.2 - b.1 = n
  le : ∀ b ∈ blocks, b.2 - b.1 ≤ n

theorem cutInto_blocks {n : Nat} (e : Extents) (hn : 0 < n) : e.CutInto n (e.blocks n) where
  length := by rw [blocks, length_blocksFrom, Nat.sub_zero]
  tiles := tiles_blocksFrom hn (Nat.zero_le _)
  full _ hb := length_block_of_mem_dropLast hn hb
  le _ hb := length_block_le hb

/-- The positions of a block that lies in the grid are taken to its voxels. -/
theorem voxelsAt_block {α : Type} {b : Block} (hroom : e.voxelCount ≤ Tensor.indexLimit)
    (hb : b.2 ≤ e.voxelCount) :
    (e.voxelsAt (.row ((List.range' b.1 (b.2 - b.1)).map fun (i : Nat) => (i : Int))) :
      Except (Failure α) _) = .ok (.row (e.voxels b)) := by
  rw [voxelsAt_eq_ok (by simp [Tensor.row, Value.maxAxes]) hroom, Tensor.map_row, List.map_map]
  · rfl
  · intro i hi
    obtain ⟨k, hk, rfl⟩ := List.mem_map.mp (List.mem_toArray.mp hi)
    have := List.mem_range'_1.mp hk
    omega

/-- Positions and blocks enumerate the voxels of a grid. At each position lies exactly one voxel.
An array of integers that can get an axis for coordinates is taken to the voxels at its positions;
integers that are no positions are refused because of their value or, beyond 64 bits, because they
are too large; and a grid with more voxels than such integers count refuses all of them. The blocks
of a positive size cut the positions into ranges of that size, and their voxels are all voxels in
row-major order, each of them once. -/
theorem blocks_enumerate_voxels {α : Type} [Scalar α] (e : Extents) :
    (∀ i : Int, 0 ≤ i → i < e.voxelCount →
      e.LiesAt (e.voxelAt i.toNat) i ∧ ∀ v, e.LiesAt v i → v = e.voxelAt i.toNat) ∧
    (∀ positions : Tensor Int, positions.shape.length < Value.maxAxes →
      let found : Except (Failure α) (Tensor Voxel) := e.voxelsAt positions
      (e.voxelCount ≤ Tensor.indexLimit →
        (∀ i ∈ positions.data, 0 ≤ i ∧ i < (e.voxelCount : Int)) →
        found = .ok (positions.map fun i => e.voxelAt i.toNat)) ∧
      ((∀ i ∈ positions.data, Tensor.isIndex i = true) →
        (Tensor.indexLimit < e.voxelCount ∨
          ∃ i ∈ positions.data, ¬ (0 ≤ i ∧ i < (e.voxelCount : Int))) →
        ∃ failure, found = .error failure ∧ failure.kind = .value) ∧
      ((∃ i ∈ positions.data, Tensor.isIndex i = false) →
        ∃ failure, found = .error failure ∧ failure.kind = .overflow)) ∧
    (∀ n : Nat, 0 < n → ∃ blocks,
      (GridSizes.ofExtents e : GridSizes α).blocks (.integer n) = .ok blocks ∧
      e.CutInto n blocks ∧
      (e.voxelCount ≤ Tensor.indexLimit → ∀ b ∈ blocks,
        (e.voxelsAt (.row ((List.range' b.1 (b.2 - b.1)).map fun (i : Nat) => (i : Int))) :
          Except (Failure α) _) = .ok (.row (e.voxels b))) ∧
      blocks.flatMap e.voxels = e.rowMajor) ∧
    ∀ v, e.rowMajor.count v = if e.shape.contains v = true then 1 else 0 := by
  refine ⟨fun i hlo hhi => ⟨liesAt_voxelAt hlo hhi, fun v hv => hv.eq_voxelAt⟩,
    fun positions haxes => ⟨voxelsAt_eq_ok haxes,
      fun hindices houtside => ⟨_, voxelsAt_of_outside hindices houtside, rfl⟩,
      fun hwide => ⟨_, voxelsAt_of_not_isIndex hwide, rfl⟩⟩,
    fun n hn => ?_, e.count_rowMajor⟩
  have hcut := e.cutInto_blocks hn
  exact ⟨e.blocks n, blocks_ofExtents e (by omega), hcut,
    fun hroom b hb => voxelsAt_block hroom (hcut.tiles.bounds b hb).2.2,
    hcut.tiles.flatMap_voxels⟩

/-- A grid of two slices with four rows of four voxels, in blocks of five. -/
theorem blocks_enumerate_voxels_small :
    let e : Extents := { nuSize := 2, muSSize := 2, muSize := 4, rSize := 2 }
    e.LiesAt ⟨3, 3, 1⟩ 31 ∧
    (e.voxelsAt (.row [31, 0]) : Except (Failure Float) _) =
      .ok (.row [⟨3, 3, 1⟩, ⟨0, 0, 0⟩]) ∧
    (∃ failure, (e.voxelsAt (.row [0, -1]) : Except (Failure Float) _) = .error failure ∧
      failure.kind = .value) ∧
    (∃ failure, (e.voxelsAt (.row [0, 2 ^ 63]) : Except (Failure Float) _) = .error failure ∧
      failure.kind = .overflow) ∧
    (∃ blocks, (GridSizes.ofExtents e : GridSizes Float).blocks (.integer 5) = .ok blocks ∧
      e.CutInto 5 blocks ∧ blocks.flatMap e.voxels = e.rowMajor) ∧
    e.rowMajor.count ⟨3, 3, 1⟩ = 1 := by
  intro e
  have hfirst : e.voxelAt 0 = ⟨0, 0, 0⟩ := by decide
  have hlast : e.voxelAt 31 = ⟨3, 3, 1⟩ := by decide
  obtain ⟨hlies, hvoxels, hblocks, hcount⟩ := blocks_enumerate_voxels (α := Float) e
  obtain ⟨hinside, -, -⟩ := hvoxels (.row [31, 0]) (by decide)
  obtain ⟨-, houtside, -⟩ := hvoxels (.row [0, -1]) (by decide)
  obtain ⟨-, -, hwide⟩ := hvoxels (.row [0, 2 ^ 63]) (by decide)
  obtain ⟨blocks, hok, hcut, -, hall⟩ := hblocks 5 (by decide)
  refine ⟨hlast ▸ (hlies 31 (by decide) (by decide)).1, ?_,
    houtside (by decide) (.inr ⟨-1, by simp [Tensor.row], by decide⟩),
    hwide ⟨2 ^ 63, by simp [Tensor.row], by decide⟩, ⟨blocks, hok, hcut, hall⟩,
    hcount ⟨3, 3, 1⟩⟩
  rw [hinside (by decide) (by decide), Tensor.map_row, ← hfirst, ← hlast]
  rfl

/-- An integer beyond 64 bits is not refused because of its value, and a grid of `2 ^ 63` voxels
refuses the position of its first voxel. -/
theorem voxelsAt_refuses_position :
    let small : Extents := { nuSize := 2, muSSize := 2, muSize := 4, rSize := 2 }
    let large : Extents := { nuSize := 2, muSSize := 2, muSize := 4, rSize := 2 ^ 59 }
    (¬ ((2 ^ 63 : Int) < small.voxelCount) ∧ ∃ failure,
      (small.voxelsAt (.single (2 ^ 63)) : Except (Failure Float) _) = .error failure ∧
        failure.kind ≠ .value) ∧
    (0 < large.voxelCount ∧ ∃ failure,
      (large.voxelsAt (.single 0) : Except (Failure Float) _) = .error failure) := by
  intro small large
  have hwide : ∃ i ∈ (Tensor.single (2 ^ 63 : Int)).data, Tensor.isIndex i = false :=
    ⟨2 ^ 63, by simp [Tensor.single], by decide⟩
  exact ⟨⟨by decide, .overflow, voxelsAt_of_not_isIndex hwide, by decide⟩,
    by decide, .shapes .other, voxelsAt_of_outside (by decide) (.inl (by decide))⟩

end Extents

end Airlight.Grid
