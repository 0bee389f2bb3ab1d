import Airlight.Grid.Extents
import Airlight.Proofs.GridContents

/-!
# The order of voxels

Positions in row-major order and voxels of the grid correspond to each other, and the blocks of a
pass cover all positions once, one block after another.

## Main definitions

* `Extents.Tiles` — blocks that cover a range of positions one after another.
-/

namespace Airlight.Grid

open Texture

variable {e : Extents} {v : Voxel} {i start stop size : Nat}

theorem contains_iff : e.shape.contains v = true ↔
    (0 ≤ v.x ∧ v.x < e.width) ∧ (0 ≤ v.y ∧ v.y < e.muSize) ∧ 0 ≤ v.z ∧ v.z < e.rSize :=
  GridShape.contains_iff

namespace Extents

theorem width_pos (e : Extents) : 0 < e.width :=
  Nat.mul_pos (by have := e.two_le_nuSize; omega) (by have := e.two_le_muSSize; omega)

theorem height_pos (e : Extents) : 0 < e.height := by
  have := e.four_le_muSize
  unfold height
  omega

theorem depth_pos (e : Extents) : 0 < e.depth := by
  have := e.two_le_rSize
  unfold depth
  omega

theorem voxelCount_pos (e : Extents) : 0 < e.voxelCount :=
  Nat.mul_pos (Nat.mul_pos e.width_pos e.height_pos) e.depth_pos

theorem sizes_pos (e : Extents) : ∀ n ∈ e.shape.sizes, 0 < n := by
  simp [GridShape.sizes, shape, e.depth_pos, e.height_pos, e.width_pos]

theorem count_shape (e : Extents) : e.shape.count = e.voxelCount := by
  simp only [GridShape.count, shape, voxelCount]
  ring

/-- The voxel at a position has that position. -/
theorem position_voxelAt (e : Extents) (i : Nat) : e.shape.position (e.voxelAt i) = i :=
  e.shape.position_voxelAt i

theorem contains_of_lt {x y z : Nat} (hx : x < e.width) (hy : y < e.height) (hz : z < e.depth) :
    e.shape.contains ⟨x, y, z⟩ = true :=
  GridShape.contains_of_lt hx hy hz

/-- The positions of the grid belong to voxels of the grid. -/
theorem contains_voxelAt (hi : i < e.voxelCount) : e.shape.contains (e.voxelAt i) = true :=
  GridShape.contains_voxelAt (e.count_shape ▸ hi)

/-- The voxels of the grid have positions in it. -/
theorem position_lt (hv : e.shape.contains v = true) : e.shape.position v < e.voxelCount :=
  e.count_shape ▸ GridShape.position_lt hv

/-- A voxel of the grid is the one at its position. -/
theorem voxelAt_position (hv : e.shape.contains v = true) :
    e.voxelAt (e.shape.position v) = v :=
  GridShape.voxelAt_position hv

/-! ## Blocks -/

/-- Blocks that cover a range of positions one after another. None of them is empty. -/
inductive Tiles : Nat → Nat → List Block → Prop
  | nil (n : Nat) : Tiles n n []
  | cons {first last stop : Nat} {rest : List Block} (h : first < last)
      (hrest : Tiles last stop rest) : Tiles first stop ((first, last) :: rest)

theorem Tiles.le {blocks : List Block} (h : Tiles start stop blocks) : start ≤ stop := by
  induction h with
  | nil => exact le_rfl
  | cons hlt _ ih => exact hlt.le.trans ih

/-- The blocks lie in the range. -/
theorem Tiles.bounds {blocks : List Block} (h : Tiles start stop blocks) :
    ∀ b ∈ blocks, start ≤ b.1 ∧ b.1 < b.2 ∧ b.2 ≤ stop := by
  induction h with
  | nil => nofun
  | cons hlt hrest ih =>
    have := hrest.le
    refine List.forall_mem_cons.mpr ⟨⟨le_rfl, hlt, hrest.le⟩, fun b hb => ?_⟩
    obtain ⟨hfirst, hb⟩ := ih b hb
    exact ⟨by omega, hb⟩

/-- Blocks end before the next ones begin. -/
theorem Tiles.pairwise {blocks : List Block} (h : Tiles start stop blocks) :
    blocks.Pairwise fun a b => a.2 ≤ b.1 := by
  induction h with
  | nil => exact .nil
  | cons _ hrest ih => exact .cons (fun b hb => (hrest.bounds b hb).1) ih

/-- Each position of the range lies in a block. -/
theorem Tiles.exists_block {blocks : List Block} (h : Tiles start stop blocks) (hlo : start ≤ i)
    (hhi : i < stop) : ∃ b ∈ blocks, b.1 ≤ i ∧ i < b.2 := by
  induction h with
  | nil => omega
  | @cons first last stop rest _ _ ih =>
    rcases Nat.lt_or_ge i last with hlast | hlast
    · exact ⟨(first, last), List.mem_cons_self, hlo, hlast⟩
    · obtain ⟨b, hb, hi⟩ := ih hlast hhi
      exact ⟨b, List.mem_cons_of_mem _ hb, hi⟩

theorem blocksFrom_of_le (hsize : 0 < size) (h : stop ≤ start) :
    blocksFrom start stop size = [] := by
  have : (stop - start + size - 1) / size = 0 := Nat.div_eq_of_lt (by omega)
  rw [blocksFrom, this, List.range_zero, List.map_nil]

theorem blocksFrom_of_lt (hsize : 0 < size) (h : start < stop) :
    blocksFrom start stop size =
      (start, min (start + size) stop) :: blocksFrom (start + size) stop size := by
  have hcount : (stop - start + size - 1) / size =
      (stop - (start + size) + size - 1) / size + 1 := by
    rcases Nat.lt_or_ge (start + size) stop with hmore | hlast
    · rw [show stop - start + size - 1 = stop - (start + size) + size - 1 + size by omega,
        Nat.add_div_right _ hsize]
    · rw [Nat.div_eq_of_lt (by omega : stop - (start + size) + size - 1 < size),
        show stop - start + size - 1 = stop - start - 1 + size by omega,
        Nat.add_div_right _ hsize, Nat.div_eq_of_lt (by omega)]
  rw [blocksFrom, hcount, List.range_succ_eq_map, List.map_cons, List.map_map, blocksFrom]
  congr 1
  · simp
  · refine List.map_congr_left fun k _ => ?_
    have hshift (j : Nat) : start + (j + 1) * size = start + size + j * size := by ring
    simp only [Function.comp, Nat.succ_eq_add_one, hshift]

/-- The blocks of any size cover the range, also where the size does not divide it. -/
theorem tiles_blocksFrom (hsize : 0 < size) (h : start ≤ stop) :
    Tiles start stop (blocksFrom start stop size) := by
  induction hn : stop - start using Nat.strong_induction_on generalizing start with
  | _ n ih =>
    rcases h.eq_or_lt with rfl | hlt
    · rw [blocksFrom_of_le hsize le_rfl]
      exact .nil _
    · rw [blocksFrom_of_lt hsize hlt]
      refine .cons (by omega) ?_
      rcases Nat.lt_or_ge stop (start + size) with hlast | hmore
      · rw [Nat.min_eq_right hlast.le, blocksFrom_of_le hsize hlast.le]
        exact .nil _
      · rw [Nat.min_eq_left hmore]
        exact ih (stop - (start + size)) (by omega) hmore rfl

end Extents

end Airlight.Grid
