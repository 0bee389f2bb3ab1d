import Mathlib.Data.List.Nodup
import Airlight.Proofs.VoxelOrder
import Airlight.Scattering.Pass

/-!
# Grids and sums along a pass

A pass fills its grids and adds to its sums in the order of positions. After the first `k` positions
the grids hold a value at those positions and nothing elsewhere, and the sums have been added to at
those positions only. A block takes either of these states to the one at its end.

## Main definitions

* `VoxelGrid.filledTo` — the grid that holds values up to a position.
* `LuminanceSums.addedTo` — the sums to which values have been added up to a position.
-/

namespace Airlight

open Colour Grid Texture

namespace Texture.VoxelGrid

variable {α φ : Type} {n : Nat} {e : Extents} {f : Nat → Vector α n} {start stop m : Nat}

theorem mem_voxels {v : Voxel} {b : Extents.Block} (hstop : b.2 ≤ e.voxelCount) :
    v ∈ e.voxels b ↔
      e.shape.contains v = true ∧ b.1 ≤ e.shape.position v ∧ e.shape.position v < b.2 := by
  simp only [Extents.voxels, List.mem_map, List.mem_range'_1]
  constructor
  · rintro ⟨i, hi, rfl⟩
    rw [Extents.position_voxelAt]
    exact ⟨Extents.contains_voxelAt (by omega), by omega⟩
  · rintro ⟨hv, hi⟩
    exact ⟨_, by omega, Extents.voxelAt_position hv⟩

theorem nodup_voxels (e : Extents) (b : Extents.Block) : (e.voxels b).Nodup := by
  have hinverse : Function.LeftInverse e.shape.position e.voxelAt := e.position_voxelAt
  exact List.Nodup.map hinverse.injective List.nodup_range'

/-- Different blocks have no voxel in common. -/
theorem eq_of_mem_voxels {blocks : List Extents.Block} {i j : Nat} {a b : Extents.Block} {v : Voxel}
    (htiles : Extents.Tiles start stop blocks) (hstop : stop ≤ e.voxelCount)
    (hi : blocks[i]? = some a) (hj : blocks[j]? = some b) (ha : v ∈ e.voxels a)
    (hb : v ∈ e.voxels b) : i = j := by
  obtain ⟨hi', rfl⟩ := List.getElem?_eq_some_iff.mp hi
  obtain ⟨hj', rfl⟩ := List.getElem?_eq_some_iff.mp hj
  have hpair := List.pairwise_iff_getElem.mp htiles.pairwise
  have hvi := (mem_voxels ((htiles.bounds _ (List.getElem_mem hi')).2.2.trans hstop)).mp ha
  have hvj := (mem_voxels ((htiles.bounds _ (List.getElem_mem hj')).2.2.trans hstop)).mp hb
  rcases Nat.lt_trichotomy i j with h | h | h
  · have := hpair i j hi' hj' h
    omega
  · exact h
  · have := hpair j i hj' hi' h
    omega

/-- Each voxel belongs to one of the blocks that cover the grid. -/
theorem exists_block_of_contains {blocks : List Extents.Block} {v : Voxel}
    (htiles : Extents.Tiles 0 e.voxelCount blocks) (hv : e.shape.contains v = true) :
    ∃ (i : Nat) (block : Extents.Block), blocks[i]? = some block ∧ v ∈ e.voxels block := by
  obtain ⟨block, hmem, hposition⟩ := htiles.exists_block (Nat.zero_le _) (Extents.position_lt hv)
  obtain ⟨i, hi, hget⟩ := List.mem_iff_getElem.mp hmem
  exact ⟨i, block, List.getElem?_eq_some_iff.mpr ⟨hi, hget⟩,
    (mem_voxels (htiles.bounds _ hmem).2.2).mpr ⟨hv, hposition⟩⟩

/-- A block that has not been written is taken. -/
theorem refusal?_block {g : VoxelGrid α n} {b : Extents.Block} (hshape : g.shape = e.shape)
    (hstop : b.2 ≤ e.voxelCount) (hblank : ∀ v ∈ e.voxels b, g.read v = none) :
    g.refusal? (φ := φ) (e.voxels b) = none := by
  rcases g.refusal?_cases (φ := φ) (e.voxels b) with
    ⟨⟨v, hv, houtside⟩, -⟩ | ⟨-, ⟨⟨v, hv, hread⟩, -⟩ | ⟨-, hnone⟩⟩
  · have hinside := ((mem_voxels hstop).mp hv).1
    rw [← hshape, houtside] at hinside
    exact absurd hinside (by decide)
  · simp [hblank v hv] at hread
  · exact hnone

/-- Filling the cells of a block changes what is read at its voxels only. -/
theorem read_fill_block_of_not_mem {g : VoxelGrid α n} {b : Extents.Block} {v : Voxel}
    {store : α → α} (hshape : g.shape = e.shape) (hstop : b.2 ≤ e.voxelCount)
    (values : List (Vector α n)) (hv : v ∉ e.voxels b) :
    (g.fill store ((e.voxels b).zip values)).read v = g.read v := by
  refine read_fill_of_not_mem (fun entry hentry => ?_) fun hmem => ?_
  · rw [hshape]
    exact ((mem_voxels hstop).mp (List.of_mem_zip hentry).1).1
  · obtain ⟨entry, hentry, rfl⟩ := List.mem_map.mp hmem
    exact hv (List.of_mem_zip hentry).1

/-- The cells of a block hold the values for their positions. -/
theorem read_fill_block_of_mem {grid : VoxelGrid α n} {b : Extents.Block} {v : Voxel}
    {store : α → α} (hshape : grid.shape = e.shape) (hstop : b.2 ≤ e.voxelCount)
    (g : Nat → Vector α n) (hv : v ∈ e.voxels b) :
    (grid.fill store ((e.voxels b).zip ((List.range' b.1 (b.2 - b.1)).map g))).read v =
      some ((g (e.shape.position v)).map store) := by
  have hzip : (e.voxels b).zip ((List.range' b.1 (b.2 - b.1)).map g) =
      (e.voxels b).map fun v => (v, g (e.shape.position v)) := by
    simp only [Extents.voxels, List.zip_map', List.map_map, Function.comp_def,
      Extents.position_voxelAt]
  have hinside : ∀ v ∈ e.voxels b, grid.shape.contains v = true := fun v hv =>
    hshape ▸ ((mem_voxels hstop).mp hv).1
  rw [hzip]
  refine read_fill_of_mem (f := fun v => (g (e.shape.position v)).map store)
    (List.forall_mem_map.mpr hinside) (List.forall_mem_map.mpr fun _ _ => rfl) ?_
  simpa [Function.comp_def] using hv

/-! ## Grids that are filled up to a position -/

/-- Cells that hold the value `f i` at each position `i` before `k`. -/
def cellsTo (count : Nat) (f : Nat → Vector α n) (k : Nat) : Vector (Option (Vector α n)) count :=
  Vector.ofFn fun i => if i.val < k then some (f i) else none

/-- The grid that holds the value `f i` at each position `i` before `k`. -/
def filledTo (shape : GridShape) (f : Nat → Vector α n) (k : Nat) : VoxelGrid α n :=
  ⟨shape, cellsTo shape.count f k⟩

@[simp] theorem getElem_cellsTo {count k i : Nat} (hi : i < count) :
    (cellsTo count f k)[i] = if i < k then some (f i) else none := by
  simp [cellsTo]

/-- Only the values before the position matter. -/
theorem filledTo_congr {shape : GridShape} {g : Nat → Vector α n} {k : Nat}
    (h : ∀ i < k, f i = g i) : filledTo shape f k = filledTo shape g k := by
  refine congrArg (VoxelGrid.mk shape) (Vector.ext fun i hi => ?_)
  rw [getElem_cellsTo, getElem_cellsTo]
  split_ifs with hk
  · rw [h i hk]
  · rfl

/-- The grid holds the values at the voxels before a position. -/
theorem holds_filledTo (e : Extents) (f : Nat → Vector α n) (k : Nat) :
    (filledTo e.shape f k).Holds {v | e.shape.contains v = true ∧ e.shape.position v < k}
      fun v => f (e.shape.position v) := by
  have hread : ∀ v, e.shape.contains v = true → (filledTo e.shape f k).read v =
      if e.shape.position v < k then some (f (e.shape.position v)) else none := by
    intro v hv
    exact (read_eq (g := filledTo e.shape f k) hv (GridShape.position_lt hv)).trans
      (getElem_cellsTo _)
  constructor
  · rintro v ⟨hv, hk⟩
    rw [hread v hv, if_pos hk]
  · intro v hv
    by_cases hinside : e.shape.contains v = true
    · rw [hread v hinside, if_neg fun hk => hv ⟨hinside, hk⟩]
    · exact if_neg hinside

theorem empty_eq_filledTo (e : Extents) (f : Nat → Vector α n) :
    empty e.shape = filledTo e.shape f 0 := by
  have hset : {v | e.shape.contains v = true ∧ e.shape.position v < 0} = ∅ := by simp
  exact (holds_empty e.shape _).unique (hset ▸ holds_filledTo e f 0) rfl

/-- A grid that is filled up to the start of a block takes the voxels of the block. -/
theorem refusal?_filledTo (hstop : stop ≤ e.voxelCount) :
    (filledTo e.shape f start).refusal? (φ := φ) (e.voxels (start, stop)) = none := by
  refine refusal?_block rfl hstop fun v hv => (holds_filledTo e f start).blank v fun hwritten => ?_
  exact absurd ((mem_voxels hstop).mp hv).2.1 (Nat.not_le.mpr hwritten.2)

/-- A block takes the grid that is filled up to its start to the one that is filled up to its
end. -/
theorem fill_filledTo (store : α → α) (g : Nat → Vector α n) (h : start ≤ stop)
    (hstop : stop ≤ e.voxelCount) :
    (filledTo e.shape (fun i => (g i).map store) start).fill store
        ((e.voxels (start, stop)).zip ((List.range' start (stop - start)).map g)) =
      filledTo e.shape (fun i => (g i).map store) stop := by
  have hstart := holds_filledTo e (fun i => (g i).map store) start
  have hend := holds_filledTo e (fun i => (g i).map store) stop
  have hmem : ∀ v, v ∈ e.voxels (start, stop) ↔ e.shape.contains v = true ∧
      start ≤ e.shape.position v ∧ e.shape.position v < stop := fun v => mem_voxels hstop
  refine ext_read rfl fun v hinside => ?_
  by_cases hv : v ∈ e.voxels (start, stop)
  · obtain ⟨hinside, -, hlt⟩ := (hmem v).mp hv
    exact (read_fill_block_of_mem rfl hstop g hv).trans (hend.value v ⟨hinside, hlt⟩).symm
  · rw [read_fill_block_of_not_mem rfl hstop _ hv]
    by_cases hlt : e.shape.position v < start
    · rw [hstart.value v ⟨hinside, hlt⟩, hend.value v ⟨hinside, by omega⟩]
    · rw [hstart.blank v fun hbefore => hlt hbefore.2, hend.blank v fun hafter =>
        hv ((hmem v).mpr ⟨hinside, Nat.not_lt.mp hlt, hafter.2⟩)]

/-- A grid that is filled up to its end is complete. -/
theorem isComplete_filledTo (e : Extents) (f : Nat → Vector α n) :
    (filledTo e.shape f e.voxelCount).isComplete = true :=
  (holds_filledTo e f _).isComplete_iff.mpr fun _ hv => ⟨hv, Extents.position_lt hv⟩

/-- A grid is complete only if it is filled up to its end. -/
theorem le_of_isComplete_filledTo {k : Nat} (h : (filledTo e.shape f k).isComplete = true) :
    e.voxelCount ≤ k := by
  have hpos := e.voxelCount_pos
  have hlast := (holds_filledTo e f k).isComplete_iff.mp h _
    (Extents.contains_voxelAt (i := e.voxelCount - 1) (by omega))
  rw [Set.mem_ofPred_eq, Extents.position_voxelAt] at hlast
  omega

/-- The array of a grid that is filled up to its end holds the values at their voxels. -/
theorem get?_toTensor_filledTo [Scalar α] [Inhabited α] {x y z c : Nat} (hx : x < e.width)
    (hy : y < e.height) (hz : z < e.depth) (hc : c < n) :
    (filledTo e.shape f e.voxelCount).toTensor.get? [z, y, x, c] =
      some (f (e.shape.position ⟨x, y, z⟩))[c] := by
  have hv := Extents.contains_of_lt hx hy hz
  rw [get?_toTensor _ hx hy hz hc,
    (holds_filledTo e f _).value _ ⟨hv, Extents.position_lt hv⟩, Option.getD_some]

end Texture.VoxelGrid

namespace LuminanceSums

variable {α : Type} [Scalar α] {n : Nat}

/-- Sums to which the value `g i` has been added at each position `i` before `k`. -/
def addedTo (store : α → α) (sums : Vector (Triple α) n) (g : Nat → Triple α) (k : Nat) :
    Vector (Triple α) n :=
  sums.mapIdx fun i sum =>
    if i < k then Vector.zipWith (fun a b => store (a + b)) sum (g i) else sum

@[simp] theorem getElem_addedTo (store : α → α) (sums : Vector (Triple α) n) (g : Nat → Triple α)
    (k i : Nat) (hi : i < n) :
    (addedTo store sums g k)[i] =
      if i < k then Vector.zipWith (fun a b => store (a + b)) sums[i] (g i) else sums[i] := by
  simp [addedTo]

/-- Only the values before the position matter. -/
theorem addedTo_congr (store : α → α) (sums : Vector (Triple α) n) {f g : Nat → Triple α} {k : Nat}
    (h : ∀ i < k, f i = g i) : addedTo store sums f k = addedTo store sums g k := by
  ext i hi : 1
  rw [getElem_addedTo, getElem_addedTo]
  split_ifs with hk
  · rw [h i hk]
  · rfl

theorem addedTo_zero (store : α → α) (sums : Vector (Triple α) n) (g : Nat → Triple α) :
    addedTo store sums g 0 = sums := by
  ext i hi : 1
  rw [getElem_addedTo, if_neg (Nat.not_lt_zero i)]

/-- Values from a position on are added to sums to which those before it have been added. -/
theorem addFrom_addedTo (store : α → α) (sums : Vector (Triple α) n) (g : Nat → Triple α)
    (m start : Nat) :
    addFrom store start ((List.range' start m).map g) (addedTo store sums g start) =
      addedTo store sums g (start + m) := by
  induction m generalizing start with
  | zero => rfl
  | succ m ih =>
    rw [List.range'_succ, List.map_cons, addFrom]
    split_ifs with hstart
    · have hadd : ∀ old value : Triple α, (Vector.ofFn fun c => store (old[c] + value[c])) =
          Vector.zipWith (fun a b => store (a + b)) old value := by
        intro old value
        ext c hc
        simp
      have hstep : (addedTo store sums g start).set start
          (Vector.zipWith (fun a b => store (a + b)) (addedTo store sums g start)[start] (g start))
          hstart = addedTo store sums g (start + 1) := by
        ext i hi : 1
        rw [Vector.getElem_set, getElem_addedTo, getElem_addedTo, getElem_addedTo,
          if_neg (Nat.lt_irrefl start)]
        rcases Nat.lt_trichotomy i start with h | rfl | h
        · rw [if_neg (by omega), if_pos h, if_pos (by omega)]
        · rw [if_pos rfl, if_pos (by omega)]
        · rw [if_neg (by omega), if_neg (by omega), if_neg (by omega)]
      dsimp only
      rw [hadd, hstep, ih (start + 1), show start + 1 + m = start + (m + 1) by omega]
    · -- no position is left, so neither side adds anything
      ext i hi : 1
      rw [getElem_addedTo, getElem_addedTo, if_pos (by omega), if_pos (by omega)]

/-- A block takes the sums that have been added to up to its start to those added to up to its
end. -/
theorem addFrom_block (store : α → α) (sums : Vector (Triple α) n) (g : Nat → Triple α)
    {start stop : Nat} (h : start ≤ stop) :
    addFrom store start ((List.range' start (stop - start)).map g) (addedTo store sums g start) =
      addedTo store sums g stop := by
  rw [addFrom_addedTo, Nat.add_sub_cancel' h]

omit [Scalar α] in
/-- The array of sums holds them at their voxels. -/
theorem get?_toTensor [Inhabited α] {e : Extents} (sums : Vector (Triple α) e.voxelCount)
    {x y z c : Nat} (hx : x < e.width) (hy : y < e.height) (hz : z < e.depth) (hc : c < 3)
    (hi : e.shape.position ⟨x, y, z⟩ < e.voxelCount) :
    (toTensor e.shape.sizes sums).get? [z, y, x, c] = some sums[e.shape.position ⟨x, y, z⟩][c] := by
  refine Tensor.get?_ofVectors hz hy hx hc ?_
  rw [Vector.getElem?_toArray]
  exact Vector.getElem?_eq_getElem hi

end LuminanceSums

end Airlight
