import Mathlib.Data.Set.Insert
import Mathlib.Tactic.Lift
import Mathlib.Tactic.Ring
import Airlight.Proofs.Tensors
import Airlight.Texture.VoxelGrid

/-!
# What a grid holds

Voxels of a grid correspond to positions in its cells, so a grid is determined by what can be read
from it. All facts about writes are stated in terms of the voxels that have been written and the
values that they hold.

## Main definitions

* `VoxelGrid.Holds` — the grid holds given values at a set of voxels and nothing elsewhere.
-/

namespace Airlight.Texture

/-! ## Coordinates -/

namespace Voxel

variable {φ : Type} {v : Voxel}

/-- The coordinates of a voxel as a row. -/
theorem indices_coordinates (h : ∀ c ∈ v.coordinates, Tensor.isIndex c = true) :
    (Tensor.row v.coordinates.toList).indices (φ := φ) = .ok (.row v.coordinates.toList) := by
  refine if_pos (Array.all_eq_true_iff_forall_mem.mpr fun c hc => h c ?_)
  simpa using hc

/-- A voxel is read back from its coordinates. -/
theorem ofTensor_coordinates (h : ∀ c ∈ v.coordinates, Tensor.isIndex c = true) :
    (ofTensor (.row v.coordinates.toList) : Except (Failure φ) (Tensor Voxel)) =
      .ok (.single v) := by
  rw [ofTensor, indices_coordinates h, ok_bind]
  exact congrArg Except.ok (Tensor.ext_data rfl (by rfl))

end Voxel

/-! ## Positions -/

namespace GridShape

variable {s : GridShape} {v w : Voxel} {i : Nat}

theorem contains_iff : s.contains v = true ↔
    (0 ≤ v.x ∧ v.x < s.width) ∧ (0 ≤ v.y ∧ v.y < s.height) ∧ 0 ≤ v.z ∧ v.z < s.depth := by
  simp only [contains, Bool.and_eq_true, decide_eq_true_eq, and_assoc]

theorem contains_of_lt {x y z : Nat} (hx : x < s.width) (hy : y < s.height) (hz : z < s.depth) :
    s.contains ⟨x, y, z⟩ = true :=
  contains_iff.mpr ⟨⟨Int.natCast_nonneg _, Int.ofNat_lt.mpr hx⟩,
    ⟨Int.natCast_nonneg _, Int.ofNat_lt.mpr hy⟩, Int.natCast_nonneg _, Int.ofNat_lt.mpr hz⟩

/-- The voxel at a position in row-major order. -/
def voxelAt (s : GridShape) (i : Nat) : Voxel :=
  ⟨(i % s.width : Nat), (i / s.width % s.height : Nat), (i / (s.width * s.height) : Nat)⟩

/-- The voxel at a position has that position. -/
theorem position_voxelAt (s : GridShape) (i : Nat) : s.position (s.voxelAt i) = i := by
  simp only [position, voxelAt, Int.toNat_natCast]
  rw [← Nat.div_div_eq_div_mul, Nat.div_add_mod', Nat.div_add_mod']

/-- Positions of cells belong to voxels of the grid. -/
theorem contains_voxelAt (hi : i < s.count) : s.contains (s.voxelAt i) = true := by
  have hpos : 0 < s.depth * s.height * s.width := by rw [count] at hi; omega
  have hwidth : 0 < s.width := Nat.pos_of_mul_pos_left hpos
  have hheight : 0 < s.height := Nat.pos_of_mul_pos_left (Nat.pos_of_mul_pos_right hpos)
  refine contains_of_lt (Nat.mod_lt i hwidth) (Nat.mod_lt _ hheight) (Nat.div_lt_of_lt_mul ?_)
  calc i < s.count := hi
    _ = s.width * s.height * s.depth := by rw [count]; ring

/-- The voxels of a grid have positions of cells. -/
theorem position_lt (hv : s.contains v = true) : s.position v < s.count := by
  obtain ⟨⟨hx, hx'⟩, ⟨hy, hy'⟩, hz, hz'⟩ := contains_iff.mp hv
  have hx : v.x.toNat < s.width := by omega
  have hy : v.y.toNat < s.height := by omega
  have hz : v.z.toNat < s.depth := by omega
  exact mul_add_lt (mul_add_lt hz hy) hx

/-- A voxel of the grid is the one at its position. -/
theorem voxelAt_position (hv : s.contains v = true) : s.voxelAt (s.position v) = v := by
  obtain ⟨⟨hx, hx'⟩, ⟨hy, hy'⟩, hz, -⟩ := contains_iff.mp hv
  obtain ⟨x, y, z⟩ := v
  simp only at hx hx' hy hy' hz
  lift x to ℕ using hx
  lift y to ℕ using hy
  lift z to ℕ using hz
  have hx : x < s.width := by exact_mod_cast hx'
  have hy : y < s.height := by exact_mod_cast hy'
  simp only [position, voxelAt, Int.toNat_natCast, ← Nat.div_div_eq_div_mul, mul_add_div hx,
    mul_add_div hy, Nat.mul_add_mod_of_lt hx, Nat.mul_add_mod_of_lt hy]

/-- Different voxels of a grid have different positions. -/
theorem position_inj (hv : s.contains v = true) (hw : s.contains w = true) :
    s.position v = s.position w ↔ v = w := by
  constructor
  · intro h
    rw [← voxelAt_position hv, ← voxelAt_position hw, h]
  · rintro rfl
    rfl

end GridShape

namespace VoxelGrid

variable {α φ : Type} {n : Nat} {g g' : VoxelGrid α n} {f f' : Voxel → Vector α n}
  {written : Set Voxel} {v w : Voxel} {store : α → α}

/-! ## Reading -/

theorem read_eq (hv : g.shape.contains v = true) (hlt : g.shape.position v < g.shape.count) :
    g.read v = g.cells[g.shape.position v] := by
  rw [read, if_pos hv, Vector.getElem?_eq_getElem hlt, Option.join_some]

theorem contains_of_read (h : (g.read v).isSome = true) : g.shape.contains v = true := by
  by_contra hv
  simp [read, hv] at h

/-- A grid is determined by its shape and by what can be read at its voxels. -/
theorem ext_read (hshape : g.shape = g'.shape)
    (hread : ∀ v, g.shape.contains v = true → g.read v = g'.read v) : g = g' := by
  obtain ⟨s, cells⟩ := g
  obtain ⟨_, cells'⟩ := g'
  obtain rfl := hshape
  congr 1
  ext i hi : 1
  have hv := GridShape.contains_voxelAt hi
  have hlt := GridShape.position_lt hv
  have h := hread (s.voxelAt i) hv
  rw [read_eq (g := ⟨s, cells⟩) hv hlt, read_eq (g := ⟨s, cells'⟩) hv hlt] at h
  simpa only [GridShape.position_voxelAt] using h

/-- A grid is complete when all of its voxels have been written. -/
theorem isComplete_iff :
    g.isComplete = true ↔ ∀ v, g.shape.contains v = true → (g.read v).isSome = true := by
  rw [isComplete, Vector.all_eq_true]
  constructor
  · intro hall v hv
    have hlt := GridShape.position_lt hv
    rw [read_eq hv hlt]
    exact hall _ hlt
  · intro hall i hi
    have hv := GridShape.contains_voxelAt hi
    have hread := hall _ hv
    rw [read_eq hv (GridShape.position_lt hv)] at hread
    simpa only [GridShape.position_voxelAt] using hread

/-- The array of a grid holds the values of written voxels and zeros at the others. -/
theorem get?_toTensor [Scalar α] [Inhabited α] (g : VoxelGrid α n) {x y z c : Nat}
    (hx : x < g.shape.width) (hy : y < g.shape.height) (hz : z < g.shape.depth) (hc : c < n) :
    g.toTensor.get? [z, y, x, c] =
      some (((g.read ⟨x, y, z⟩).getD (Vector.replicate n 0.0))[c]) := by
  have hv := GridShape.contains_of_lt hx hy hz
  have hlt := GridShape.position_lt hv
  refine Tensor.get?_ofVectors hz hy hx hc ?_
  rw [Array.getElem?_map, Vector.getElem?_toArray,
    show (z * g.shape.height + y) * g.shape.width + x = g.shape.position ⟨x, y, z⟩ from rfl,
    Vector.getElem?_eq_getElem hlt, Option.map_some, read_eq hv hlt]

theorem read_empty (shape : GridShape) : (empty shape : VoxelGrid α n).read v = none := by
  by_cases hv : shape.contains v = true
  · rw [read_eq (g := empty shape) hv (GridShape.position_lt hv)]
    exact Vector.getElem_replicate _
  · exact if_neg hv

/-! ## Writing -/

@[simp] theorem shape_fill (entries : List (Voxel × Vector α n)) :
    (g.fill store entries).shape = g.shape := rfl

theorem fill_cons (entry : Voxel × Vector α n) (entries : List (Voxel × Vector α n)) :
    g.fill store (entry :: entries) = (g.fill store [entry]).fill store entries := rfl

/-- Filling one cell changes what is read at its voxel only. -/
theorem read_fill_single (hv : g.shape.contains v = true) (value : Vector α n) :
    (g.fill store [(v, value)]).read w = if w = v then some (value.map store) else g.read w := by
  by_cases hw : g.shape.contains w = true
  · have hlt := GridShape.position_lt hw
    rw [read_eq (g := g.fill store [(v, value)]) hw hlt, read_eq hw hlt]
    refine (Vector.getElem_setIfInBounds _).trans ?_
    simp only [shape_fill, GridShape.position_inj hv hw, eq_comm]
  · have hne : w ≠ v := by
      rintro rfl
      exact hw hv
    rw [if_neg hne]
    exact (if_neg hw).trans (if_neg hw).symm

/-- Filling cells changes what is read at their voxels only. -/
theorem read_fill_of_not_mem {entries : List (Voxel × Vector α n)}
    (hinside : ∀ entry ∈ entries, g.shape.contains entry.1 = true)
    (hv : v ∉ entries.map Prod.fst) : (g.fill store entries).read v = g.read v := by
  induction entries generalizing g with
  | nil => rfl
  | cons entry entries ih =>
    obtain ⟨w, value⟩ := entry
    obtain ⟨hw, hinside⟩ := List.forall_mem_cons.mp hinside
    obtain ⟨hne, hv⟩ := List.ne_and_not_mem_of_not_mem_cons hv
    rw [fill_cons, ih (g := g.fill store [(w, value)]) hinside hv, read_fill_single hw, if_neg hne]

/-- Filled cells hold the values for their voxels. -/
theorem read_fill_of_mem {entries : List (Voxel × Vector α n)}
    (hinside : ∀ entry ∈ entries, g.shape.contains entry.1 = true)
    (hvalue : ∀ entry ∈ entries, entry.2.map store = f entry.1) (hv : v ∈ entries.map Prod.fst) :
    (g.fill store entries).read v = some (f v) := by
  induction entries generalizing g with
  | nil => exact absurd hv List.not_mem_nil
  | cons entry entries ih =>
    obtain ⟨w, value⟩ := entry
    obtain ⟨hw, hinside⟩ := List.forall_mem_cons.mp hinside
    obtain ⟨hwvalue, hvalue⟩ := List.forall_mem_cons.mp hvalue
    rw [fill_cons]
    by_cases hrest : v ∈ entries.map Prod.fst
    · exact ih (g := g.fill store [(w, value)]) hinside hvalue hrest
    · have hvw : v = w := (List.mem_cons.mp hv).resolve_right hrest
      rw [read_fill_of_not_mem (g := g.fill store [(w, value)]) hinside hrest, read_fill_single hw,
        if_pos hvw, hwvalue, hvw]

/-- Filled cells count as written, and so do those that had been written before. -/
theorem isSome_read_fill (store : α → α) {entries : List (Voxel × Vector α n)}
    (hinside : ∀ entry ∈ entries, g.shape.contains entry.1 = true) (v : Voxel) :
    ((g.fill store entries).read v).isSome = true ↔
      v ∈ entries.map Prod.fst ∨ (g.read v).isSome = true := by
  induction entries generalizing g with
  | nil => simp [fill, fillCells]
  | cons entry entries ih =>
    obtain ⟨w, value⟩ := entry
    obtain ⟨hw, hinside⟩ := List.forall_mem_cons.mp hinside
    rw [fill_cons, ih (g := g.fill store [(w, value)]) hinside, read_fill_single hw]
    by_cases hvw : v = w
    · simp [hvw]
    · simp [hvw]

/-- Values for different voxels are all read back. -/
theorem map_read_fill {voxels : List Voxel} {values : List (Vector α n)} (hdistinct : voxels.Nodup)
    (hinside : ∀ v ∈ voxels, g.shape.contains v = true) (hlength : values.length = voxels.length) :
    voxels.map (g.fill store (voxels.zip values)).read =
      values.map fun value => some (value.map store) := by
  induction voxels generalizing g values with
  | nil => rw [List.length_eq_zero_iff.mp hlength, List.map_nil, List.map_nil]
  | cons v voxels ih =>
    obtain ⟨value, values, rfl⟩ := List.exists_cons_of_length_eq_add_one hlength
    obtain ⟨hfresh, hdistinct⟩ := List.nodup_cons.mp hdistinct
    obtain ⟨hv, hinside⟩ := List.forall_mem_cons.mp hinside
    have hfirst : ((g.fill store [(v, value)]).fill store (voxels.zip values)).read v =
        some (value.map store) := by
      rw [read_fill_of_not_mem (g := g.fill store [(v, value)]), read_fill_single hv, if_pos rfl]
      · exact fun entry hentry => hinside _ (List.of_mem_zip hentry).1
      · intro hmem
        obtain ⟨entry, hentry, rfl⟩ := List.mem_map.mp hmem
        exact hfresh (List.of_mem_zip hentry).1
    rw [List.zip_cons_cons, fill_cons, List.map_cons, List.map_cons, hfirst,
      ih (g := g.fill store [(v, value)]) hdistinct hinside (by simpa using hlength)]

/-- Filling an empty cell makes one more written cell. -/
theorem writtenCount_fill_single (hv : g.shape.contains v = true) (hblank : g.read v = none)
    (value : Vector α n) : (g.fill store [(v, value)]).writtenCount = g.writtenCount + 1 := by
  have hlt := GridShape.position_lt hv
  have hsize : g.shape.position v < g.cells.toArray.size := by simpa using hlt
  have hcell : g.cells.toArray[g.shape.position v] = none := by
    rw [Vector.getElem_toArray, ← read_eq hv hlt, hblank]
  change (g.cells.setIfInBounds (g.shape.position v) _).toArray.countP _ = _
  rw [Vector.toArray_setIfInBounds, Array.setIfInBounds, dif_pos hsize,
    Array.countP_set, hcell]
  simp [writtenCount]

/-- Filling different empty cells makes as many more written cells. -/
theorem writtenCount_fill {entries : List (Voxel × Vector α n)}
    (hdistinct : (entries.map Prod.fst).Nodup)
    (hinside : ∀ entry ∈ entries, g.shape.contains entry.1 = true)
    (hblank : ∀ entry ∈ entries, g.read entry.1 = none) :
    (g.fill store entries).writtenCount = g.writtenCount + entries.length := by
  induction entries generalizing g with
  | nil => rfl
  | cons entry entries ih =>
    obtain ⟨v, value⟩ := entry
    obtain ⟨hv, hinside⟩ := List.forall_mem_cons.mp hinside
    obtain ⟨hvblank, hblank⟩ := List.forall_mem_cons.mp hblank
    obtain ⟨hfresh, hdistinct⟩ := List.nodup_cons.mp hdistinct
    have hrest : ∀ entry ∈ entries, (g.fill store [(v, value)]).read entry.1 = none := by
      intro entry hentry
      have hne : entry.1 ≠ v := fun h => hfresh (List.mem_map.mpr ⟨entry, hentry, h⟩)
      rw [read_fill_single hv, if_neg hne, hblank entry hentry]
    rw [fill_cons, ih (g := g.fill store [(v, value)]) hdistinct hinside hrest,
      writtenCount_fill_single hv hvblank, List.length_cons]
    omega

/-- A block of voxels is refused because of one that lies outside, or else because of one that has
been written, and taken otherwise. -/
theorem refusal?_cases (g : VoxelGrid α n) (voxels : List Voxel) :
    (∃ v ∈ voxels, g.shape.contains v = false) ∧ g.refusal? (φ := φ) voxels =
        some (.voxelOutside g.shape.width g.shape.height g.shape.depth) ∨
      (∀ v ∈ voxels, g.shape.contains v = true) ∧
        ((∃ v ∈ voxels, (g.read v).isSome = true) ∧
            g.refusal? (φ := φ) voxels = some .writtenTwice ∨
          (∀ v ∈ voxels, g.read v = none) ∧ g.refusal? (φ := φ) voxels = none) := by
  unfold refusal?
  split_ifs with hinside hwritten
  · exact .inr ⟨List.all_eq_true.mp hinside, .inl ⟨List.any_eq_true.mp hwritten, rfl⟩⟩
  · exact .inr ⟨List.all_eq_true.mp hinside, .inr ⟨by simpa using hwritten, rfl⟩⟩
  · exact .inl ⟨by simpa using hinside, rfl⟩

/-! ## Contents -/

/-- The grid holds `f v` at each voxel `v` of a set and nothing elsewhere. -/
structure Holds (g : VoxelGrid α n) (written : Set Voxel) (f : Voxel → Vector α n) : Prop where
  value : ∀ v ∈ written, g.read v = some (f v)
  blank : ∀ v ∉ written, g.read v = none

theorem holds_empty (shape : GridShape) (f : Voxel → Vector α n) : (empty shape).Holds ∅ f :=
  ⟨fun _ h => h.elim, fun _ _ => read_empty shape⟩

namespace Holds

theorem isSome_iff (h : g.Holds written f) : (g.read v).isSome = true ↔ v ∈ written := by
  constructor
  · intro hv
    by_contra hblank
    simp [h.blank v hblank] at hv
  · intro hv
    simp [h.value v hv]

theorem contains (h : g.Holds written f) (hv : v ∈ written) : g.shape.contains v = true :=
  contains_of_read (h.isSome_iff.mpr hv)

/-- Only the values at written voxels count. -/
theorem congr (h : g.Holds written f) (hf : ∀ v ∈ written, f v = f' v) : g.Holds written f' :=
  ⟨fun v hv => by rw [h.value v hv, hf v hv], h.blank⟩

/-- Grids with the same contents are equal. -/
theorem unique (h : g.Holds written f) (h' : g'.Holds written f) (hshape : g.shape = g'.shape) :
    g = g' := by
  refine ext_read hshape fun v _ => ?_
  by_cases hv : v ∈ written
  · rw [h.value v hv, h'.value v hv]
  · rw [h.blank v hv, h'.blank v hv]

/-- Values for voxels of the grid are added to its contents. -/
theorem fill (h : g.Holds written f) {entries : List (Voxel × Vector α n)}
    (hinside : ∀ entry ∈ entries, g.shape.contains entry.1 = true)
    (hvalue : ∀ entry ∈ entries, entry.2.map store = f entry.1) :
    (g.fill store entries).Holds (written ∪ {v | v ∈ entries.map Prod.fst}) f := by
  constructor
  · intro v hv
    by_cases hmem : v ∈ entries.map Prod.fst
    · exact read_fill_of_mem hinside hvalue hmem
    · rw [read_fill_of_not_mem hinside hmem]
      exact h.value v (hv.resolve_right hmem)
  · intro v hv
    obtain ⟨hold, hmem⟩ := not_or.mp hv
    rw [read_fill_of_not_mem hinside hmem, h.blank v hold]

theorem isComplete_iff (h : g.Holds written f) :
    g.isComplete = true ↔ ∀ v, g.shape.contains v = true → v ∈ written := by
  simp only [VoxelGrid.isComplete_iff, h.isSome_iff]

/-- The number of written cells is the number of the voxels that have been written. -/
theorem writtenCount_eq {voxels : List Voxel} (h : g.Holds {v | v ∈ voxels} f)
    (hdistinct : voxels.Nodup) : g.writtenCount = voxels.length := by
  let entries : List (Voxel × Vector α n) := voxels.map fun v => (v, f v)
  have hfst : entries.map Prod.fst = voxels := by simp [entries, Function.comp_def]
  have hinside : ∀ entry ∈ entries, g.shape.contains entry.1 = true := by
    simpa [entries] using fun v hv => h.contains hv
  have hfill : ((empty g.shape).fill id entries).Holds {v | v ∈ voxels} f := by
    have hadded : ((empty g.shape).fill id entries).Holds (∅ ∪ {v | v ∈ entries.map Prod.fst}) f :=
      (holds_empty g.shape f).fill hinside (by simp [entries])
    rwa [hfst, Set.empty_union] at hadded
  have hcount : ((empty g.shape).fill id entries).writtenCount =
      (empty g.shape : VoxelGrid α n).writtenCount + entries.length :=
    writtenCount_fill (by rwa [hfst]) hinside fun _ _ => read_empty _
  rw [h.unique hfill rfl, hcount]
  simp [writtenCount, empty, entries]

end Holds

end VoxelGrid

end Airlight.Texture
