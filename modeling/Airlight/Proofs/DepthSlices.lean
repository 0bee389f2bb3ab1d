import Mathlib.Algebra.BigOperators.Ring.List
import Mathlib.Algebra.BigOperators.Group.List.Lemmas
import Mathlib.Algebra.GroupWithZero.Nat
import Airlight.Proofs.Tiling
import Airlight.Scalar.Float

/-!
# Grids and the images that show them

Tiling and untiling undo each other: a grid is read back from its image, and an image from the grid
that it shows. An image whose width cannot be divided into the slices is refused. So is one without
values whose slices would have more bytes than indices can reach, although its own bytes do not: an
axis without positions leaves the others free to be that long.

## Main definitions

* `Tensor.Addressable` — the sizes that an array can have.
* `ShowsSlices` — what an image shows of a grid.
* `Indivisible` — what cannot be divided into slices.
-/

namespace Airlight

namespace Tensor

variable {φ : Type} {s t : List Nat} {bytes n : Nat}

/-- The sizes that an array can have whose values take so many bytes each: indices reach all of its
bytes, also when axes without positions are left out. -/
def Addressable (shape : List Nat) (bytes : Nat) : Prop :=
  bytes * (shape.filter (· ≠ 0)).prod ≤ indexLimit

instance : Decidable (Addressable s bytes) := inferInstanceAs (Decidable (_ ≤ _))

theorem foldl_mul (s : List Nat) (bytes : Nat) : s.foldl (· * ·) bytes = bytes * s.prod := by
  induction s generalizing bytes with
  | nil => simp
  | cons n s ih => rw [List.foldl_cons, ih, List.prod_cons, Nat.mul_assoc]

/-- The order of the axes does not matter. -/
theorem Addressable.perm (h : Addressable s bytes) (hperm : s.Perm t) : Addressable t bytes := by
  rwa [Addressable, ← (hperm.filter _).prod_eq]

/-- Indices reach each position along each axis. -/
theorem Addressable.le_indexLimit (h : Addressable s bytes) (hbytes : 0 < bytes) (hn : n ∈ s) :
    n ≤ indexLimit := by
  rcases Nat.eq_zero_or_pos n with rfl | hpos
  · exact Nat.zero_le _
  have hmem : n ∈ s.filter (· ≠ 0) := List.mem_filter.mpr ⟨hn, decide_eq_true hpos.ne'⟩
  have hprod : (s.filter (· ≠ 0)).prod ≠ 0 := List.prod_ne_zero (by simp)
  calc n ≤ (s.filter (· ≠ 0)).prod :=
        Nat.le_of_dvd (Nat.pos_of_ne_zero hprod) (List.dvd_prod hmem)
    _ ≤ bytes * (s.filter (· ≠ 0)).prod := Nat.le_mul_of_pos_left _ hbytes
    _ ≤ indexLimit := h

/-- There is room for an array without values if it can be addressed. -/
theorem checkRoom_of_addressable (hzero : 0 ∈ s) (hbytes : 0 < bytes) (h : Addressable s bytes) :
    (checkRoom s bytes : Except (Failure φ) Unit) = .ok () := by
  have hsizes : ¬ (s.any (indexLimit < ·)) = true := by
    simpa using fun n hn => h.le_indexLimit hbytes hn
  have htotal : ¬ indexLimit < (s.filter (· ≠ 0)).foldl (· * ·) bytes := by
    rw [foldl_mul]
    exact Nat.not_lt.mpr h
  have hmemory : ¬ (memoryLimit < (s.filter (· ≠ 0)).foldl (· * ·) bytes &&
      !s.contains 0) = true := by
    simp [hzero]
  simp only [checkRoom, if_neg hsizes, if_neg htotal, if_neg hmemory]

/-- An array that cannot be addressed is refused because of its sizes. -/
theorem exists_checkRoom_eq_error (h : ¬ Addressable s bytes) :
    ∃ fault, (checkRoom s bytes : Except (Failure φ) Unit) = .error (.shapes fault) := by
  have htotal : indexLimit < (s.filter (· ≠ 0)).foldl (· * ·) bytes := by
    rw [foldl_mul]
    exact Nat.not_le.mp h
  simp only [checkRoom, if_pos htotal]
  split_ifs
  · exact ⟨_, rfl⟩
  · exact ⟨_, rfl⟩

end Tensor

namespace Storage

open Tensor

variable {α : Type} [Inhabited α] {grid image : Tensor α} {d h w n : Nat}

/-- The image shows the slices of the grid side by side: it has the value at column `x` of slice `z`
at its column `z * w + x`. -/
structure ShowsSlices (image grid : Tensor α) (d h w n : Nat) : Prop where
  shape : image.shape = [h, d * w, n]
  value : ∀ z y x c, z < d → y < h → x < w → c < n →
    ∃ v, grid.get? [z, y, x, c] = some v ∧ image.get? [y, z * w + x, c] = some v

theorem showsSlices_tile (hgrid : grid.shape = [d, h, w, n]) :
    ShowsSlices (tile d h w n grid.data) grid d h w n where
  shape := rfl
  value z y x c hz hy hx hc := by
    have hposition := position?_four hz hy hx hc
    have hlt := position?_lt hposition
    have hvalue : (grid.get? [z, y, x, c]).isSome = true := by
      rw [get?, hgrid, hposition]
      rw [← hgrid, ← grid.size_eq] at hlt
      simp [hlt]
    obtain ⟨v, hv⟩ := Option.isSome_iff_exists.mp hvalue
    exact ⟨v, hv, by rw [get?_tile hgrid hz hy hx hc, hv]⟩

/-- What has to hold for an image not to be divided into so many slices: there would be none, its
width is no multiple of them or, where it has no values, the slices cannot be addressed. -/
def Indivisible (image : Tensor α) (height width channels : Nat) (depth : Int) : Prop :=
  depth < 1 ∨ ¬ depth ∣ (width : Int) ∨
    image.data = #[] ∧ ¬ Addressable [height, depth.toNat, width / depth.toNat, channels] 8

/-- An axis without positions is one of the image and of its slices. -/
theorem zero_mem_slices_iff (hd : 0 < d) : 0 ∈ [h, d, w, n] ↔ 0 ∈ [h, d * w, n] := by
  have hne : 0 ≠ d := hd.ne
  simp [hne, hd.ne', eq_comm]

/-- The slices of an image with values have as many bytes as the image. -/
theorem addressable_slices {bytes : Nat} (hd : 0 < d) (hvalues : 0 ∉ [h, d * w, n])
    (himage : Addressable [h, d * w, n] bytes) : Addressable [h, d, w, n] bytes := by
  have hslices : 0 ∉ [h, d, w, n] := mt (zero_mem_slices_iff hd).mp hvalues
  have hall : ∀ {s : List Nat}, 0 ∉ s → s.filter (· ≠ 0) = s := fun hs =>
    List.filter_eq_self.mpr fun m hm => decide_eq_true fun h => hs (h ▸ hm)
  rw [Addressable, hall hvalues] at himage
  rw [Addressable, hall hslices]
  simpa [Nat.mul_assoc] using himage

section Untiling

variable [Scalar α] {depth : Int}

/-- A depth below one, or one that does not divide the width, is refused. -/
theorem untileTensor_of_not_dvd (himage : image.shape = [h, w, n])
    (hdepth : depth < 1 ∨ ¬ depth ∣ (w : Int)) :
    untileTensor image (.integer depth) = .error (.argument (.tiling w (.integer depth))) := by
  have hrefused : ((Quantity.whole depth : Quantity α).isBelow 1 ||
      !(Quantity.whole depth : Quantity α).divides (w : Int)) = true := by
    rcases hdepth with hbelow | hdvd
    · simp [Quantity.isBelow, hbelow]
    · have hmod : (w : Int) % depth ≠ 0 := fun h => hdvd (Int.dvd_of_emod_eq_zero h)
      simp [Quantity.divides, hmod]
  rw [untileTensor, himage]
  simp only [Value.quantity, ok_bind, if_pos hrefused]
  rfl

/-- An image is untiled if its slices can be addressed. -/
theorem untileTensor_of_addressable (himage : image.shape = [h, d * w, n]) (hd : 0 < d)
    (hslices : Addressable [h, d, w, n] 8) :
    untileTensor image (.integer d) = .ok (untile d h w n image.data) := by
  have hlimit : d ≤ indexLimit := hslices.le_indexLimit (by decide) (by simp)
  rw [untileTensor_divided himage hd, if_neg (by omega)]
  by_cases hempty : image.data.isEmpty = true
  · have hzero := (zero_mem_slices_iff hd).mpr (himage ▸ data_isEmpty_iff.mp hempty)
    have hroom := checkRoom_of_addressable (φ := α) hzero (by decide) hslices
    rw [if_pos hempty, hroom]
    rfl
  · rw [if_neg hempty]
    rfl

/-- An image without values is refused if its slices cannot be addressed. -/
theorem exists_untileTensor_eq_error (himage : image.shape = [h, d * w, n]) (hd : 0 < d)
    (hempty : image.data = #[]) (hslices : ¬ Addressable [h, d, w, n] 8) :
    ∃ fault, untileTensor image (.integer d) = .error (.shapes fault) := by
  obtain ⟨fault, hroom⟩ := exists_checkRoom_eq_error (φ := α) hslices
  rw [untileTensor_divided himage hd]
  split_ifs with hlimit hvalues
  · exact ⟨_, rfl⟩
  · exact ⟨fault, by rw [hroom]; rfl⟩
  · exact absurd (Array.isEmpty_iff.mpr hempty) hvalues

/-- A depth from one on that divides the width, and the width of the slices. -/
theorem exists_slices_of_dvd (hpos : 1 ≤ depth) (hdvd : depth ∣ (w : Int)) :
    ∃ d : Nat, 0 < d ∧ depth = d ∧ w = d * (w / d) := by
  obtain ⟨d, rfl⟩ := Int.eq_ofNat_of_zero_le (by omega : 0 ≤ depth)
  exact ⟨d, by omega, rfl, (Nat.mul_div_cancel' (Int.natCast_dvd_natCast.mp hdvd)).symm⟩

/-- What cannot be divided is refused because of its value. -/
theorem exists_error_of_indivisible (himage : image.shape = [h, w, n])
    (hdepth : Indivisible image h w n depth) :
    ∃ failure, untileTensor image (.integer depth) = .error failure ∧ failure.kind = .value := by
  by_cases hfits : 1 ≤ depth ∧ depth ∣ (w : Int)
  · obtain ⟨hempty, hslices⟩ := (hdepth.resolve_left (by omega)).resolve_left (not_not.mpr hfits.2)
    obtain ⟨d, hd, rfl, hw⟩ := exists_slices_of_dvd hfits.1 hfits.2
    rw [hw] at himage
    obtain ⟨fault, hfault⟩ := exists_untileTensor_eq_error himage hd hempty hslices
    exact ⟨_, hfault, rfl⟩
  · exact ⟨_, untileTensor_of_not_dvd himage (by omega), rfl⟩

/-- Anything else is divided, and is the image of the grid that it shows. -/
theorem exists_grid_of_not_indivisible (himage : image.shape = [h, w, n])
    (haddressable : Addressable image.shape 8) (hdepth : ¬ Indivisible image h w n depth) :
    ∃ grid, untileTensor image (.integer depth) = .ok grid ∧
      (tileTensor grid : Except (Failure α) _) = .ok image := by
  obtain ⟨hpos, hdvd, hslices⟩ : 1 ≤ depth ∧ depth ∣ (w : Int) ∧
      (image.data = #[] → Addressable [h, depth.toNat, w / depth.toNat, n] 8) := by
    simpa [Indivisible] using hdepth
  obtain ⟨d, hd, rfl, hw⟩ := exists_slices_of_dvd hpos hdvd
  rw [hw] at himage
  have hslices : Addressable [h, d, w / d, n] 8 := by
    by_cases hzero : 0 ∈ image.shape
    · exact hslices (Array.isEmpty_iff.mp (data_isEmpty_iff.mpr hzero))
    · rw [himage] at hzero haddressable
      exact addressable_slices hd hzero haddressable
  refine ⟨_, untileTensor_of_addressable himage hd hslices, ?_⟩
  rw [tileTensor, untile, shape_ofFn]
  exact congrArg Except.ok (tile_untile himage)

/-- Tiling and untiling undo each other, for arrays whose values take eight bytes each. A grid is
always tiled: its image has the value at column `x` of slice `z` at its column `z * w + x`, and the
grid is read back from it. An image that cannot be divided into the slices is refused because of its
value, and any other is the image of the grid that it shows. -/
theorem tile_untile_inverse :
    (∀ (grid : Tensor α) (d h w n : Nat), grid.shape = [d, h, w, n] →
      ∃ image, (tileTensor grid : Except (Failure α) _) = .ok image ∧
        ShowsSlices image grid d h w n ∧
        (1 ≤ d → Addressable grid.shape 8 → untileTensor image (.integer d) = .ok grid)) ∧
    (∀ (image : Tensor α) (h w n : Nat) (depth : Int), image.shape = [h, w, n] →
      Addressable image.shape 8 →
      ((∃ failure, untileTensor image (.integer depth) = .error failure ∧
          failure.kind = .value) ↔ Indivisible image h w n depth) ∧
      (¬ Indivisible image h w n depth →
        ∃ grid, untileTensor image (.integer depth) = .ok grid ∧
          (tileTensor grid : Except (Failure α) _) = .ok image)) := by
  constructor
  · intro grid d h w n hgrid
    refine ⟨tile d h w n grid.data, by rw [tileTensor, hgrid], showsSlices_tile hgrid, ?_⟩
    intro hd haddressable
    have hslices : Addressable [h, d, w, n] 8 :=
      Addressable.perm (hgrid ▸ haddressable) (List.Perm.swap h d [w, n])
    rw [untileTensor_of_addressable rfl hd hslices, untile_tile hgrid]
  · intro image h w n depth himage haddressable
    have hgrid := fun hdepth : ¬ Indivisible image h w n depth =>
      exists_grid_of_not_indivisible himage haddressable hdepth
    refine ⟨⟨?_, exists_error_of_indivisible himage⟩, hgrid⟩
    rintro ⟨failure, hfailure, -⟩
    by_contra hdepth
    obtain ⟨grid, hok, -⟩ := hgrid hdepth
    cases hok.symm.trans hfailure

end Untiling

/-- A grid of two slices, an image of six columns that shows three slices but not four, and an image
without columns that shows four. -/
theorem tile_untile_inverse_small :
    let grid : Tensor Float := ⟨[2, 1, 3, 1], #[0, 1, 2, 3, 4, 5], rfl⟩
    let image : Tensor Float := ⟨[1, 6, 1], #[0, 1, 2, 3, 4, 5], rfl⟩
    let empty : Tensor Float := ⟨[2, 0, 1], #[], rfl⟩
    (∃ tiled, (tileTensor grid : Except (Failure Float) _) = .ok tiled ∧
      ShowsSlices tiled grid 2 1 3 1 ∧ untileTensor tiled (.integer 2) = .ok grid) ∧
    (∃ failure, untileTensor image (.integer 4) = .error failure ∧ failure.kind = .value) ∧
    (∃ slices, untileTensor image (.integer 3) = .ok slices ∧
      (tileTensor slices : Except (Failure Float) _) = .ok image) ∧
    ∃ slices, untileTensor empty (.integer 4) = .ok slices ∧
      (tileTensor slices : Except (Failure Float) _) = .ok empty := by
  intro grid image empty
  have hinverse := tile_untile_inverse (α := Float)
  refine ⟨?_, ?_, ?_, ?_⟩
  · obtain ⟨tiled, htiled, hshows, huntile⟩ := hinverse.1 grid 2 1 3 1 rfl
    exact ⟨tiled, htiled, hshows, huntile (by decide) (by decide)⟩
  · exact (hinverse.2 image 1 6 1 4 rfl (by decide)).1.mpr (.inr (.inl (by decide)))
  · exact (hinverse.2 image 1 6 1 3 rfl (by decide)).2 (by simp [Indivisible, image])
  · refine (hinverse.2 empty 2 0 1 4 rfl (by decide)).2 ?_
    have hslices : Addressable [2, 4, 0, 1] 8 := by decide
    simpa [Indivisible] using fun _ => hslices

/-- An image without values is refused although two divides its width, which is zero: it has so many
channels that two slices would have `2 ^ 63` bytes. -/
theorem untileTensor_refuses_divided_width :
    let image : Tensor Float := ⟨[0, 0, 2 ^ 59], #[], rfl⟩
    Addressable image.shape 8 ∧ ¬ ((2 : Int) < 1 ∨ ¬ (2 : Int) ∣ ((0 : Nat) : Int)) ∧
      ∃ failure, untileTensor image (.integer 2) = .error failure ∧ failure.kind = .value :=
  ⟨by decide, by decide, .shapes .tooLarge, rfl, rfl⟩

end Storage

end Airlight
