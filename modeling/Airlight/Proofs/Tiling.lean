import Airlight.Proofs.Tensors
import Airlight.Storage.Tiling

/-!
# Depth slices side by side

Slice `z` of a grid that is `w` wide fills the columns from `z * w` on of its image. So each value
of the grid stands at one place of the image, and a grid can be read back from its image.
-/

namespace Airlight.Storage

open Tensor

variable {α β : Type} [Inhabited α] [Inhabited β] {t : Tensor α} {d h w n z y x c : Nat}

/-- The image has the value at column `x` of slice `z` at its column `z * w + x`. -/
theorem get?_tile (ht : t.shape = [d, h, w, n]) (hz : z < d) (hy : y < h) (hx : x < w)
    (hc : c < n) :
    (tile d h w n t.data).get? [y, z * w + x, c] = t.get? [z, y, x, c] := by
  have hcolumn := mul_add_lt hz hx
  have hgrid := position?_four hz hy hx hc
  rw [tile, get?_ofFn, position?_three hy hcolumn hc, get?, ht, hgrid]
  have hlt := position?_lt hgrid
  rw [← ht, ← t.size_eq] at hlt
  simp only [Option.map_some, Option.bind_some, mul_add_div hc, mul_add_div hcolumn,
    mul_add_div hx, Nat.mul_add_mod_of_lt hc, Nat.mul_add_mod_of_lt hcolumn,
    Nat.mul_add_mod_of_lt hx]
  rw [Array.getD_eq_getD_getElem?, Array.getElem?_eq_getElem hlt, Option.getD_some]

/-- The grid of an image has the value at column `z * w + x` at column `x` of slice `z`. -/
theorem get?_untile (ht : t.shape = [h, d * w, n]) (hz : z < d) (hy : y < h) (hx : x < w)
    (hc : c < n) :
    (untile d h w n t.data).get? [z, y, x, c] = t.get? [y, z * w + x, c] := by
  have hcolumn := mul_add_lt hz hx
  have himage := position?_three hy hcolumn hc
  rw [untile, get?_ofFn, position?_four hz hy hx hc, get?, ht, himage]
  have hlt := position?_lt himage
  rw [← ht, ← t.size_eq, ← Nat.add_assoc] at hlt
  simp only [Option.map_some, Option.bind_some, mul_add_div hc, mul_add_div hx, mul_add_div hy,
    Nat.mul_add_mod_of_lt hc, Nat.mul_add_mod_of_lt hx, Nat.mul_add_mod_of_lt hy, ← Nat.add_assoc]
  rw [Array.getD_eq_getD_getElem?, Array.getElem?_eq_getElem hlt, Option.getD_some]

/-- Four indices, each below the size of its axis. -/
theorem exists_four_of_forall₂ {index : List Nat}
    (hindex : List.Forall₂ (· < ·) index [d, h, w, n]) :
    ∃ z y x c, z < d ∧ y < h ∧ x < w ∧ c < n ∧ index = [z, y, x, c] := by
  cases hindex with | cons hz hindex =>
  cases hindex with | cons hy hindex =>
  cases hindex with | cons hx hindex =>
  cases hindex with | cons hc hindex =>
  cases hindex
  exact ⟨_, _, _, _, hz, hy, hx, hc, rfl⟩

theorem exists_three_of_forall₂ {index : List Nat}
    (hindex : List.Forall₂ (· < ·) index [h, w, n]) :
    ∃ y x c, y < h ∧ x < w ∧ c < n ∧ index = [y, x, c] := by
  cases hindex with | cons hy hindex =>
  cases hindex with | cons hx hindex =>
  cases hindex with | cons hc hindex =>
  cases hindex
  exact ⟨_, _, _, hy, hx, hc, rfl⟩

/-- A grid is read back from its image. -/
theorem untile_tile (ht : t.shape = [d, h, w, n]) :
    untile d h w n (tile d h w n t.data).data = t := by
  refine ext_get? ht.symm fun index hindex => ?_
  obtain ⟨z, y, x, c, hz, hy, hx, hc, rfl⟩ := exists_four_of_forall₂ hindex
  rw [get?_untile rfl hz hy hx hc, get?_tile ht hz hy hx hc]

/-- An image is that of the grid that it shows. -/
theorem tile_untile (ht : t.shape = [h, d * w, n]) :
    tile d h w n (untile d h w n t.data).data = t := by
  refine ext_get? ht.symm fun index hindex => ?_
  obtain ⟨y, column, c, hy, hcolumn, hc, rfl⟩ := exists_three_of_forall₂ hindex
  have hw : 0 < w := Nat.pos_of_mul_pos_left (Nat.zero_lt_of_lt hcolumn)
  have hz : column / w < d := (Nat.div_lt_iff_lt_mul hw).mpr hcolumn
  have hsplit := Nat.div_add_mod' column w
  rw [← hsplit, get?_tile rfl hz hy (Nat.mod_lt _ hw) hc, get?_untile ht hz hy (Nat.mod_lt _ hw) hc]

/-- What is done to all values of an image is done to all values of its grid. -/
theorem untile_map (f : α → β) (ht : t.shape = [h, d * w, n]) :
    untile d h w n (t.map f).data = (untile d h w n t.data).map f := by
  refine ext_get? rfl fun index hindex => ?_
  obtain ⟨z, y, x, c, hz, hy, hx, hc, rfl⟩ := exists_four_of_forall₂ hindex
  have himage : (t.map f).shape = [h, d * w, n] := ht
  rw [get?_untile himage hz hy hx hc, get?_map, get?_map, get?_untile ht hz hy hx hc]

/-- What is done to all values of a grid is done to all values of its image. -/
theorem tile_map (f : α → β) (ht : t.shape = [d, h, w, n]) :
    tile d h w n (t.map f).data = (tile d h w n t.data).map f := by
  have hgrid : (untile d h w n ((tile d h w n t.data).map f).data) = t.map f := by
    rw [untile_map f rfl, untile_tile ht]
  rw [← hgrid, tile_untile rfl]

/-- A width that is divided into slices is untiled, if indices reach all slices and, for an image
without values, there is room for them. -/
theorem untileTensor_divided {α : Type} [Inhabited α] [Scalar α] {t : Tensor α}
    (ht : t.shape = [h, d * w, n]) (hd : 0 < d) :
    untileTensor t (.integer d) =
      if indexLimit < d then .error (.shapes .tooLong)
      else do
        if t.data.isEmpty then checkRoom [h, d, w, n] 8
        return untile d h w n t.data := by
  have hwidth : d * w / d = w := Nat.mul_div_cancel_left w hd
  have hbelow : (Quantity.whole (d : Int) : Quantity α).isBelow 1 = false := by
    simp [Quantity.isBelow]; omega
  have hdivides : (Quantity.whole (d : Int) : Quantity α).divides ((d : Int) * (w : Int)) = true :=
    by simp [Quantity.divides]
  have hindex : isIndex (d : Int) = decide (d ≤ indexLimit) := by
    simp [isIndex]; omega
  rw [untileTensor, ht]
  by_cases hlimit : d ≤ indexLimit
  · have haxis : (Value.integer (d : Int) : Value α).axisLength = .ok d := by
      simp [Value.axisLength, Value.quantity, Quantity.toInt, hindex, hlimit]
    simp [Value.quantity, hbelow, hdivides, haxis, hwidth, hlimit]
  · have haxis : (Value.integer (d : Int) : Value α).axisLength = .error (.shapes .tooLong) := by
      simp [Value.axisLength, Value.quantity, Quantity.toInt, hindex, hlimit]
    simp [Value.quantity, hbelow, hdivides, haxis, Nat.not_le.mp hlimit]

/-- An image whose width is divided into slices shows a grid. -/
theorem untileTensor_eq_ok {α : Type} [Inhabited α] [Scalar α] {t : Tensor α}
    (ht : t.shape = [h, d * w, n]) (hd : 0 < d) (hh : 0 < h) (hw : 0 < w) (hn : 0 < n)
    (hlimit : d ≤ indexLimit) :
    untileTensor t (.integer d) = .ok (untile d h w n t.data) := by
  have hvalues : t.data.isEmpty = false := by
    rw [Bool.eq_false_iff, Ne, data_isEmpty_iff, ht]
    simp [hd.ne', hh.ne, hw.ne', hn.ne]
  rw [untileTensor_divided ht hd, if_neg (by omega), hvalues]
  rfl

end Airlight.Storage
