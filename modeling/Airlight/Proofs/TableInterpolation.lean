import Airlight.Proofs.Reals
import Airlight.Proofs.Tensors
import Airlight.Texture.Table

/-!
# Tables are interpolated linearly and continued by their edges

A lookup in a table is linear interpolation along the width, followed by linear interpolation along
the height. Along one axis the centres of the texels are at whole numbers; the two neighbours of a
position are moved into the table one by one, while the weights are not limited. That is sound
because beyond the outermost centres both neighbours are moved to the same texel, so the weights
drop out.

## Main definitions

* `Texture.interpolated` — linear interpolation along one axis.
* `Texture.Table.interpolation` — the value of a lookup.
* `AffineOn` — a function that is affine on a set of numbers.
-/

namespace Airlight

open Scalar

/-- The function is affine on a set of numbers. -/
def AffineOn (f : ℝ → ℝ) (s : Set ℝ) : Prop := ∃ a b, ∀ x ∈ s, f x = a + b * x

namespace Texture

/-! ## Indices -/

/-- The index of the texel that is nearest to a whole position. -/
def nearest (count : ℕ) (m : ℤ) : ℕ := (min (max m 0) ((count : ℤ) - 1)).toNat

section

variable {count : ℕ} {m : ℤ}

theorem nearest_lt (hcount : 0 < count) (m : ℤ) : nearest count m < count := by
  unfold nearest
  omega

theorem nearest_natCast {i : ℕ} (hi : i < count) : nearest count i = i := by
  unfold nearest
  omega

theorem nearest_of_nonpos (hm : m ≤ 0) : nearest count m = 0 := by
  unfold nearest
  omega

theorem nearest_of_last_le (hcount : 0 < count) (hm : (count : ℤ) - 1 ≤ m) :
    nearest count m = count - 1 := by
  unfold nearest
  omega

theorem edgeIndex?_intCast (hcount : 0 < count) (m : ℤ) :
    Table.edgeIndex? (m : ℝ) count = some (nearest count m) := by
  have hclamp : clamp (m : ℝ) 0.0 ((count : ℝ) - 1.0) = (nearest count m : ℝ) := by
    have hcast : ((nearest count m : ℕ) : ℤ) = min (max m 0) ((count : ℤ) - 1) := by
      unfold nearest
      omega
    have hreal : (nearest count m : ℝ) = ((min (max m 0) ((count : ℤ) - 1) : ℤ) : ℝ) := by
      exact_mod_cast congrArg (Int.cast (R := ℝ)) hcast
    rw [clamp_real, hreal]
    push_cast
    norm_num
  rw [Table.edgeIndex?, hclamp, toNat?_natCast]

theorem edgeIndex?_floor (hcount : 0 < count) (x : ℝ) :
    Table.edgeIndex? (floor x) count = some (nearest count ⌊x⌋) :=
  edgeIndex?_intCast hcount ⌊x⌋

theorem edgeIndex?_floor_add_one (hcount : 0 < count) (x : ℝ) :
    Table.edgeIndex? (floor x + 1.0) count = some (nearest count (⌊x⌋ + 1)) := by
  rw [← edgeIndex?_intCast hcount]
  congr 1
  norm_num

end

/-! ## One axis -/

/-- Linear interpolation between values at the positions 0, 1 and so on, up to `count - 1`. -/
noncomputable def interpolated (f : ℕ → ℝ) (count : ℕ) (x : ℝ) : ℝ :=
  f (nearest count ⌊x⌋) * (1 - Int.fract x) + f (nearest count (⌊x⌋ + 1)) * Int.fract x

section

variable {f g : ℕ → ℝ} {count i : ℕ} {x lo hi : ℝ}

/-- The value at a whole position is that of its texel. -/
theorem interpolated_natCast (hi : i < count) : interpolated f count i = f i := by
  simp [interpolated, nearest_natCast hi]

/-- Before the first centre both neighbours are the first texel. -/
theorem interpolated_of_nonpos (hcount : 0 < count) (hx : x ≤ 0) :
    interpolated f count x = f 0 := by
  rcases hx.eq_or_lt with rfl | hneg
  · exact_mod_cast interpolated_natCast hcount
  · have hfloor : ⌊x⌋ < 0 := Int.floor_lt.mpr (by exact_mod_cast hneg)
    rw [interpolated, nearest_of_nonpos hfloor.le, nearest_of_nonpos hfloor]
    ring

/-- Behind the last centre both neighbours are the last texel. -/
theorem interpolated_of_last_le (hcount : 0 < count) (hx : (count : ℝ) - 1 ≤ x) :
    interpolated f count x = f (count - 1) := by
  have hfloor : (count : ℤ) - 1 ≤ ⌊x⌋ := Int.le_floor.mpr (by exact_mod_cast hx)
  rw [interpolated, nearest_of_last_le hcount hfloor, nearest_of_last_le hcount (by omega)]
  ring

/-- Positions beyond the outermost centres count as these. -/
theorem interpolated_clamp (hcount : 0 < count) (f : ℕ → ℝ) (x : ℝ) :
    interpolated f count (clamp x 0 (count - 1)) = interpolated f count x := by
  have hlast : (0 : ℝ) ≤ count - 1 := by
    have : (1 : ℝ) ≤ count := by exact_mod_cast hcount
    linarith
  rw [clamp_real]
  rcases le_total x 0 with hneg | hpos
  · rw [max_eq_right hneg, min_eq_left hlast, interpolated_of_nonpos hcount hneg,
      interpolated_of_nonpos hcount le_rfl]
  · rw [max_eq_left hpos]
    rcases le_total x (count - 1) with hle | hge
    · rw [min_eq_left hle]
    · rw [min_eq_right hge, interpolated_of_last_le hcount hge,
        interpolated_of_last_le hcount le_rfl]

/-- Between two neighbouring centres the value runs along a line. -/
theorem interpolated_of_mem (hi : i + 1 < count) (hx : x ∈ Set.Icc (i : ℝ) (i + 1)) :
    interpolated f count x = f i + (f (i + 1) - f i) * (x - i) := by
  rcases hx.2.eq_or_lt with rfl | hlt
  · have := interpolated_natCast (f := f) hi
    push_cast at this
    rw [this]
    ring
  · have hfloor : ⌊x⌋ = i := Int.floor_eq_iff.mpr ⟨by exact_mod_cast hx.1, by exact_mod_cast hlt⟩
    have hnext : nearest count ((i : ℤ) + 1) = i + 1 := by exact_mod_cast nearest_natCast hi
    rw [interpolated, Int.fract, hfloor, nearest_natCast (by omega), hnext, Int.cast_natCast]
    ring

/-- An interpolated value is not below all values. -/
theorem exists_le_interpolated (hcount : 0 < count) (f : ℕ → ℝ) (x : ℝ) :
    ∃ k < count, f k ≤ interpolated f count x := by
  have hfract := Int.fract_nonneg x
  have hrest : 0 ≤ 1 - Int.fract x := sub_nonneg.mpr (Int.fract_lt_one x).le
  rcases le_total (f (nearest count ⌊x⌋)) (f (nearest count (⌊x⌋ + 1))) with hle | hle
  · refine ⟨_, nearest_lt hcount ⌊x⌋, ?_⟩
    unfold interpolated
    linarith [mul_le_mul_of_nonneg_right hle hfract]
  · refine ⟨_, nearest_lt hcount (⌊x⌋ + 1), ?_⟩
    unfold interpolated
    linarith [mul_le_mul_of_nonneg_right hle hrest]

theorem interpolated_neg (f : ℕ → ℝ) (count : ℕ) (x : ℝ) :
    interpolated (fun k => -f k) count x = -interpolated f count x := by
  unfold interpolated
  ring

/-- An interpolated value is not above all values. -/
theorem exists_interpolated_le (hcount : 0 < count) (f : ℕ → ℝ) (x : ℝ) :
    ∃ k < count, interpolated f count x ≤ f k := by
  obtain ⟨k, hk, hle⟩ := exists_le_interpolated hcount (fun k => -f k) x
  rw [interpolated_neg] at hle
  exact ⟨k, hk, neg_le_neg_iff.mp hle⟩

/-- Interpolation keeps a dependence affine. -/
theorem AffineOn.interpolated {F : ℕ → ℝ → ℝ} {s : Set ℝ} (hcount : 0 < count)
    (h : ∀ k < count, AffineOn (F k) s) (x : ℝ) :
    AffineOn (fun u => interpolated (fun k => F k u) count x) s := by
  obtain ⟨a, b, hab⟩ := h _ (nearest_lt hcount ⌊x⌋)
  obtain ⟨a', b', hab'⟩ := h _ (nearest_lt hcount (⌊x⌋ + 1))
  refine ⟨a * (1 - Int.fract x) + a' * Int.fract x, b * (1 - Int.fract x) + b' * Int.fract x,
    fun u hu => ?_⟩
  dsimp only [Texture.interpolated]
  rw [hab u hu, hab' u hu]
  ring

end

/-! ## Coordinates -/

/-- The position along an axis that a coordinate stands for. -/
noncomputable def position (count : ℕ) (u : ℝ) : ℝ := u * count - 0.5

section

variable {count i : ℕ} {u : ℝ}

theorem position_eq : position count u = u * count - 1 / 2 := by
  norm_num [position]

theorem position_centre (hcount : 0 < count) (i : ℕ) :
    position count (((i : ℝ) + 1 / 2) / count) = i := by
  have : (count : ℝ) ≠ 0 := by exact_mod_cast hcount.ne'
  rw [position_eq, div_mul_cancel₀ _ this]
  ring

/-- The outermost centres are the first and the last position. -/
theorem position_clamp (hcount : 0 < count) (u : ℝ) :
    position count (clamp u (1 / 2 / count) (1 - 1 / 2 / count)) =
      clamp (position count u) 0 (count - 1) := by
  have hpos : (0 : ℝ) < count := by exact_mod_cast hcount
  rw [clamp_real, clamp_real, position_eq, position_eq, min_mul_of_nonneg _ _ hpos.le,
    max_mul_of_nonneg _ _ hpos.le, ← min_sub_sub_right, ← max_sub_sub_right]
  have hfirst : 1 / 2 / (count : ℝ) * count - 1 / 2 = 0 := by
    field_simp
    ring
  have hlast : (1 - 1 / 2 / (count : ℝ)) * count - 1 / 2 = count - 1 := by
    field_simp
    ring
  rw [hfirst, hlast]

theorem position_mem (hcount : 0 < count)
    (hu : u ∈ Set.Icc (((i : ℝ) + 1 / 2) / count) (((i : ℝ) + 3 / 2) / count)) :
    position count u ∈ Set.Icc (i : ℝ) (i + 1) := by
  have hpos : (0 : ℝ) < count := by exact_mod_cast hcount
  have hlo := (div_le_iff₀ hpos).mp hu.1
  have hhi := (le_div_iff₀ hpos).mp hu.2
  rw [position_eq]
  exact ⟨by linarith, by linarith⟩

/-- Between two neighbouring centres an interpolated value is affine in the coordinate. -/
theorem affineOn_interpolated (hi : i + 1 < count) (f : ℕ → ℝ) :
    AffineOn (fun u => interpolated f count (position count u))
      (Set.Icc (((i : ℝ) + 1 / 2) / count) (((i : ℝ) + 3 / 2) / count)) := by
  refine ⟨f i - (f (i + 1) - f i) * (1 / 2 + i), (f (i + 1) - f i) * count, fun u hu => ?_⟩
  dsimp only
  rw [interpolated_of_mem hi (position_mem (by omega) hu), position_eq]
  ring

end

/-! ## Two axes -/

namespace Table

variable {n : ℕ} {t : Table ℝ n}

theorem exists_texel? {j i : ℕ} (hj : j < t.height) (hi : i < t.width) :
    ∃ texel, t.texel? j i = some texel :=
  ⟨_, by rw [texel?, if_pos hi, Vector.getElem?_eq_getElem (mul_add_lt hj hi)]⟩

theorem mem_of_texel? {j i : ℕ} {texel : Vector ℝ n} (h : t.texel? j i = some texel) :
    texel ∈ t.texels := by
  unfold texel? at h
  split_ifs at h
  exact Vector.mem_of_getElem? h

/-- A table that has been read has a texel. -/
theorem pos_of_sample {u v : ℝ} {value : Vector ℝ n} (h : t.sample u v = .ok value) :
    0 < t.height ∧ 0 < t.width := by
  unfold sample at h
  dsimp only at h
  split at h
  · split at h
    · next t00 _ _ _ h00 _ _ _ =>
      obtain ⟨k, hk, -⟩ := Vector.getElem_of_mem (mem_of_texel? h00)
      exact ⟨Nat.pos_of_mul_pos_right (Nat.zero_lt_of_lt hk),
        Nat.pos_of_mul_pos_left (Nat.zero_lt_of_lt hk)⟩
    · cases h
  · cases h

/-- The value of a channel in column `i` of row `j`. -/
def channel (t : Table ℝ n) (c j i : ℕ) : ℝ :=
  ((t.texel? j i).bind (·[c]?)).getD 0

theorem channel_of_texel? {c j i : ℕ} (hc : c < n) {texel : Vector ℝ n}
    (h : t.texel? j i = some texel) : t.channel c j i = texel[c] := by
  simp [channel, h, hc]

/-- The values between the texels, first along the width and then along the height. -/
noncomputable def interpolation (t : Table ℝ n) (u v : ℝ) : Vector ℝ n :=
  Vector.ofFn fun c => interpolated (fun j => interpolated (t.channel c j) t.width
    (position t.width u)) t.height (position t.height v)

theorem getElem_interpolation {c : ℕ} (hc : c < n) (u v : ℝ) :
    (t.interpolation u v)[c] = interpolated (fun j => interpolated (t.channel c j) t.width
      (position t.width u)) t.height (position t.height v) := by
  simp [interpolation]

section

variable (hheight : 0 < t.height) (hwidth : 0 < t.width)

include hheight hwidth

/-- A lookup succeeds with the interpolated value. -/
theorem sample_eq (u v : ℝ) : t.sample u v = .ok (t.interpolation u v) := by
  have hposition : ∀ (count : ℕ) (u : ℝ), u * (count : ℝ) - 0.5 = position count u :=
    fun _ _ => rfl
  obtain ⟨t00, h00⟩ := exists_texel? (nearest_lt hheight ⌊position t.height v⌋)
    (nearest_lt hwidth ⌊position t.width u⌋)
  obtain ⟨t01, h01⟩ := exists_texel? (nearest_lt hheight ⌊position t.height v⌋)
    (nearest_lt hwidth (⌊position t.width u⌋ + 1))
  obtain ⟨t10, h10⟩ := exists_texel? (nearest_lt hheight (⌊position t.height v⌋ + 1))
    (nearest_lt hwidth ⌊position t.width u⌋)
  obtain ⟨t11, h11⟩ := exists_texel? (nearest_lt hheight (⌊position t.height v⌋ + 1))
    (nearest_lt hwidth (⌊position t.width u⌋ + 1))
  unfold sample
  simp only [hposition, edgeIndex?_floor hwidth, edgeIndex?_floor_add_one hwidth,
    edgeIndex?_floor hheight, edgeIndex?_floor_add_one hheight, h00, h01, h10, h11]
  refine congrArg Except.ok (Vector.ext fun c hc => ?_)
  rw [Vector.getElem_ofFn, getElem_interpolation hc]
  simp only [interpolated, channel_of_texel? hc h00, channel_of_texel? hc h01,
    channel_of_texel? hc h10, channel_of_texel? hc h11, floor_real, Int.self_sub_floor]
  norm_num [blend]
  ring

/-- A lookup at the centre of a texel gives the texel. -/
theorem texel?_eq_interpolation {j i : ℕ} (hj : j < t.height) (hi : i < t.width) :
    t.texel? j i =
      some (t.interpolation (((i : ℝ) + 1 / 2) / t.width) (((j : ℝ) + 1 / 2) / t.height)) := by
  obtain ⟨texel, htexel⟩ := exists_texel? hj hi
  rw [htexel]
  refine congrArg some (Vector.ext fun c hc => ?_)
  rw [getElem_interpolation hc, position_centre hwidth, position_centre hheight,
    interpolated_natCast hj, interpolated_natCast hi, channel_of_texel? hc htexel]

theorem interpolation_clamp (u v : ℝ) :
    t.interpolation (clamp u (1 / 2 / t.width) (1 - 1 / 2 / t.width))
      (clamp v (1 / 2 / t.height) (1 - 1 / 2 / t.height)) = t.interpolation u v := by
  simp only [interpolation, position_clamp hwidth, position_clamp hheight,
    interpolated_clamp hwidth, interpolated_clamp hheight]

theorem exists_texel_le_interpolation {c : ℕ} (hc : c < n) (u v : ℝ) :
    ∃ texel ∈ t.texels, texel[c] ≤ (t.interpolation u v)[c] := by
  rw [getElem_interpolation hc]
  obtain ⟨j, hj, hrow⟩ := exists_le_interpolated hheight (fun j => interpolated (t.channel c j)
    t.width (position t.width u)) (position t.height v)
  obtain ⟨i, hi, hcolumn⟩ := exists_le_interpolated hwidth (t.channel c j) (position t.width u)
  obtain ⟨texel, htexel⟩ := exists_texel? hj hi
  rw [channel_of_texel? hc htexel] at hcolumn
  exact ⟨texel, mem_of_texel? htexel, hcolumn.trans hrow⟩

theorem exists_interpolation_le_texel {c : ℕ} (hc : c < n) (u v : ℝ) :
    ∃ texel ∈ t.texels, (t.interpolation u v)[c] ≤ texel[c] := by
  rw [getElem_interpolation hc]
  obtain ⟨j, hj, hrow⟩ := exists_interpolated_le hheight (fun j => interpolated (t.channel c j)
    t.width (position t.width u)) (position t.height v)
  obtain ⟨i, hi, hcolumn⟩ := exists_interpolated_le hwidth (t.channel c j) (position t.width u)
  obtain ⟨texel, htexel⟩ := exists_texel? hj hi
  rw [channel_of_texel? hc htexel] at hcolumn
  exact ⟨texel, mem_of_texel? htexel, hrow.trans hcolumn⟩

omit hwidth in
/-- Along the width a value is affine between two neighbouring centres. -/
theorem affineOn_interpolation_width {c i : ℕ} (hc : c < n) (hi : i + 1 < t.width) (v : ℝ) :
    AffineOn (fun u => (t.interpolation u v)[c])
      (Set.Icc (((i : ℝ) + 1 / 2) / t.width) (((i : ℝ) + 3 / 2) / t.width)) := by
  simp only [getElem_interpolation hc]
  exact AffineOn.interpolated hheight (fun j _ => affineOn_interpolated hi (t.channel c j)) _

omit hheight hwidth in
/-- Along the height a value is affine between two neighbouring centres. -/
theorem affineOn_interpolation_height {c j : ℕ} (hc : c < n) (hj : j + 1 < t.height) (u : ℝ) :
    AffineOn (fun v => (t.interpolation u v)[c])
      (Set.Icc (((j : ℝ) + 1 / 2) / t.height) (((j : ℝ) + 3 / 2) / t.height)) := by
  simp only [getElem_interpolation hc]
  exact affineOn_interpolated hj _

end

/-- A lookup in a table with a texel is bilinear interpolation, continued by the edges of the table.
It never fails, because all indices are those of texels. Coordinates beyond the outermost centres
count as these, at the centre of a texel the value is the texel, every channel lies between the
smallest and the largest value of that channel, and between neighbouring centres the value is affine
along each axis. -/
theorem sample_bilinear (t : Table ℝ n) (hheight : 0 < t.height) (hwidth : 0 < t.width) :
    (∀ x : ℝ, ∀ count ∈ [t.height, t.width],
      (∃ i < count, edgeIndex? (floor x) count = some i) ∧
        ∃ i < count, edgeIndex? (floor x + 1.0) count = some i) ∧
    ∃ value : ℝ → ℝ → Vector ℝ n, (∀ u v, t.sample u v = .ok (value u v)) ∧
      (∀ u v, value (clamp u (1 / 2 / t.width) (1 - 1 / 2 / t.width))
        (clamp v (1 / 2 / t.height) (1 - 1 / 2 / t.height)) = value u v) ∧
      (∀ j < t.height, ∀ i < t.width,
        t.texel? j i = some (value (((i : ℝ) + 1 / 2) / t.width) (((j : ℝ) + 1 / 2) / t.height))) ∧
      ∀ c (hc : c < n),
        (∀ u v, (∃ texel ∈ t.texels, texel[c] ≤ (value u v)[c]) ∧
          ∃ texel ∈ t.texels, (value u v)[c] ≤ texel[c]) ∧
        (∀ v i, i + 1 < t.width → AffineOn (fun u => (value u v)[c])
          (Set.Icc (((i : ℝ) + 1 / 2) / t.width) (((i : ℝ) + 3 / 2) / t.width))) ∧
        (∀ u j, j + 1 < t.height → AffineOn (fun v => (value u v)[c])
          (Set.Icc (((j : ℝ) + 1 / 2) / t.height) (((j : ℝ) + 3 / 2) / t.height))) := by
  have hindex : ∀ (x : ℝ) (count : ℕ), 0 < count →
      (∃ i < count, edgeIndex? (floor x) count = some i) ∧
        ∃ i < count, edgeIndex? (floor x + 1.0) count = some i := fun x count hcount =>
    ⟨⟨_, nearest_lt hcount _, edgeIndex?_floor hcount x⟩,
      ⟨_, nearest_lt hcount _, edgeIndex?_floor_add_one hcount x⟩⟩
  refine ⟨fun x count hcount => hindex x count ?_, t.interpolation, sample_eq hheight hwidth,
    interpolation_clamp hheight hwidth, ?_, fun c hc => ⟨fun u v => ⟨?_, ?_⟩, ?_, ?_⟩⟩
  · simp only [List.mem_cons, List.not_mem_nil, or_false] at hcount
    rcases hcount with rfl | rfl <;> assumption
  · exact fun j hj i hi => texel?_eq_interpolation hheight hwidth hj hi
  · exact exists_texel_le_interpolation hheight hwidth hc u v
  · exact exists_interpolation_le_texel hheight hwidth hc u v
  · exact fun v i hi => affineOn_interpolation_width hheight hc hi v
  · exact fun u j hj => affineOn_interpolation_height hc hj u

/-- A table with two texels side by side gives the left one before its centre. -/
theorem sample_bilinear_pair :
    let t : Table ℝ 1 := ⟨1, 2, #v[#v[1], #v[3]]⟩
    0 < t.height ∧ 0 < t.width ∧ ∃ value, t.sample (-1) 2 = .ok value ∧
      t.texel? 0 0 = some value := by
  intro t
  obtain ⟨-, value, hsample, hclamp, hcentre, -⟩ := sample_bilinear t one_pos two_pos
  have hu : clamp (-1 : ℝ) (1 / 2 / t.width) (1 - 1 / 2 / t.width) =
      (((0 : ℕ) : ℝ) + 1 / 2) / t.width := by
    norm_num [t]
  have hv : clamp (2 : ℝ) (1 / 2 / t.height) (1 - 1 / 2 / t.height) =
      (((0 : ℕ) : ℝ) + 1 / 2) / t.height := by
    norm_num [t]
  refine ⟨one_pos, two_pos, _, hsample _ _, ?_⟩
  rw [hcentre 0 one_pos 0 two_pos, ← hclamp (-1) 2, hu, hv]

end Table

end Texture

end Airlight
