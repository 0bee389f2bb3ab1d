import Mathlib.Data.List.Forall2
import Mathlib.Tactic.Ring
import Airlight.Proofs.Outcomes
import Airlight.Tensor

/-!
# Values of arrays

An array is determined by its sizes and its values in flat order. Single values are combined like
the values that they hold.
-/

namespace Airlight

theorem mul_add_lt {a b k m : Nat} (ha : a < k) (hb : b < m) : a * m + b < k * m := by
  calc a * m + b < (a + 1) * m := by
        rw [Nat.succ_mul]
        exact Nat.add_lt_add_left hb _
    _ ≤ k * m := Nat.mul_le_mul_right _ ha

theorem mul_add_div {a b m : Nat} (hb : b < m) : (a * m + b) / m = a := by
  rw [Nat.mul_comm, Nat.mul_add_div (by omega), Nat.div_eq_of_lt hb, Nat.add_zero]

namespace Tensor

variable {α β γ δ φ : Type}

theorem ext_data {s t : Tensor α} (hshape : s.shape = t.shape) (hdata : s.data = t.data) :
    s = t := by
  cases s
  cases t
  cases hshape
  cases hdata
  rfl

@[simp] theorem shape_single (x : α) : (single x).shape = [] := rfl

@[simp] theorem data_single (x : α) : (single x).data = #[x] := rfl

@[simp] theorem shape_map (f : α → β) (t : Tensor α) : (t.map f).shape = t.shape := rfl

@[simp] theorem data_map (f : α → β) (t : Tensor α) : (t.map f).data = t.data.map f := rfl

@[simp] theorem shape_ofFn (shape : List Nat) (f : Nat → α) : (ofFn shape f).shape = shape := rfl

@[simp] theorem single_inj {x y : α} : single x = single y ↔ x = y := by
  constructor
  · intro h
    simpa using congrArg data h
  · rintro rfl
    rfl

/-- An array without axes holds a single value. -/
theorem exists_eq_single {t : Tensor α} (h : t.shape = []) :
    ∃ x, t = single x := by
  have hsize : t.data.size = 1 := by rw [t.size_eq, h]; rfl
  obtain ⟨x, hx⟩ := Array.size_eq_one_iff.mp hsize
  exact ⟨x, ext_data h hx⟩

@[simp] theorem data_row (xs : List α) : (row xs).data = xs.toArray := rfl

@[simp] theorem map_row (f : α → β) (xs : List α) : (row xs).map f = row (xs.map f) :=
  ext_data (by simp [row]) (by simp [row])

theorem map_ofFn (k : α → β) (shape : List Nat) (f : Nat → α) :
    (ofFn shape f).map k = ofFn shape fun i => k (f i) :=
  ext_data rfl (by simp [ofFn, Array.map_ofFn, Function.comp_def])

@[simp] theorem map_single (f : α → β) (x : α) : (single x).map f = single (f x) :=
  ext_data rfl (by simp)

@[simp] theorem map₂_single [Inhabited α] [Inhabited β] (f : α → β → γ) (a : α) (b : β) :
    (map₂ f (single a) (single b) : Except (Failure φ) (Tensor γ)) = .ok (single (f a b)) := rfl

@[simp] theorem map₃_single [Inhabited α] [Inhabited β] [Inhabited γ] (f : α → β → γ → δ)
    (a : α) (b : β) (c : γ) :
    (map₃ f (single a) (single b) (single c) : Except (Failure φ) (Tensor δ)) =
      .ok (single (f a b c)) := rfl

/-- The results of a function that may fail are those for the values in flat order. -/
theorem mapM_eq_ok_iff {ε : Type} {t : Tensor α} {u : Tensor β} {f : α → Except ε β} :
    t.mapM f = .ok u ↔ t.data.toList.mapM f = .ok u.data.toList ∧ u.shape = t.shape := by
  have hvector := @Vector.toArray_mapM _ _ _ _ _ _ f ⟨t.data, t.size_eq⟩
  have hlist := Array.mapM_eq_mapM_toList.symm.trans hvector.symm
  constructor
  · intro h
    obtain ⟨results, hresults, hu⟩ := bind_eq_ok_iff.mp h
    cases hu
    rw [hresults] at hlist
    obtain ⟨values, hvalues, hdata⟩ := map_eq_ok_iff.mp hlist
    exact ⟨hvalues.trans (congrArg Except.ok (congrArg Array.toList hdata)), rfl⟩
  · rintro ⟨hvalues, hshape⟩
    rw [hvalues] at hlist
    obtain ⟨results, hresults, hdata⟩ := map_eq_ok_iff.mp hlist.symm
    rw [mapM, hresults]
    exact congrArg Except.ok (ext_data hshape.symm hdata)

/-- A function that succeeds for every value of a row gives the row of its results. -/
theorem mapM_row {ε : Type} {xs : List α} {f : α → β} {g : β → Except ε γ} {h : α → γ}
    (hg : ∀ x ∈ xs, g (f x) = .ok (h x)) : (row (xs.map f)).mapM g = .ok (row (xs.map h)) := by
  refine mapM_eq_ok_iff.mpr ⟨?_, by simp [row]⟩
  have hlist := listMapM_eq_ok hg
  rwa [← Function.comp_def, ← List.mapM_map] at hlist

theorem mapM_single_eq_ok_iff {ε : Type} {x : α} {u : Tensor β} {f : α → Except ε β} :
    (single x).mapM f = .ok u ↔ ∃ y, f x = .ok y ∧ u = single y := by
  rw [mapM_eq_ok_iff]
  constructor
  · rintro ⟨hvalues, hshape⟩
    obtain ⟨y, hy, hvalues⟩ := bind_eq_ok_iff.mp hvalues
    have hdata : [y] = u.data.toList := Except.ok.inj hvalues
    exact ⟨y, hy, ext_data hshape (Array.toList_inj.mp hdata.symm)⟩
  · rintro ⟨y, hy, rfl⟩
    simp [hy]

/-! ## Positions -/

theorem getD_ofFn {shape : List Nat} {f : Nat → α} {k : Nat} (d : α) (hk : k < volume shape) :
    (ofFn shape f).data.getD k d = f k := by
  simp [ofFn, Array.getD, hk]

theorem volume_eq_zero_iff {shape : List Nat} : volume shape = 0 ↔ 0 ∈ shape := by
  induction shape with
  | nil => simp [volume]
  | cons n shape ih =>
    have hcons : volume (n :: shape) = n * volume shape := rfl
    rw [hcons, Nat.mul_eq_zero, ih, List.mem_cons, eq_comm]

/-- An array without values has an axis without positions. -/
theorem data_isEmpty_iff {t : Tensor α} : t.data.isEmpty = true ↔ 0 ∈ t.shape := by
  rw [Array.isEmpty_iff_size_eq_zero, t.size_eq, volume_eq_zero_iff]

/-- The flat position of a list of indices, one for each axis. -/
def position? : List Nat → List Nat → Option Nat
  | [], [] => some 0
  | n :: shape, i :: index =>
    if i < n then (position? shape index).map (i * volume shape + ·) else none
  | _, _ => none

/-- The value at a list of indices, one for each axis. -/
def get? (t : Tensor α) (index : List Nat) : Option α :=
  (position? t.shape index).bind (t.data[·]?)

theorem position?_lt {shape index : List Nat} {k : Nat} (h : position? shape index = some k) :
    k < volume shape := by
  induction shape generalizing index k with
  | nil =>
    cases index with
    | nil => simp_all [position?, volume]
    | cons i index => simp [position?] at h
  | cons n shape ih =>
    cases index with
    | nil => simp [position?] at h
    | cons i index =>
      rw [position?] at h
      split_ifs at h with hi
      obtain ⟨j, hj, rfl⟩ := Option.map_eq_some_iff.mp h
      exact mul_add_lt hi (ih hj)

/-- A list of indices has a position if each index lies below the size of its axis. -/
theorem position?_isSome_iff {shape index : List Nat} :
    (position? shape index).isSome = true ↔ List.Forall₂ (· < ·) index shape := by
  induction shape generalizing index with
  | nil => cases index <;> simp [position?, List.forall₂_nil_right_iff]
  | cons n shape ih =>
    cases index with
    | nil => simp [position?, List.forall₂_nil_left_iff]
    | cons i index =>
      rw [position?, List.forall₂_cons, ← ih]
      by_cases hi : i < n <;> simp [hi]

/-- Every flat position is that of some indices. -/
theorem exists_position? {shape : List Nat} {k : Nat} (hk : k < volume shape) :
    ∃ index, position? shape index = some k := by
  induction shape generalizing k with
  | nil =>
    obtain rfl : k = 0 := Nat.lt_one_iff.mp hk
    exact ⟨[], rfl⟩
  | cons n shape ih =>
    have hk : k < n * volume shape := hk
    have hpos : 0 < volume shape := Nat.pos_of_mul_pos_left (Nat.zero_lt_of_lt hk)
    obtain ⟨index, hindex⟩ := ih (Nat.mod_lt k hpos)
    refine ⟨k / volume shape :: index, ?_⟩
    rw [position?, if_pos ((Nat.div_lt_iff_lt_mul hpos).mpr hk), hindex, Option.map_some,
      Nat.div_add_mod']

/-- Arrays of the same sizes are equal if they agree at all indices. -/
theorem ext_get? {s t : Tensor α} (hshape : s.shape = t.shape)
    (h : ∀ index, List.Forall₂ (· < ·) index s.shape → s.get? index = t.get? index) : s = t := by
  refine ext_data hshape (Array.ext (by rw [s.size_eq, t.size_eq, hshape]) fun k hk hk' => ?_)
  obtain ⟨index, hindex⟩ := exists_position? (s.size_eq ▸ hk)
  have hvalue := h index (position?_isSome_iff.mp (by rw [hindex, Option.isSome_some]))
  rw [get?, get?, ← hshape, hindex, Option.bind_some, Option.bind_some,
    Array.getElem?_eq_getElem hk, Array.getElem?_eq_getElem hk'] at hvalue
  exact Option.some.inj hvalue

theorem get?_map (f : α → β) (t : Tensor α) (index : List Nat) :
    (t.map f).get? index = (t.get? index).map f := by
  simp only [get?, shape_map, data_map, Array.getElem?_map, Option.map_bind]
  rfl

theorem get?_ofFn (shape : List Nat) (f : Nat → α) (index : List Nat) :
    (ofFn shape f).get? index = (position? shape index).map f := by
  rw [get?, shape_ofFn]
  cases hposition : position? shape index with
  | none => rfl
  | some k => simp [ofFn, position?_lt hposition]

theorem get?_row {xs : List α} {c : Nat} (hc : c < xs.length) : (row xs).get? [c] = some xs[c] := by
  simp [get?, row, position?, volume, hc]

theorem volume_concat (shape : List Nat) (n : Nat) : volume (shape ++ [n]) = volume shape * n := by
  induction shape with
  | nil => simp [volume]
  | cons m shape ih =>
    change m * volume (shape ++ [n]) = m * volume shape * n
    rw [ih, Nat.mul_assoc]

/-- The component `c` of the vector `k` in an array of vectors. -/
theorem getElem?_data_ofVectors [Inhabited α] {n k c : Nat} {shape : List Nat}
    {xs : Array (Vector α n)} {value : Vector α n} (hk : k < volume shape) (hc : c < n)
    (hvalue : xs[k]? = some value) : (ofVectors shape xs).data[k * n + c]? = some value[c] := by
  have hlt : k * n + c < volume (shape ++ [n]) := volume_concat shape n ▸ mul_add_lt hk hc
  simp only [ofVectors, ofFn]
  rw [Array.getElem?_eq_getElem (by simpa using hlt)]
  simp only [Array.getElem_ofFn, mul_add_div hc, hvalue, Nat.mul_add_mod_of_lt hc]
  simp [hc]

/-- The values of an array of vectors are the components of these vectors. -/
theorem mem_data_components [Inhabited α] {n : Nat} {t : Tensor (Vector α n)} {x : α}
    (h : x ∈ t.components.data) : ∃ v ∈ t.data, ∃ c, ∃ hc : c < n, x = v[c] := by
  obtain ⟨k, hk, rfl⟩ := Array.mem_iff_getElem.mp h
  have hlt : k < volume t.shape * n := by
    rw [← volume_concat]
    simpa [components, ofVectors, ofFn] using hk
  have hn : 0 < n := Nat.pos_of_mul_pos_left (Nat.zero_lt_of_lt hlt)
  have hrow : k / n < t.data.size := t.size_eq ▸ (Nat.div_lt_iff_lt_mul hn).mpr hlt
  have hc : k % n < n := Nat.mod_lt k hn
  refine ⟨t.data[k / n], Array.getElem_mem hrow, k % n, hc, ?_⟩
  simp [components, ofVectors, ofFn, Array.getElem?_eq_getElem hrow, Array.getD, hc]

/-- Every value of a combined array is a combination of two values. -/
theorem mem_data_map₂ [Inhabited α] [Inhabited β] {f : α → β → γ} {a : Tensor α} {b : Tensor β}
    {t : Tensor γ} (h : (map₂ f a b : Except (Failure φ) (Tensor γ)) = .ok t) {z : γ}
    (hz : z ∈ t.data) : ∃ x y, z = f x y := by
  obtain ⟨common, -, hresult⟩ := bind_eq_ok_iff.mp h
  cases hresult
  obtain ⟨k, rfl⟩ := Array.mem_ofFn.mp hz
  exact ⟨_, _, rfl⟩

/-- The flat position of indices in an array of three axes. -/
theorem position?_three {h w n y x c : Nat} (hy : y < h) (hx : x < w) (hc : c < n) :
    position? [h, w, n] [y, x, c] = some ((y * w + x) * n + c) := by
  simp only [position?, if_pos hy, if_pos hx, if_pos hc, Option.map_some, volume,
    List.foldr_cons, List.foldr_nil, Option.some.injEq]
  ring

/-- The flat position of indices in an array of four axes. -/
theorem position?_four {d h w n z y x c : Nat} (hz : z < d) (hy : y < h) (hx : x < w)
    (hc : c < n) :
    position? [d, h, w, n] [z, y, x, c] = some (((z * h + y) * w + x) * n + c) := by
  rw [position?, if_pos hz, position?_three hy hx hc, Option.map_some]
  simp only [volume, List.foldr_cons, List.foldr_nil, Option.some.injEq]
  ring

/-- The flat position of indices with one more axis. -/
theorem position?_concat {shape index : List Nat} {n c : Nat} (hc : c < n) :
    position? (shape ++ [n]) (index ++ [c]) = (position? shape index).map (· * n + c) := by
  induction shape generalizing index with
  | nil =>
    cases index with
    | nil => simp [position?, hc, volume]
    | cons i index => cases index <;> simp [position?]
  | cons m shape ih =>
    cases index with
    | nil => cases shape <;> simp [position?]
    | cons i index =>
      simp only [List.cons_append, position?, ih, volume_concat]
      split_ifs
      · rw [Option.map_map, Option.map_map]
        refine Option.map_congr fun k _ => ?_
        simp only [Function.comp_apply]
        ring
      · rfl

/-- The component `c` of the vector at a list of indices. -/
theorem get?_ofVectors_concat [Inhabited α] {n c : Nat} (shape : List Nat)
    (xs : Array (Vector α n)) (index : List Nat) (hc : c < n) :
    (ofVectors shape xs).get? (index ++ [c]) =
      (position? shape index).map fun k => (xs[k]?.map (·[c])).getD default := by
  rw [ofVectors, get?_ofFn, position?_concat hc, Option.map_map]
  refine Option.map_congr fun k _ => ?_
  simp only [Function.comp_apply, mul_add_div hc, Nat.mul_add_mod_of_lt hc]
  cases xs[k]? with
  | none => rfl
  | some x => simp [hc]

/-- The component `c` of a vector at the cell `x`, `y`, `z` of a grid of vectors. -/
theorem get?_ofVectors [Inhabited α] {n d h w x y z c : Nat} {xs : Array (Vector α n)}
    {value : Vector α n} (hz : z < d) (hy : y < h) (hx : x < w) (hc : c < n)
    (hvalue : xs[(z * h + y) * w + x]? = some value) :
    (ofVectors [d, h, w] xs).get? [z, y, x, c] = some value[c] := by
  have hcell := get?_ofVectors_concat [d, h, w] xs [z, y, x] hc
  rwa [position?_three hz hy hx, Option.map_some, hvalue] at hcell

/-! ## Repetition -/

/-- Arrays of these sizes can be repeated to a table of `n` rows with `m` values each. -/
def FitsTable : List Nat → Nat → Nat → Prop
  | [], _, _ => True
  | [c], _, m => c = m ∨ c = 1
  | [r, c], n, m => (r = n ∨ r = 1) ∧ (c = m ∨ c = 1)
  | _, _, _ => False

/-- The indices of the value that a table repeats in row `i` and column `j`. -/
def tableSource : List Nat → Nat → Nat → List Nat
  | [c], _, j => [if c = 1 then 0 else j]
  | [r, c], i, j => [if r = 1 then 0 else i, if c = 1 then 0 else j]
  | _, _, _ => []

/-- The row `i` of the table with rows of `m` values to which an array is repeated. -/
def tableRow [Inhabited α] (t : Tensor α) (m i : Nat) : Vector α m :=
  Vector.ofFn fun j => (t.get? (tableSource t.shape i j)).getD default

/-- The flat position of the value that a position of a table repeats. -/
theorem position?_tableSource {shape : List Nat} {n m i j : Nat} (h : FitsTable shape n m)
    (hi : i < n) (hj : j < m) : position? shape (tableSource shape i j) =
      some (sourceReversed shape.reverse [m, n] (i * m + j)) := by
  rcases shape with _ | ⟨r, _ | ⟨c, _ | _⟩⟩
  · simp [tableSource, position?, sourceReversed]
  · have hr : (if r = 1 then 0 else j) < r := by
      rcases h with rfl | rfl <;> split_ifs <;> omega
    simp [tableSource, position?, sourceReversed, hr, volume, Nat.mod_eq_of_lt hj]
  · have hr : (if r = 1 then 0 else i) < r := by
      rcases h.1 with rfl | rfl <;> split_ifs <;> omega
    have hc : (if c = 1 then 0 else j) < c := by
      rcases h.2 with rfl | rfl <;> split_ifs <;> omega
    have hsource : sourceReversed [c, r] [m, n] (i * m + j) =
        (if r = 1 then 0 else i) * c + if c = 1 then 0 else j := by
      simp only [sourceReversed, mul_add_div hj, Nat.mul_add_mod_of_lt hj, Nat.mod_eq_of_lt hi]
      ring
    simp [tableSource, position?, hsource, hr, hc, volume]
  · exact h.elim

/-- Every position of a table repeats a value of an array that fits. -/
theorem exists_get?_tableSource {t : Tensor α} {n m i j : Nat} (h : FitsTable t.shape n m)
    (hi : i < n) (hj : j < m) : ∃ x, t.get? (tableSource t.shape i j) = some x := by
  have hposition := position?_tableSource h hi hj
  have hlt := t.size_eq ▸ position?_lt hposition
  exact ⟨_, by rw [get?, hposition, Option.bind_some, Array.getElem?_eq_getElem hlt]⟩

theorem join?_table {shape : List Nat} {n m : Nat} (hrank : shape.length ≤ 2) :
    join? shape [n, m] = some [n, m] ↔ FitsTable shape n m := by
  rcases shape with _ | ⟨r, _ | ⟨c, _ | _⟩⟩
  · simp [join?, joinReversed?, FitsTable]
  · simp only [join?, List.reverse_cons, List.reverse_nil, List.nil_append, List.cons_append,
      joinReversed?, FitsTable]
    split_ifs <;> simp <;> omega
  · simp only [join?, List.reverse_cons, List.reverse_nil, List.nil_append, List.cons_append,
      joinReversed?, FitsTable]
    split_ifs <;> simp <;> omega
  · simp at hrank

/-- An array with at most two axes is repeated to a table exactly if it fits. -/
theorem fitTo?_table [Inhabited α] {t : Tensor α} {n m : Nat} (hrank : t.shape.length ≤ 2) :
    (FitsTable t.shape n m ∧ t.fitTo? [n, m] = some (ofFn [n, m] fun k =>
        t.data.getD (sourceReversed t.shape.reverse [m, n] k) default)) ∨
      (¬ FitsTable t.shape n m ∧ t.fitTo? [n, m] = none) := by
  have hsurplus : t.shape.length - 2 = 0 := Nat.sub_eq_zero_of_le hrank
  rw [← join?_table hrank]
  by_cases h : join? t.shape [n, m] = some [n, m]
  · exact .inl ⟨h, by simp [fitTo?, hsurplus, h]⟩
  · exact .inr ⟨h, by simp [fitTo?, hsurplus, h]⟩

/-- The rows of the table to which an array is repeated. -/
theorem row_of_fitTo? [Inhabited α] {t u : Tensor α} {n m i : Nat} (hrank : t.shape.length ≤ 2)
    (h : t.fitTo? [n, m] = some u) (hi : i < n) :
    (Vector.ofFn fun j : Fin m => u.data.getD (i * m + j) default) = t.tableRow m i := by
  rcases fitTo?_table (n := n) (m := m) hrank with ⟨hfits, hfit⟩ | ⟨-, hfit⟩
  · obtain rfl := Option.some.inj (hfit.symm.trans h)
    ext j hj
    have hlt : i * m + j < volume [n, m] := by simpa [volume] using mul_add_lt hi hj
    rw [Vector.getElem_ofFn, tableRow, Vector.getElem_ofFn, get?, position?_tableSource hfits hi hj,
      Option.bind_some, getD_ofFn _ hlt, Array.getD_eq_getD_getElem?]
  · exact absurd (hfit.symm.trans h) (by simp)

/-! ## Common sizes -/

theorem joinReversed?_self (s : List Nat) : joinReversed? s s = some s := by
  induction s with
  | nil => rfl
  | cons n s ih => simp [joinReversed?, ih]

theorem join?_self (s : List Nat) : join? s s = some s := by
  simp [join?, joinReversed?_self]

theorem join?_nil (s : List Nat) : join? [] s = some s := by
  simp [join?, joinReversed?]

theorem joinShapes_nil (s : List Nat) : (joinShapes [] s : Except (Failure φ) _) = .ok s := by
  simp [joinShapes, joinAll, List.foldlM_cons, join?_nil]

theorem joinShapes_self (s : List Nat) : (joinShapes s s : Except (Failure φ) _) = .ok s := by
  simp [joinShapes, joinAll, List.foldlM_cons, join?_nil, join?_self]

theorem join?_nil_right (s : List Nat) : join? s [] = some s := by
  have hreversed : ∀ t : List Nat, joinReversed? t [] = some t := by
    intro t
    cases t <;> rfl
  simp [join?, hreversed]

/-- Sizes that are given or those of a single value are joined to such sizes. -/
theorem join?_sizes {s t u : List Nat} (ht : t = s ∨ t = []) (hu : u = s ∨ u = []) :
    ∃ common, join? t u = some common ∧ (common = s ∨ common = []) ∧
      (t = s ∨ u = s → common = s) := by
  rcases ht with rfl | rfl
  · rcases hu with rfl | rfl
    · exact ⟨u, join?_self u, .inl rfl, fun _ => rfl⟩
    · exact ⟨t, join?_nil_right t, .inl rfl, fun _ => rfl⟩
  · refine ⟨u, join?_nil u, hu, fun h => ?_⟩
    rcases h with rfl | rfl
    · simpa using hu
    · rfl

/-- Arrays of given sizes and single values are combined to an array of these sizes. -/
theorem joinAll_sizes {s : List Nat} {shapes : List (List Nat)}
    (hall : ∀ t ∈ shapes, t = s ∨ t = []) (hmem : s ∈ shapes) :
    (joinAll shapes : Except (Failure φ) (List Nat)) = .ok s := by
  have hfold : ∀ (shapes : List (List Nat)) (first : List Nat), (first = s ∨ first = []) →
      (∀ t ∈ shapes, t = s ∨ t = []) → (first = s ∨ s ∈ shapes) →
        shapes.foldlM join? first = some s := by
    intro shapes
    induction shapes with
    | nil =>
      intro first _ _ hs
      obtain rfl := hs.resolve_right List.not_mem_nil
      rfl
    | cons t shapes ih =>
      intro first hfirst hall hs
      obtain ⟨ht, hall⟩ := List.forall_mem_cons.mp hall
      obtain ⟨next, hjoin, hnext, heq⟩ := join?_sizes hfirst ht
      rw [List.foldlM_cons, hjoin]
      refine ih next hnext hall ?_
      rcases hs with hs | hs
      · exact .inl (heq (.inl hs))
      · rcases List.mem_cons.mp hs with rfl | hs
        · exact .inl (heq (.inr rfl))
        · exact .inr hs
  rw [joinAll, hfold shapes [] (.inr rfl) hall (.inr hmem)]

theorem repeated_single [Inhabited α] (x : α) {common : List Nat} {i : Nat}
    (h : i < volume common) : (single x).repeated common i = x := by
  unfold repeated
  split_ifs with hshape
  · obtain rfl : common = [] := hshape.symm
    have hi : i = 0 := Nat.lt_one_iff.mp h
    rw [hi]
    rfl
  · rfl

/-- A single value takes part in every position. -/
theorem map₂_single_ofFn [Inhabited α] [Inhabited β] (f : α → β → γ) (a : α) (shape : List Nat)
    (g : Nat → β) : (map₂ f (single a) (ofFn shape g) : Except (Failure φ) (Tensor γ)) =
      .ok (ofFn shape fun k => f a (g k)) := by
  have hjoin : (joinAll [[], shape] : Except (Failure φ) _) = .ok shape := joinShapes_nil shape
  simp only [map₂, shape_single, shape_ofFn, hjoin, ok_bind, pure_eq_ok, Except.ok.injEq]
  refine ext_data rfl (congrArg Array.ofFn (funext fun i => ?_))
  dsimp only
  rw [repeated_single a i.isLt, repeated, if_pos (shape_ofFn shape g), getD_ofFn _ i.isLt]

theorem exists_eq_ofFn [Inhabited α] (t : Tensor α) : ∃ shape g, t = ofFn shape g := by
  refine ⟨t.shape, fun k => t.data.getD k default, ext_data rfl (Array.ext ?_ fun k hk _ => ?_)⟩
  · simp [ofFn, t.size_eq]
  · simp [ofFn, Array.getD, hk]

/-- A single value is combined with an array as with each of its values. -/
theorem map₂_single_left [Inhabited α] [Inhabited β] (f : α → β → γ) (a : α) (t : Tensor β) :
    (map₂ f (single a) t : Except (Failure φ) (Tensor γ)) = .ok (t.map (f a)) := by
  obtain ⟨shape, g, rfl⟩ := exists_eq_ofFn t
  rw [map₂_single_ofFn, map_ofFn]

/-! ## Arrays without axes -/

theorem joinReversed?_eq_nil {s t : List Nat} (h : joinReversed? s t = some []) :
    s = [] ∧ t = [] := by
  cases s with
  | nil => simpa [joinReversed?] using h
  | cons m s =>
    cases t with
    | nil => simp [joinReversed?] at h
    | cons n t =>
      simp only [joinReversed?] at h
      split_ifs at h <;> simp at h

theorem join?_eq_nil {s t : List Nat} (h : join? s t = some []) : s = [] ∧ t = [] := by
  simp only [join?, Option.map_eq_some_iff, List.reverse_eq_nil_iff] at h
  obtain ⟨_, hjoin, rfl⟩ := h
  simpa using joinReversed?_eq_nil hjoin

theorem foldlM_join?_eq_nil {shapes : List (List Nat)} {first : List Nat}
    (h : shapes.foldlM join? first = some []) : first = [] ∧ ∀ s ∈ shapes, s = [] := by
  induction shapes generalizing first with
  | nil => simpa using h
  | cons s shapes ih =>
    rw [List.foldlM_cons] at h
    obtain ⟨next, hjoin, hrest⟩ := Option.bind_eq_some_iff.mp h
    obtain ⟨rfl, hshapes⟩ := ih hrest
    obtain ⟨hfirst, hs⟩ := join?_eq_nil hjoin
    exact ⟨hfirst, List.forall_mem_cons.mpr ⟨hs, hshapes⟩⟩

/-- Only arrays without axes have common sizes without axes. -/
theorem joinAll_eq_nil {shapes : List (List Nat)}
    (h : (joinAll shapes : Except (Failure φ) (List Nat)) = .ok []) : ∀ s ∈ shapes, s = [] := by
  unfold joinAll at h
  split at h
  · next common hcommon =>
    cases h
    exact (foldlM_join?_eq_nil hcommon).2
  · cases h

/-- Only arrays without axes combine to an array without axes. -/
theorem map₂_shape_eq_nil [Inhabited α] [Inhabited β] {f : α → β → γ} {a : Tensor α} {b : Tensor β}
    {t : Tensor γ} (h : (map₂ f a b : Except (Failure φ) (Tensor γ)) = .ok t) (ht : t.shape = []) :
    a.shape = [] ∧ b.shape = [] := by
  obtain ⟨common, hcommon, hresult⟩ := bind_eq_ok_iff.mp h
  cases hresult
  obtain rfl : common = [] := ht
  have := joinAll_eq_nil hcommon
  exact ⟨this _ (by simp), this _ (by simp)⟩

/-! ## Room -/

/-- There is room for the values of an array if its sizes and its bytes stay below the limits. -/
theorem checkRoom_eq_ok_iff {shape : List Nat} {bytes : Nat} (hpos : ∀ m ∈ shape, 0 < m) :
    (checkRoom shape bytes : Except (Failure φ) Unit) = .ok () ↔
      (∀ m ∈ shape, m ≤ indexLimit) ∧ shape.foldl (· * ·) bytes ≤ indexLimit ∧
        shape.foldl (· * ·) bytes ≤ memoryLimit := by
  have hfilter : shape.filter (· ≠ 0) = shape :=
    List.filter_eq_self.mpr fun m hm => decide_eq_true (hpos m hm).ne'
  have hzero : shape.contains 0 = false := by
    simpa using fun h => absurd (hpos 0 h) (lt_irrefl 0)
  have hlong : shape.any (indexLimit < ·) = true ↔ ¬ ∀ m ∈ shape, m ≤ indexLimit := by
    simp only [List.any_eq_true, decide_eq_true_eq, not_forall, Nat.not_le, exists_prop]
  unfold checkRoom
  simp only [hfilter, hzero, Bool.not_false, Bool.and_true, decide_eq_true_eq]
  split_ifs with hsize hindex hmemory
  · exact iff_of_false (by simp) fun h => hlong.mp hsize h.1
  · exact iff_of_false (by simp) fun h => absurd h.2.1 (by omega)
  · exact iff_of_false (by simp) fun h => absurd h.2.2 (by omega)
  · exact iff_of_true rfl ⟨not_not.mp fun h => hsize (hlong.mpr h), by omega, by omega⟩

/-- Where there is room for some values at each cell there is room for fewer. -/
theorem checkRoom_of_le {shape : List Nat} {n m bytes : Nat} (hpos : ∀ k ∈ shape, 0 < k)
    (hm : 0 < m) (hle : m ≤ n)
    (hroom : (checkRoom (shape ++ [n]) bytes : Except (Failure φ) Unit) = .ok ()) :
    (checkRoom (shape ++ [m]) bytes : Except (Failure φ) Unit) = .ok () := by
  have hall : ∀ j, 0 < j → ∀ k ∈ shape ++ [j], 0 < k := fun j hj k hk => by
    rcases List.mem_append.mp hk with hk | hk
    · exact hpos k hk
    · rwa [List.mem_singleton.mp hk]
  obtain ⟨hsizes, hindex, hmemory⟩ := (checkRoom_eq_ok_iff (hall n (by omega))).mp hroom
  have hbytes : (shape ++ [m]).foldl (· * ·) bytes ≤ (shape ++ [n]).foldl (· * ·) bytes := by
    simp only [List.foldl_append, List.foldl_cons, List.foldl_nil]
    exact Nat.mul_le_mul_left _ hle
  refine (checkRoom_eq_ok_iff (hall m hm)).mpr
    ⟨fun k hk => ?_, hbytes.trans hindex, hbytes.trans hmemory⟩
  rcases List.mem_append.mp hk with hk | hk
  · exact hsizes k (List.mem_append_left _ hk)
  · rw [List.mem_singleton.mp hk]
    exact hle.trans (hsizes n (by simp))

/-- Where there is room for a table there is room for a row and for a column of it. -/
theorem checkRoom_of_table {h w bytes : Nat} (hh : 0 < h) (hw : 0 < w)
    (hroom : (checkRoom [h, w] bytes : Except (Failure φ) Unit) = .ok ()) :
    (checkRoom [h] bytes : Except (Failure φ) Unit) = .ok () ∧
      (checkRoom [w] bytes : Except (Failure φ) Unit) = .ok () := by
  obtain ⟨hsizes, hindex, hmemory⟩ := (checkRoom_eq_ok_iff (by simp [hh, hw])).mp hroom
  simp only [List.foldl_cons, List.foldl_nil] at hindex hmemory
  have hrow : bytes * h ≤ bytes * h * w := Nat.le_mul_of_pos_right _ hw
  have hcolumn : bytes * w ≤ bytes * h * w :=
    Nat.mul_le_mul_right _ (Nat.le_mul_of_pos_right _ hh)
  constructor
  · exact (checkRoom_eq_ok_iff (by simp [hh])).mpr
      ⟨by simpa using hsizes h (by simp), hrow.trans hindex, hrow.trans hmemory⟩
  · exact (checkRoom_eq_ok_iff (by simp [hw])).mpr
      ⟨by simpa using hsizes w (by simp), hcolumn.trans hindex, hcolumn.trans hmemory⟩

end Tensor

end Airlight
