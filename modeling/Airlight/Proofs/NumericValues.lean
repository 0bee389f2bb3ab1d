import Airlight.Proofs.Outcomes
import Airlight.Proofs.RegularLayers

/-!
# Documents made of numbers

A number, or a list of such documents. What is done to each of the numbers is done to the numbers
that are read from the whole.

## Main definitions

* `Value.IsNumeric` — numbers and lists, also of lists, of numbers.
* `Value.mapNumbers` — a document with each number replaced.
-/

namespace Airlight

open Scalar

namespace Value

/-- A number, or a list of values of which the same holds. -/
inductive IsNumeric : Value ℝ → Prop
  | number {v : Value ℝ} : v.IsNumber → IsNumeric v
  | list {items : List (Value ℝ)} : (∀ v ∈ items, IsNumeric v) → IsNumeric (list items)

mutual

/-- A value with each number replaced, also in lists. -/
noncomputable def mapNumbers (f : ℝ → ℝ) : Value ℝ → Value ℝ
  | list items => list (mapAllNumbers f items)
  | real x => real (f x)
  | integer n => real (f n)
  | flag b => real (f (if b then 1 else 0))
  | v => v

/-- Several values with each number replaced. -/
noncomputable def mapAllNumbers (f : ℝ → ℝ) : List (Value ℝ) → List (Value ℝ)
  | [] => []
  | v :: rest => mapNumbers f v :: mapAllNumbers f rest

end

variable {f : ℝ → ℝ} {v : Value ℝ} {items : List (Value ℝ)}

theorem mapAllNumbers_eq_map (f : ℝ → ℝ) (items : List (Value ℝ)) :
    mapAllNumbers f items = items.map (mapNumbers f) := by
  induction items with
  | nil => rw [mapAllNumbers, List.map_nil]
  | cons v items ih => rw [mapAllNumbers, ih, List.map_cons]

theorem mapNumbers_list (f : ℝ → ℝ) (items : List (Value ℝ)) :
    (list items).mapNumbers f = list (items.map (mapNumbers f)) := by
  rw [mapNumbers, mapAllNumbers_eq_map]

theorem mapNumbers_of_isNumber (h : v.IsNumber) : v.mapNumbers f = real (f v.amount) := by
  obtain ⟨x, hx⟩ := h
  cases v with
  | real x => rw [mapNumbers, amount]
  | integer n => rw [mapNumbers, amount]
  | flag b => rw [mapNumbers, amount]
  | _ => cases hx

/-! ## Axes and leaves -/

theorem IsNumber.leaves_eq (h : v.IsNumber) : v.leaves = [v] := by
  obtain ⟨x, hx⟩ := h
  cases v <;> first | rfl | cases hx

theorem IsNumber.axes?_eq (h : v.IsNumber) : v.axes? = some [] := by
  obtain ⟨x, hx⟩ := h
  cases v <;> first | rfl | cases hx

theorem IsNumber.number_eq (h : v.IsNumber) : v.number = .ok v.amount := by
  rw [← operand_eq_ok h]
  obtain ⟨x, hx⟩ := h
  cases v <;> first | rfl | cases hx

theorem IsNumber.element_eq (h : v.IsNumber) : v.element = .ok v.amount := by
  rw [← h.number_eq]
  obtain ⟨x, hx⟩ := h
  cases v <;> first | rfl | cases hx

theorem leavesOf_eq_flatMap {α : Type} (items : List (Value α)) :
    leavesOf items = items.flatMap leaves := by
  induction items with
  | nil => rfl
  | cons v items ih => rw [leavesOf, ih, List.flatMap_cons]

theorem IsNumeric.isNumber_of_mem_leaves (h : v.IsNumeric) : ∀ x ∈ v.leaves, x.IsNumber := by
  induction h with
  | number h =>
    intro x hx
    rw [h.leaves_eq] at hx
    rwa [List.mem_singleton.mp hx]
  | list _ ih =>
    intro x hx
    rw [leaves, leavesOf_eq_flatMap] at hx
    obtain ⟨v, hv, hx⟩ := List.mem_flatMap.mp hx
    exact ih v hv x hx

/-- The leaves of a value with the numbers replaced are its leaves with the numbers replaced. -/
theorem IsNumeric.leaves_mapNumbers (h : v.IsNumeric) (f : ℝ → ℝ) :
    (v.mapNumbers f).leaves = v.leaves.map (mapNumbers f) := by
  induction h with
  | number h =>
    rw [mapNumbers_of_isNumber h, h.leaves_eq, (isNumber_real _).leaves_eq, List.map_singleton,
      mapNumbers_of_isNumber h]
  | list _ ih =>
    rw [mapNumbers_list, leaves, leaves, leavesOf_eq_flatMap, leavesOf_eq_flatMap,
      List.flatMap_map, List.map_flatMap]
    exact List.flatMap_congr ih

theorem commonAxes?_map (h : ∀ v ∈ items, (v.mapNumbers f).axes? = v.axes?) :
    commonAxes? (items.map (mapNumbers f)) = commonAxes? items := by
  induction items with
  | nil => rfl
  | cons v items ih =>
    obtain ⟨hv, hitems⟩ := List.forall_mem_cons.mp h
    rw [List.map_cons, commonAxes?, commonAxes?, hv, ih hitems]

theorem IsNumeric.axes?_mapNumbers (h : v.IsNumeric) (f : ℝ → ℝ) :
    (v.mapNumbers f).axes? = v.axes? := by
  induction h with
  | number h => rw [mapNumbers_of_isNumber h, h.axes?_eq, (isNumber_real _).axes?_eq]
  | list _ ih => rw [mapNumbers_list, axes?, axes?, commonAxes?_map ih, List.length_map]

/-! ## Numbers that are read -/

theorem mapM_element (h : ∀ x ∈ items, x.IsNumber) :
    items.mapM element = .ok (items.map amount) :=
  listMapM_eq_ok fun x hx => (h x hx).element_eq

/-- Where numbers are read from a value, the replaced ones are read in the same way. -/
theorem IsNumeric.numbers_mapNumbers (h : v.IsNumeric) (f : ℝ → ℝ) :
    (v.mapNumbers f).numbers = v.numbers.map (List.map f) := by
  have hleaves := h.isNumber_of_mem_leaves
  have hreplaced : ∀ x ∈ v.leaves.map (mapNumbers f), x.IsNumber := by
    intro x hx
    obtain ⟨y, hy, rfl⟩ := List.mem_map.mp hx
    rw [mapNumbers_of_isNumber (hleaves y hy)]
    exact isNumber_real _
  have hamounts : (v.leaves.map (mapNumbers f)).map amount = (v.leaves.map amount).map f := by
    rw [List.map_map, List.map_map]
    refine List.map_congr_left fun x hx => ?_
    rw [Function.comp_apply, mapNumbers_of_isNumber (hleaves x hx), amount, Function.comp_apply]
  rw [numbers, numbers, h.axes?_mapNumbers, h.leaves_mapNumbers, mapM_element hleaves,
    mapM_element hreplaced, hamounts]
  cases v.axes? with
  | none => rfl
  | some axes =>
    by_cases hdeep : maxAxes < axes.length
    · simp only [if_pos hdeep, Except.map]
    · simp only [if_neg hdeep, Except.map]

end Value

end Airlight
