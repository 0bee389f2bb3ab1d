import Airlight.Proofs.WidthSums

/-!
# Regular layers

A profile is regular if its coefficients are numbers and no width is negative. Its layers then form
a stack, and the upper ends are the sums of the widths as real numbers: whole widths are summed up
as integers of a fixed width, which must not wrap around.

## Main definitions

* `Profile.Regular` — the regular profiles.
* `LayerStack.ofLayers` — the stack of layers that have real numbers as coefficients.
* `Parameters.Regular` — parameters all of whose profiles are regular.
* `Parameters.Layered` — parameters whose layers have numbers as coefficients and no negative width.
-/

namespace Airlight

open Scalar

namespace Value

theorem operand_eq_ok {v : Value ℝ} (hv : v.IsNumber) : v.operand = .ok v.amount := by
  obtain ⟨x, hx⟩ := hv
  cases v with
  | real y => rfl
  | integer n => rfl
  | flag b => cases b <;> norm_num [operand, amount]
  | _ => cases hx

theorem operandOrFail_eq_ok {v : Value ℝ} (hv : v.IsNumber) : v.operandOrFail = .ok v.amount := by
  simp only [operandOrFail, operand_eq_ok hv]

theorem isNumber_real (x : ℝ) : (real x).IsNumber := ⟨x, rfl⟩

end Value

namespace DensityLayer

/-- A width that is known not to be negative is a number. -/
theorem isNumber_of_negativeWidth? {w : Value ℝ} {b : Bool} (h : negativeWidth? w = some b) :
    w.IsNumber := by
  cases w with
  | real x => exact ⟨x, rfl⟩
  | integer n => exact ⟨n, rfl⟩
  | flag b => exact ⟨_, rfl⟩
  | _ => cases h

theorem amount_nonneg {w : Value ℝ} (h : negativeWidth? w = some false) : 0 ≤ w.amount := by
  cases w with
  | real x =>
    have hx : ¬ x < 0.0 := of_decide_eq_false (Option.some.inj h)
    norm_num at hx
    exact hx
  | integer n =>
    have hn : ¬ n < 0 := of_decide_eq_false (Option.some.inj h)
    simpa [Value.amount] using hn
  | flag b => cases b <;> simp [Value.amount]
  | _ => cases h

/-- The coefficients are numbers and the width is not negative. -/
structure Regular (layer : DensityLayer (Value ℝ)) : Prop extends NumberCoefficients layer where
  width : negativeWidth? layer.width = some false

/-- The layer of the numbers that the coefficients count as. -/
noncomputable def amounts (layer : DensityLayer (Value ℝ)) : DensityLayer ℝ :=
  ⟨layer.width.amount, layer.expTerm.amount, layer.expScale.amount, layer.linearTerm.amount,
    layer.constantTerm.amount⟩

/-- A layer of real numbers whose width is not negative is regular. -/
theorem regular_toValues {layer : DensityLayer ℝ} (h : 0 ≤ layer.width) :
    layer.toValues.Regular where
  expTerm := Value.isNumber_real _
  expScale := Value.isNumber_real _
  linearTerm := Value.isNumber_real _
  constantTerm := Value.isNumber_real _
  width := by
    norm_num [toValues, negativeWidth?]
    exact h

theorem plain?_eq_amounts {layer : DensityLayer (Value ℝ)} (h : layer.Regular) :
    layer.plain? = some { layer.amounts with width := 0.0 } :=
  plain?_eq_some (Value.operand_eq_ok h.expTerm) (Value.operand_eq_ok h.expScale)
    (Value.operand_eq_ok h.linearTerm) (Value.operand_eq_ok h.constantTerm)

end DensityLayer

namespace Profile

/-- The coefficients of a profile are numbers, no width is negative, and the whole widths fit into
the integers that they are summed up as, so that their sums are those of real numbers. -/
structure Regular (layers : Profile (Value ℝ)) : Prop where
  layer : ∀ layer ∈ layers, layer.Regular
  sum_lt : (layers.map fun layer => layer.width.wholePart).sum < 2 ^ 63

/-- Widths that are real numbers have no whole part. -/
theorem sum_wholePart_eq_zero {β : Type} (xs : List β) {f : β → DensityLayer (Value ℝ)}
    (h : ∀ x, (f x).width.wholePart = 0) :
    ((xs.map f).map fun layer => layer.width.wholePart).sum = 0 := by
  simp [Function.comp_def, h]

/-- A profile of real numbers whose widths are not negative is regular. -/
theorem regular_toValues {layers : Profile ℝ} (h : ∀ layer ∈ layers, 0 ≤ layer.width) :
    Regular (layers.map DensityLayer.toValues) where
  layer := by
    intro layer hlayer
    obtain ⟨plain, hplain, rfl⟩ := List.mem_map.mp hlayer
    exact DensityLayer.regular_toValues (h plain hplain)
  sum_lt := by
    rw [sum_wholePart_eq_zero layers fun _ => rfl]
    decide

end Profile

namespace LayerStack

/-- A layer as part of a stack, without its width. -/
noncomputable def stratum (layer : DensityLayer ℝ) : Stratum ℝ :=
  ⟨{ layer with width := 0.0 }, false⟩

/-- The stack of layers of real numbers. -/
noncomputable def ofLayers (layers : Profile ℝ) : LayerStack ℝ where
  bounded := (Profile.altitudesFrom 0 (layers.dropLast.map DensityLayer.width)).zip
    (layers.map stratum)
  top := (layers.map stratum).getLast?

end LayerStack

namespace Profile

section Stacks

variable {layers : Profile (Value ℝ)} (hlayers : ∀ layer ∈ layers, layer.Regular)

include hlayers

theorem negativeWidth?_of_mem_dropLast : ∀ w ∈ layers.dropLast.map DensityLayer.width,
    DensityLayer.negativeWidth? w = some false := by
  intro w hw
  obtain ⟨layer, hlayer, rfl⟩ := List.mem_map.mp hw
  exact (hlayers layer ((List.dropLast_sublist layers).subset hlayer)).width

/-- The stack of layers whose upper ends are known. -/
theorem stack?_of_upperEnds {ends : List (Quantity ℝ)}
    (hends : upperEnds (layers.dropLast.map DensityLayer.width) = .ok ends) :
    layers.stack? = some
      { LayerStack.ofLayers (layers.map DensityLayer.amounts) with
        bounded := (ends.map Quantity.amount).zip
          ((layers.map DensityLayer.amounts).map LayerStack.stratum) } := by
  have hstrata : (layers.mapM fun (layer : DensityLayer (Value ℝ)) =>
      layer.plain?.map (Stratum.mk · false)) =
        some (layers.map fun layer => LayerStack.stratum layer.amounts) := by
    clear hends
    induction layers with
    | nil => rfl
    | cons layer layers ih =>
      obtain ⟨hlayer, hrest⟩ := List.forall_mem_cons.mp hlayers
      simp [List.mapM_cons, DensityLayer.plain?_eq_amounts hlayer, ih hrest, LayerStack.stratum]
  simp only [stack?, hstrata, hends, Quantity.mapM_number, Except.toOption, Option.bind_eq_bind,
    Option.bind_some, Option.pure_def, LayerStack.ofLayers, List.map_map, Function.comp_def]

/-- Layers form the stack of the numbers that their values count as exactly if their widths fit. -/
theorem stack?_eq_ofLayers_iff :
    layers.stack? = some (.ofLayers (layers.map DensityLayer.amounts)) ↔
      WidthsFit (layers.dropLast.map DensityLayer.width) := by
  have hnonneg := negativeWidth?_of_mem_dropLast hlayers
  have hwidths : (layers.map DensityLayer.amounts).dropLast.map DensityLayer.width =
      (layers.dropLast.map DensityLayer.width).map Value.amount := by
    rw [← List.map_dropLast, List.map_map, List.map_map]
    rfl
  constructor
  · intro hstack
    obtain ⟨ends, hends⟩ := exists_upperEnds hnonneg
    rw [stack?_of_upperEnds hlayers hends] at hstack
    have hbounded := congrArg (List.map Prod.fst) (congrArg LayerStack.bounded
      (Option.some.inj hstack))
    have hlength : ends.length ≤ layers.length := by
      rw [length_upperEnds hends, List.length_map, List.length_dropLast]
      omega
    rw [LayerStack.ofLayers, hwidths, List.map_fst_zip (by simpa using hlength),
      List.map_fst_zip (by simp [length_altitudesFrom])] at hbounded
    exact widthsFit_of_upperEnds hnonneg hends hbounded
  · intro hfit
    obtain ⟨ends, hends, hamounts⟩ := hfit.exists_upperEnds hnonneg
    rw [stack?_of_upperEnds hlayers hends, hamounts, ← hwidths]
    rfl

end Stacks

theorem Regular.widthsFit {layers : Profile (Value ℝ)} (h : layers.Regular) :
    WidthsFit (layers.dropLast.map DensityLayer.width) := by
  have hsum : ((layers.dropLast.map DensityLayer.width).map Value.wholePart).sum < 2 ^ 63 := by
    rw [List.map_map]
    exact lt_of_le_of_lt (((List.dropLast_sublist layers).map _).sum_le_sum
      fun _ _ => Nat.zero_le _) h.sum_lt
  intro limit hlimit
  cases hhow : widthSum (layers.dropLast.map DensityLayer.width) <;>
    simp only [hhow, WidthSum.limit?, Option.some.injEq, reduceCtorEq] at hlimit <;> omega

/-- The layers of a regular profile form a stack. -/
theorem stack?_regular {layers : Profile (Value ℝ)} (h : layers.Regular) :
    layers.stack? = some (.ofLayers (layers.map DensityLayer.amounts)) :=
  (stack?_eq_ofLayers_iff h.layer).mpr h.widthsFit

end Profile

/-! ## Parameters -/

namespace Parameters

/-- All profiles are regular. -/
def Regular (p : Parameters ℝ) : Prop := ∀ f, (p.profile f).Regular

/-- The layers of all profiles have numbers as coefficients and no negative width. -/
def Layered (p : Parameters ℝ) : Prop := ∀ f, ∀ layer ∈ p.profile f, layer.Regular

theorem Regular.layered {p : Parameters ℝ} (h : p.Regular) : p.Layered := fun f => (h f).layer

theorem Regular.numberCoefficients {p : Parameters ℝ} (h : p.Regular) (f : ProfileField) :
    ∀ layer ∈ p.profile f, layer.NumberCoefficients :=
  fun layer hlayer => ((h f).layer layer hlayer).toNumberCoefficients

/-- The stack of a regular profile. -/
noncomputable def stack (p : Parameters ℝ) (f : ProfileField) : LayerStack ℝ :=
  .ofLayers ((p.profile f).map DensityLayer.amounts)

/-- The stacks of all constituents. -/
noncomputable def air (p : Parameters ℝ) : Constituents ℝ :=
  ⟨p.stack .rayleighDensity, p.stack .mieDensity, p.stack .absorptionDensity⟩

variable {p : Parameters ℝ}

theorem Regular.hasAir (h : p.Regular) : p.HasAir p.air where
  rayleigh := Profile.stack?_regular (h .rayleighDensity)
  mie := Profile.stack?_regular (h .mieDensity)
  absorption := Profile.stack?_regular (h .absorptionDensity)

theorem medium?_regular (h : p.Regular) :
    p.medium? = some (p.medium (p.stack .rayleighDensity) (p.stack .mieDensity)) :=
  h.hasAir.medium?_eq_some

/-- The layers of the Earth are regular. -/
theorem regular_earth : (earth : Parameters ℝ).Regular := by
  have hzero : (0 : ℝ) ≤ 0.0 := by norm_num
  intro f
  cases f with
  | rayleighDensity => exact Profile.regular_toValues (by simpa [DensityLayer.empty] using hzero)
  | mieDensity => exact Profile.regular_toValues (by simpa [DensityLayer.empty] using hzero)
  | absorptionDensity =>
    refine Profile.regular_toValues ?_
    norm_num [Earth.ozoneProfile, DensityLayer.empty, Earth.ozoneCenterAltitude]

end Parameters

end Airlight
