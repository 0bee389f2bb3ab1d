import Airlight.Proofs.NumberLayers

/-!
# Stacks of layers of numbers

Layers of single numbers form one stack, whether their numbers are given as arrays or as document
values. Its upper ends are the widths added from the ground up; the last layer has no end, and its
width is not looked at. Nothing is assumed about the number type.

## Main definitions

* `Profile.upperEnd` — where a layer ends.
* `Profile.toStack` — the stack of layers of numbers.
-/

namespace Airlight

variable {α : Type} [Scalar α]

namespace DensityLayer

/-- A layer as part of a stack, without its width. -/
def toStratum (layer : DensityLayer α) : Stratum α := ⟨{ layer with width := 0.0 }, false⟩

/-- The arrays of a layer as part of a stack. -/
def arrayStratum (layer : DensityLayer α) : Stratum (Tensor α) :=
  ⟨layer.toArrays.withoutWidth, false⟩

theorem density_toStratum (layer : DensityLayer α) (h : α) :
    layer.toStratum.density h = layer.density h := rfl

/-- The numbers of a layer are those of its document values. -/
theorem plain?_toValues (layer : DensityLayer α) :
    layer.toValues.plain? = some { layer with width := 0.0 } :=
  plain?_eq_some rfl rfl rfl rfl

end DensityLayer

namespace Profile

/-! ## Running sums -/

omit [Scalar α] in
theorem running_go (f : α → α → α) {β ε : Type} {g : α → β} {o : β → β → Except ε β}
    (ho : ∀ a b, o (g a) (g b) = .ok (g (f a b))) (sum : α) (xs : List α) :
    running.go o (g sum) (xs.map g) = .ok ((xs.scanl f sum).map g) := by
  induction xs generalizing sum with
  | nil => rfl
  | cons x xs ih =>
    simp only [List.map_cons, running.go, ho, ok_bind, ih, pure_eq_ok, List.scanl_cons]

/-- The first sum is the first number, and each number is added to the sum before it. -/
theorem runningSums_cons (x : α) (xs : List α) :
    runningSums (x :: xs) = xs.scanl (· + ·) x := by
  have hgo := running_go (· + ·) (g := id) (o := fun a b => (.ok (a + b) : Except Unit α))
    (fun _ _ => rfl) x xs
  simp only [List.map_id, id_eq] at hgo
  simp only [runningSums, running, hgo]

theorem length_runningSums (xs : List α) : (runningSums xs).length = xs.length := by
  cases xs with
  | nil => rfl
  | cons x xs => rw [runningSums_cons, List.length_scanl, List.length_cons]

/-! ## Upper ends -/

variable (layers : Profile α)

/-- The altitudes at which the layers below the last one end. -/
def ends : List α := runningSums (layers.dropLast.map DensityLayer.width)

/-- Where a layer ends: the widths up to its own, added from the ground up. -/
def upperEnd (k : Nat) : α :=
  match (layers.take (k + 1)).map DensityLayer.width with
  | [] => 0.0
  | width :: widths => widths.foldl (· + ·) width

theorem length_ends : layers.ends.length = layers.length - 1 := by
  rw [ends, length_runningSums, List.length_map, List.length_dropLast]

theorem getElem?_ends {k : Nat} (hk : k + 1 < layers.length) :
    layers.ends[k]? = some (layers.upperEnd k) := by
  have htake : layers.dropLast.take (k + 1) = layers.take (k + 1) := by
    rw [List.dropLast_eq_take, List.take_take, Nat.min_eq_left (by omega)]
  rw [upperEnd, ← htake, List.map_take, ends]
  cases hwidths : layers.dropLast.map DensityLayer.width with
  | nil =>
    have hlength := congrArg List.length hwidths
    simp only [List.length_map, List.length_dropLast, List.length_nil] at hlength
    omega
  | cons width widths =>
    have hlength := congrArg List.length hwidths
    simp only [List.length_map, List.length_dropLast, List.length_cons] at hlength
    rw [runningSums_cons, List.getElem?_scanl, if_pos (by omega), List.take_succ_cons]

/-! ## Stacks -/

/-- The stack of layers of numbers. -/
def toStack : LayerStack α where
  bounded := layers.ends.zip (layers.map DensityLayer.toStratum)
  top := (layers.map DensityLayer.toStratum).getLast?

theorem getElem?_bounded {k : Nat} {layer : DensityLayer α} (hk : k + 1 < layers.length)
    (hlayer : layers[k]? = some layer) :
    layers.toStack.bounded[k]? = some (layers.upperEnd k, layer.toStratum) := by
  refine List.getElem?_zip_eq_some.mpr ⟨layers.getElem?_ends hk, ?_⟩
  rw [List.getElem?_map, hlayer, Option.map_some]

/-! ## Layers of document values -/

omit [Scalar α] in
theorem widthSum_real (widths : List α) : widthSum (widths.map Value.real) = .plain := by
  cases widths with
  | nil => rfl
  | cons width widths => simp [widthSum, Operand.isObject]

/-- Widths that are given as numbers are added up as numbers. -/
theorem upperEnds_real (widths : List α) :
    upperEnds (widths.map Value.real) = .ok ((runningSums widths).map Quantity.real) := by
  cases widths with
  | nil => rfl
  | cons width widths =>
    have hread : ((width :: widths).map Value.real).mapM (fun v => do
        let q ← v.quantity
        if WidthSum.plain = .plain then return .real (← q.number) else return q) =
          (.ok ((width :: widths).map Quantity.real) : Except (Failure α) _) := by
      rw [List.mapM_map]
      exact listMapM_eq_ok fun _ _ => rfl
    unfold upperEnds
    rw [widthSum_real]
    dsimp only
    rw [hread, ok_bind, List.map_cons, running, runningSums_cons]
    exact running_go (· + ·) (fun _ _ => rfl) width widths

theorem mapM_number_real (xs : List α) :
    (xs.map Quantity.real).mapM Quantity.number = (.ok xs : Except (Failure α) _) := by
  rw [List.mapM_map]
  exact (listMapM_eq_ok fun _ _ => rfl).trans (congrArg _ (List.map_id xs))

/-- Layers of numbers that are given as document values form the stack of the layers. -/
theorem stack?_toValues : stack? (layers.map DensityLayer.toValues) = some layers.toStack := by
  have hstrata : (layers.map DensityLayer.toValues).mapM
      (fun layer => layer.plain?.map (Stratum.mk · false)) =
        some (layers.map DensityLayer.toStratum) := by
    rw [List.mapM_map]
    simp only [Function.comp_def, DensityLayer.plain?_toValues, Option.map_some]
    exact List.mapM_pure
  have hwidths : (layers.map DensityLayer.toValues).dropLast.map DensityLayer.width =
      (layers.dropLast.map DensityLayer.width).map Value.real := by
    rw [← List.map_dropLast, List.map_map, List.map_map]
    rfl
  have hends : upperEnds ((layers.map DensityLayer.toValues).dropLast.map DensityLayer.width) =
      .ok (layers.ends.map Quantity.real) := by
    rw [hwidths]
    exact upperEnds_real _
  simp only [stack?, hstrata, hends, mapM_number_real, Except.toOption, Option.bind_eq_bind,
    Option.bind_some, Option.pure_def, toStack]

/-! ## Layers of arrays -/

variable [Inhabited α]

/-- Layers of numbers form one stack, whatever their upper ends are. -/
theorem stacksOf_arrayStratum {φ : Type} (bounded : List (α × DensityLayer α))
    (top : DensityLayer α) :
    (stacksOf (bounded.map (Prod.map id DensityLayer.arrayStratum)) top.arrayStratum :
        Except (Failure φ) (Tensor (LayerStack α))) =
      .ok (.single ⟨bounded.map (Prod.map id DensityLayer.toStratum), some top.toStratum⟩) := by
  have hcommon : ∀ strata : List (Stratum (Tensor α)),
      (∀ s ∈ strata, s.layer.shapes = [[], [], [], []]) →
      (Tensor.joinAll (strata.flatMap fun s => s.layer.shapes) : Except (Failure φ) (List ℕ)) =
        .ok [] := by
    intro strata hstrata
    cases strata with
    | nil => rfl
    | cons s strata =>
      refine Tensor.joinAll_sizes (fun shape hshape => ?_) ?_
      · obtain ⟨t, ht, hshape⟩ := List.mem_flatMap.mp hshape
        rw [hstrata t ht] at hshape
        simpa using hshape
      · rw [List.flatMap_cons, hstrata s List.mem_cons_self]
        exact List.mem_append_left _ List.mem_cons_self
  have hlayers : ∀ s ∈ (bounded.map (Prod.map id DensityLayer.arrayStratum)).map Prod.snd ++
      [top.arrayStratum], s.layer.shapes = [[], [], [], []] := by
    intro s hs
    simp only [List.map_map, List.mem_append, List.mem_map, List.mem_singleton] at hs
    rcases hs with ⟨_, -, rfl⟩ | rfl <;> rfl
  simp only [stacksOf, hcommon _ hlayers, ok_bind, pure_eq_ok]
  simp only [List.map_map]
  rfl

/-- The arrays of layers of numbers form the stack of the layers. -/
theorem arrayStacks_toArrays {φ : Type} :
    (arrayStacks (layers.map DensityLayer.toArrays) :
        Except (Failure φ) (Tensor (LayerStack α))) = .ok (.single layers.toStack) := by
  have hstrata : (layers.map DensityLayer.toArrays).map
      (fun layer => (⟨layer.withoutWidth, false⟩ : Stratum (Tensor α))) =
        layers.map DensityLayer.arrayStratum := by
    rw [List.map_map]
    rfl
  have hwidths : (layers.map DensityLayer.toArrays).dropLast.map DensityLayer.width =
      (layers.dropLast.map DensityLayer.width).map Tensor.single := by
    rw [← List.map_dropLast, List.map_map, List.map_map]
    rfl
  have hdata : ((layers.dropLast.map DensityLayer.width).map Tensor.single).flatMap
      (fun w => w.data.toList) = layers.dropLast.map DensityLayer.width := by
    rw [List.flatMap_map]
    exact List.flatMap_singleton' _
  have hsame : ∀ widths : List α, ((widths.map Tensor.single).any fun w =>
      (widths.map Tensor.single).head?.any fun first => w.shape ≠ first.shape) = false := by
    intro widths
    cases widths <;> simp
  unfold arrayStacks
  simp only [hstrata, hwidths, hdata, hsame, length_runningSums, List.length_map, Nat.sub_self,
    List.drop_zero, Bool.false_eq_true, if_false, List.getLast?_map, List.zip_map_right]
  cases hlast : layers.getLast? with
  | none =>
    obtain rfl := List.getLast?_eq_none_iff.mp hlast
    rfl
  | some top =>
    simp only [Option.map_some, stacksOf_arrayStratum, toStack, ends, List.zip_map_right,
      List.getLast?_map, hlast]

/-- Layers of numbers give their densities at any array of altitudes. -/
theorem densities_toArrays {φ : Type} (altitudes : Tensor α) :
    (densities (layers.map DensityLayer.toArrays) altitudes : Except (Failure φ) (Tensor α)) =
      .ok (altitudes.map layers.toStack.density) := by
  simp only [densities, arrayStacks_toArrays, ok_bind]
  exact Tensor.map₂_single_left _ _ _

end Profile

end Airlight
