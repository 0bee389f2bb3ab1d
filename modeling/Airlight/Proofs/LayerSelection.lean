import Airlight.Proofs.LayerDensities
import Airlight.Proofs.TransmittanceBounds

/-!
# Selection of a layer

The density at an altitude is that of the first layer, from the ground up, whose upper end lies
above the altitude. The same layer is found by walking down from the top layer and replacing what
was found by each layer whose end lies above the altitude. Layers without width are never selected
above the ground: what ends at their own end already ends below it.

## Main definitions

* `Profile.Selects` — a layer is the first one that ends above an altitude.
* `Profile.walkDown` — the density that is found from the top layer down.
-/

namespace Airlight

open Scalar

variable {α : Type} [Scalar α]

/-! ## Stacks at an altitude -/

namespace LayerStack

variable {top : Option (Stratum α)} {h : α} {bounded : List (α × Stratum α)}

/-- Layers that end at or below the altitude do not count. -/
theorem densityAmong_of_passes (hpasses : ∀ q ∈ bounded, ¬ h < q.1) :
    densityAmong top h bounded = densityAmong top h [] := by
  induction bounded with
  | nil => rfl
  | cons q rest ih =>
    obtain ⟨hq, hrest⟩ := List.forall_mem_cons.mp hpasses
    rw [densityAmong, if_neg hq, ih hrest]

theorem densityAmong_of_covers {k : Nat} {upper : α} {s : Stratum α}
    (hk : bounded[k]? = some (upper, s)) (hcovers : h < upper)
    (hpasses : ∀ j < k, ∀ q, bounded[j]? = some q → ¬ h < q.1) :
    densityAmong top h bounded = s.density h := by
  induction bounded generalizing k with
  | nil => cases hk
  | cons q rest ih =>
    cases k with
    | zero =>
      cases hk
      rw [densityAmong, if_pos hcovers]
    | succ k =>
      rw [densityAmong, if_neg (hpasses 0 k.succ_pos q rfl)]
      exact ih hk fun j hj q' hq' => hpasses (j + 1) (by omega) q' hq'

/-- The layers from the ground up, each of them in front of the density above it. -/
theorem densityAmong_eq_foldr (layers : List (α × DensityLayer α)) :
    densityAmong top h (layers.map (Prod.map id DensityLayer.toStratum)) =
      layers.foldr (fun q above => if h < q.1 then q.2.density h else above)
        (densityAmong top h []) := by
  induction layers with
  | nil => rfl
  | cons q layers ih =>
    rw [List.map_cons, List.foldr_cons, ← ih]
    rfl

end LayerStack

namespace Profile

/-! ## Walking down -/

/-- The density that is found by walking down from the top layer: each layer whose upper end lies
above the altitude replaces what was found above it. -/
def walkDown (layers : Profile α) (h : α) : α :=
  match layers.getLast? with
  | none => 0.0
  | some top =>
    (layers.ends.reverse.zip layers.dropLast.reverse).foldl
      (fun found q => if h < q.1 then q.2.density h else found) (top.density h)

variable (layers : Profile α) {h : α}

/-- There is no end for the last layer. -/
theorem zip_ends : layers.ends.zip layers = layers.ends.zip layers.dropLast := by
  rw [List.zip_eq_zip_take_min, length_ends, Nat.min_eq_left (Nat.sub_le _ _),
    ← List.dropLast_eq_take, List.take_of_length_le layers.length_ends.le]

/-- What is found from the top layer down is found from the ground up. -/
theorem density_eq_walkDown (h : α) : layers.toStack.density h = layers.walkDown h := by
  have hreverse : layers.ends.reverse.zip layers.dropLast.reverse =
      (layers.ends.zip layers.dropLast).reverse :=
    (List.reverse_zipWith (by rw [length_ends, List.length_dropLast])).symm
  rw [LayerStack.density, toStack, walkDown, hreverse, List.zip_map_right, zip_ends,
    LayerStack.densityAmong_eq_foldr, List.getLast?_map]
  cases hlast : layers.getLast? with
  | none =>
    obtain rfl := List.getLast?_eq_none_iff.mp hlast
    rfl
  | some top =>
    dsimp only
    rw [List.foldl_reverse]
    rfl

/-! ## The first layer that ends above an altitude -/

/-- A layer is the first that ends above the altitude, where the last layer has no end. -/
structure Selects (layers : Profile α) (h : α) (k : Nat) : Prop where
  lt : k < layers.length
  passes : ∀ j < k, ¬ h < layers.upperEnd j
  covers : k + 1 < layers.length → h < layers.upperEnd k

variable {layers}

theorem Selects.eq {j k : Nat} (hj : layers.Selects h j) (hk : layers.Selects h k) : j = k := by
  rcases Nat.lt_trichotomy j k with hlt | heq | hlt
  · exact absurd (hj.covers (by have := hk.lt; omega)) (hk.passes j hlt)
  · exact heq
  · exact absurd (hk.covers (by have := hj.lt; omega)) (hj.passes k hlt)

theorem exists_selects (hlayers : layers ≠ []) (h : α) : ∃ k, layers.Selects h k := by
  classical
  have hpos := List.length_pos_iff.mpr hlayers
  have hends : ∃ k, k + 1 < layers.length → h < layers.upperEnd k :=
    ⟨layers.length - 1, fun hlt => absurd hlt (by omega)⟩
  have hle : Nat.find hends ≤ layers.length - 1 := Nat.find_min' hends fun hlt => by omega
  exact ⟨Nat.find hends, by omega, fun j hj hlt => Nat.find_min hends hj fun _ => hlt,
    Nat.find_spec hends⟩

/-- The density at an altitude is that of the selected layer. -/
theorem Selects.density_eq {k : Nat} {layer : DensityLayer α} (hk : layers.Selects h k)
    (hlayer : layers[k]? = some layer) : layers.toStack.density h = layer.density h := by
  have hpasses : ∀ j < k, ∀ q, layers.toStack.bounded[j]? = some q → ¬ h < q.1 := by
    intro j hj q hq
    have hend := layers.getElem?_ends (k := j) (by have := hk.lt; omega)
    rw [← Option.some.inj (hend.symm.trans (List.getElem?_zip_eq_some.mp hq).1)]
    exact hk.passes j hj
  rcases Nat.lt_or_ge (k + 1) layers.length with hmore | hlast
  · rw [← layer.density_toStratum]
    exact LayerStack.densityAmong_of_covers (layers.getElem?_bounded hmore hlayer)
      (hk.covers hmore) hpasses
  · -- the last layer is reached when all ends are passed
    have hall : ∀ q ∈ layers.toStack.bounded, ¬ h < q.1 := by
      intro q hq
      obtain ⟨j, hj⟩ := List.mem_iff_getElem?.mp hq
      have hlt := (List.getElem?_eq_some_iff.mp (List.getElem?_zip_eq_some.mp hj).1).1
      rw [length_ends] at hlt
      exact hpasses j (by omega) q hj
    have htop : layers.getLast? = some layer := by
      have hindex : layers.length - 1 = k := by have := hk.lt; omega
      rw [List.getLast?_eq_getElem?, hindex, hlayer]
    rw [LayerStack.density, LayerStack.densityAmong_of_passes hall, toStack, List.getLast?_map,
      htop]
    exact layer.density_toStratum h

/-- The width of the last layer is not looked at. -/
theorem toStack_concat_width (lower : Profile α) (top : DensityLayer α) (width : α) :
    (lower ++ [{ top with width }]).toStack = (lower ++ [top]).toStack := by
  simp only [toStack, ends, List.dropLast_concat, List.map_append]
  rfl

/-! ## Real numbers -/

theorem upperEnd_real (layers : Profile ℝ) (k : Nat) :
    layers.upperEnd k = ((layers.take (k + 1)).map DensityLayer.width).sum := by
  rw [upperEnd]
  cases (layers.take (k + 1)).map DensityLayer.width with
  | nil => norm_num
  | cons width widths => rw [List.sum_eq_foldl, List.foldl_cons, zero_add]

/-- From a base at or below the altitude on, a layer without width is passed. -/
theorem densityFrom_insert {base h : ℝ} (hbase : base ≤ h) (lower : Profile ℝ) {upper : Profile ℝ}
    {layer : DensityLayer ℝ} (hwidth : layer.width = 0) (hupper : upper ≠ []) :
    densityFrom base (lower ++ layer :: upper) h = densityFrom base (lower ++ upper) h := by
  induction lower generalizing base with
  | nil =>
    obtain ⟨next, rest, rfl⟩ := List.exists_cons_of_ne_nil hupper
    rw [List.nil_append, List.nil_append, densityFrom, hwidth, add_zero, if_neg (not_lt.mpr hbase)]
  | cons first lower ih =>
    have hcons : ∀ {above : Profile ℝ}, above ≠ [] → densityFrom base (first :: above) h =
        if h < base + first.width then first.density h
        else densityFrom (base + first.width) above h := by
      intro above habove
      obtain ⟨next, rest, rfl⟩ := List.exists_cons_of_ne_nil habove
      rfl
    rw [List.cons_append, List.cons_append, hcons (by simp), hcons (by simp [hupper])]
    split_ifs with hlt
    · rfl
    · exact ih (not_lt.mp hlt)

/-- A layer without width below the last one changes nothing above the ground. -/
theorem density_insert {h : ℝ} (hh : 0 ≤ h) (lower : Profile ℝ) {upper : Profile ℝ}
    {layer : DensityLayer ℝ} (hwidth : layer.width = 0) (hupper : upper ≠ []) :
    (lower ++ layer :: upper).toStack.density h = (lower ++ upper).toStack.density h := by
  have hzero : (0.0 : ℝ) = 0 := by norm_num
  rw [toStack_eq_ofLayers, toStack_eq_ofLayers, LayerStack.density_ofLayers,
    LayerStack.density_ofLayers, density, density, hzero]
  exact densityFrom_insert hh lower hwidth hupper

/-- The density of layers is that of the first layer which ends above the altitude, and of the last
layer if none does; without layers there is none. Layers form one stack, whether their numbers are
given as arrays or as document values, and its density is the one that is found by walking down from
the top layer. The width of the last layer does not matter. Over the real numbers a layer ends at
the sum of the widths up to its own, densities are fractions, and a layer without width that is
inserted below the last one changes nothing above the ground. Document values form the stack of the
numbers that they count as exactly if the sum of widths that are all whole numbers of 64 bits is one
of these, too. -/
theorem density_of_selected {α : Type} [Scalar α] [Inhabited α] (layers : Profile α) :
    ((∀ altitudes : Tensor α,
        (densities (layers.map DensityLayer.toArrays) altitudes : Except (Failure α) (Tensor α)) =
          .ok (altitudes.map layers.toStack.density)) ∧
      stack? (layers.map DensityLayer.toValues) = some layers.toStack ∧
      (∀ h, layers.toStack.density h = layers.walkDown h) ∧
      (layers = [] → ∀ h, layers.toStack.density h = 0.0) ∧
      (layers ≠ [] → ∀ h, ∃! k, layers.Selects h k) ∧
      (∀ h k, layers.Selects h k → ∃ layer, layers[k]? = some layer ∧
        layers.toStack.density h =
          clamp (layer.expTerm * exp (layer.expScale * h) + layer.linearTerm * h +
            layer.constantTerm) 0.0 1.0) ∧
      ∀ (top : DensityLayer α) (width : α),
        (layers ++ [{ top with width }]).toStack = (layers ++ [top]).toStack) ∧
    (∀ reals : Profile ℝ,
      (∀ k, reals.upperEnd k = ((reals.take (k + 1)).map DensityLayer.width).sum) ∧
      (∀ h, reals.toStack.density h ∈ Set.Icc (0 : ℝ) 1) ∧
      ∀ (lower upper : Profile ℝ) (layer : DensityLayer ℝ), reals = lower ++ upper →
        upper ≠ [] → layer.width = 0 → ∀ h, 0 ≤ h →
          (lower ++ layer :: upper).toStack.density h = reals.toStack.density h) ∧
    ∀ values : Profile (Value ℝ), (∀ layer ∈ values, layer.Regular) →
      (values.stack? = some (toStack (values.map DensityLayer.amounts)) ↔
        WidthsFit (values.dropLast.map DensityLayer.width)) := by
  refine ⟨⟨layers.densities_toArrays, layers.stack?_toValues, layers.density_eq_walkDown, ?_,
    fun hlayers h => ?_, fun h k hk => ?_, layers.toStack_concat_width⟩, fun reals =>
    ⟨reals.upperEnd_real, reals.toStack.density_mem_unit, ?_⟩, fun values hvalues => ?_⟩
  · rintro rfl h
    rfl
  · obtain ⟨k, hk⟩ := exists_selects hlayers h
    exact ⟨k, hk, fun j hj => hj.eq hk⟩
  · have hlayer := List.getElem?_eq_getElem hk.lt
    exact ⟨_, hlayer, hk.density_eq hlayer⟩
  · rintro lower upper layer rfl hupper hwidth h hh
    exact density_insert hh lower hwidth hupper
  · rw [toStack_eq_ofLayers]
    exact stack?_eq_ofLayers_iff hvalues

/-- Two layers, with and without a layer between them that has no width: at the end of the lower one
the density is that of the upper one. The lower one may have a whole width. -/
theorem density_of_selected_two :
    let lower : DensityLayer ℝ := { DensityLayer.empty with width := 2, constantTerm := 1 }
    let middle : DensityLayer ℝ := { DensityLayer.empty with width := 0, constantTerm := 1 / 2 }
    let upper : DensityLayer ℝ := { DensityLayer.empty with width := 7, constantTerm := 1 / 4 }
    let layers : Profile ℝ := [lower, upper]
    layers.Selects 1 0 ∧ layers.toStack.density 1 = 1 ∧
      layers.Selects 2 1 ∧ layers.toStack.density 2 = 1 / 4 ∧
      toStack [lower, middle, upper] = toStack ([lower, middle] ++ [{ upper with width := 9 }]) ∧
      (toStack [lower, middle, upper]).density 2 = 1 / 4 ∧ (∃! k, layers.Selects 3 k) ∧
      stack? [{ lower.toValues with width := .integer 2 }, upper.toValues] =
        some layers.toStack := by
  intro lower middle upper layers
  obtain ⟨⟨-, -, -, -, hunique, hselected, -⟩, hreal, hvalues⟩ := density_of_selected layers
  obtain ⟨⟨-, -, -, -, -, -, hwidth⟩, -⟩ := density_of_selected [lower, middle]
  obtain ⟨hends, -, hinsert⟩ := hreal layers
  have hend : layers.upperEnd 0 = 2 := (hends 0).trans (by simp [layers, lower])
  have hfirst : layers.Selects 1 0 :=
    ⟨by decide, fun _ hj => absurd hj (Nat.not_lt_zero _), fun _ => by rw [hend]; norm_num⟩
  have hsecond : layers.Selects 2 1 := by
    refine ⟨by decide, fun j hj => ?_, fun hlt => absurd hlt (by decide)⟩
    obtain rfl := Nat.lt_one_iff.mp hj
    rw [hend]
    exact lt_irrefl _
  have htwo : layers.toStack.density 2 = 1 / 4 := by
    obtain ⟨layer, hlayer, hdensity⟩ := hselected 2 1 hsecond
    obtain rfl : upper = layer := Option.some.inj hlayer
    rw [hdensity]
    norm_num [upper, DensityLayer.empty]
  have hregular : Regular [{ lower.toValues with width := .integer 2 }, upper.toValues] := by
    have hlower : lower.toValues.Regular := DensityLayer.regular_toValues (by norm_num [lower])
    have hupper : upper.toValues.Regular := DensityLayer.regular_toValues (by norm_num [upper])
    have hwhole : ({ lower.toValues with width := .integer 2 } : DensityLayer (Value ℝ)).Regular :=
      { hlower with width := rfl }
    exact ⟨by simpa using ⟨hwhole, hupper⟩, by decide⟩
  refine ⟨hfirst, ?_, hsecond, htwo, (hwidth upper 9).symm, ?_, hunique (by simp [layers]) 3, ?_⟩
  · obtain ⟨layer, hlayer, hdensity⟩ := hselected 1 0 hfirst
    obtain rfl : lower = layer := Option.some.inj hlayer
    rw [hdensity]
    norm_num [lower, DensityLayer.empty]
  · exact (hinsert [lower] [upper] middle rfl (by simp) rfl 2 (by norm_num)).trans htwo
  · rw [(hvalues _ hregular.layer).mpr hregular.widthsFit]
    simp [layers, lower, upper, DensityLayer.amounts, DensityLayer.toValues, Value.amount]

/-- The whole widths 1 and `2 ^ 63 - 1` of two empty layers wrap around when they are added, so that
the second layer ends below the ground. At the altitude 2 it is the first that ends above, but the
density is that of the last layer. -/
theorem wrapped_width_not_selected :
    let empty : DensityLayer ℝ := .empty
    let layers : Profile (Value ℝ) :=
      [{ empty.toValues with width := .integer 1 },
        { empty.toValues with width := .integer (2 ^ 63 - 1) },
        { empty with constantTerm := 1 }.toValues]
    Selects (layers.map DensityLayer.amounts) 2 1 ∧
      (toStack (layers.map DensityLayer.amounts)).density 2 = 0 ∧
      ∃ stack, layers.stack? = some stack ∧ stack.density 2 = 1 := by
  intro empty layers
  have hempty : empty.toValues.Regular :=
    DensityLayer.regular_toValues (by norm_num [empty, DensityLayer.empty])
  have htop : ({ empty with constantTerm := 1 } : DensityLayer ℝ).toValues.Regular :=
    DensityLayer.regular_toValues (by norm_num [empty, DensityLayer.empty])
  have hregular : ∀ layer ∈ layers, layer.Regular := by
    simp only [layers, List.forall_mem_cons, List.not_mem_nil, false_imp_iff, implies_true,
      and_true]
    exact ⟨{ hempty with width := rfl }, { hempty with width := rfl }, htop⟩
  have hends : upperEnds (layers.dropLast.map DensityLayer.width) =
      .ok [.whole 1, .whole (-2 ^ 63)] := rfl
  have hselects : Selects (layers.map DensityLayer.amounts) 2 1 := by
    refine ⟨by decide, fun j hj => ?_, fun _ => ?_⟩
    · obtain rfl := Nat.lt_one_iff.mp hj
      rw [upperEnd_real]
      norm_num [layers, DensityLayer.amounts, Value.amount]
    · rw [upperEnd_real]
      norm_num [layers, DensityLayer.amounts, Value.amount]
  refine ⟨hselects, ?_, _, stack?_of_upperEnds hregular hends, ?_⟩
  · rw [hselects.density_eq rfl]
    norm_num [layers, empty, DensityLayer.density, DensityLayer.amounts, DensityLayer.toValues,
      DensityLayer.empty, Value.amount]
  · norm_num [layers, empty, LayerStack.density, LayerStack.densityAmong, LayerStack.ofLayers,
      LayerStack.stratum, Stratum.density, DensityLayer.density, DensityLayer.amounts,
      DensityLayer.toValues, DensityLayer.empty, Value.amount, Quantity.amount]

end Profile

end Airlight
