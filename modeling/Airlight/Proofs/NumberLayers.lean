import Airlight.Proofs.Tensors
import Airlight.Scattering.Batch

/-!
# Layers with numbers as coefficients

The light scattered into a single ray is one spectrum for each constituent only if every coefficient
of the scattering layers is a number. A nested list would give the result an axis.

## Main definitions

* `Value.IsNumber` — a value that counts as a number in arithmetic.
-/

namespace Airlight

variable {α : Type} [Scalar α]

/-- The value can be used as a number. -/
def Value.IsNumber (v : Value α) : Prop := ∃ x, v.operand = .ok x

theorem Value.isNumber_of_operandOrFail {v : Value α} {x : α} (h : v.operandOrFail = .ok x) :
    v.IsNumber := by
  unfold Value.operandOrFail at h
  split at h
  · next y hy => exact ⟨y, hy⟩
  · cases h

namespace Tensor

theorem shape_of_mapM {ε β γ : Type} {f : β → Except ε γ} {t : Tensor β} {u : Tensor γ}
    (h : t.mapM f = .ok u) : u.shape = t.shape := by
  obtain ⟨_, _, hresult⟩ := bind_eq_ok_iff.mp h
  cases hresult
  rfl

end Tensor

namespace Operand

omit [Scalar α] in
/-- A list has an axis. -/
theorem axes?_ne_nil {v : Value α} (hv : isList v = true) : v.axes? ≠ some [] := by
  unfold isList at hv
  split at hv
  · next items =>
    rw [Value.axes?]
    cases Value.commonAxes? items <;> simp
  · next name items =>
    rw [Value.axes?, Value.axes?]
    cases Value.commonAxes? items <;> simp
  · cases hv

omit [Scalar α] in
theorem axes?_of_tensorOf {v : Value α} {t : Tensor (Value α)} (h : tensorOf v = .ok t) :
    v.axes? = some t.shape := by
  unfold tensorOf Value.toTensor at h
  split at h
  · cases h
  · next shape hshape =>
    split_ifs at h
    · cases h
    · obtain ⟨_, -, hresult⟩ := bind_eq_ok_iff.mp h
      split at hresult
      · next u hu =>
        cases hresult
        unfold Tensor.ofArray? at hu
        split_ifs at hu
        cases hu
        exact hshape
      · cases hresult

/-- The numbers of an operand have no axes only if they are those of an array without axes. -/
theorem shape_of_combine {o : Operand α} {join : List Nat → Except (Failure α) (List Nat)}
    {t : Tensor α} {common : List Nat} (h : o.combine join = .ok (t, common)) (ht : t.shape = []) :
    o = numbers t ∨ ∃ u : Tensor (Value α), o = objects u ∧ u.shape = [] := by
  unfold combine at h
  cases o with
  | numbers u =>
    obtain ⟨_, -, hresult⟩ := bind_eq_ok_iff.mp h
    cases hresult
    exact .inl rfl
  | texts => cases h
  | objects u =>
    obtain ⟨shape, -, hresult⟩ := bind_eq_ok_iff.mp h
    split_ifs at hresult with hvolume
    · -- an array without axes has a position
      cases hresult
      subst ht
      cases hvolume
    · obtain ⟨w, hw, hresult⟩ := bind_eq_ok_iff.mp hresult
      cases hresult
      exact .inr ⟨u, rfl, (Tensor.shape_of_mapM hw).symm.trans ht⟩

/-- A value that gives an array without axes in arithmetic is a number. -/
theorem isNumber_of_combine {v : Value α} {join : List Nat → Except (Failure α) (List Nat)}
    {t : Tensor α} {common : List Nat} (h : (ofValue v >>= (·.combine join)) = .ok (t, common))
    (ht : t.shape = []) : v.IsNumber := by
  obtain ⟨o, ho, hcombine⟩ := bind_eq_ok_iff.mp h
  have hshape := shape_of_combine hcombine ht
  unfold ofValue at ho
  split_ifs at ho with hlist htext
  · -- the array of a list has an axis
    obtain ⟨u, hu, ho⟩ := bind_eq_ok_iff.mp ho
    have hne : u.shape ≠ [] := fun hnil => axes?_ne_nil hlist (hnil ▸ axes?_of_tensorOf hu)
    split_ifs at ho
    · cases ho
      obtain hnumbers | ⟨_, hobjects, hnil⟩ := hshape
      · cases hnumbers
      · cases hobjects
        exact absurd hnil hne
    · cases ho
      obtain hnumbers | ⟨_, hobjects, -⟩ := hshape
      · cases hnumbers
      · cases hobjects
    · obtain ⟨w, hw, ho⟩ := bind_eq_ok_iff.mp ho
      cases ho
      obtain hnumbers | ⟨_, hobjects, -⟩ := hshape
      · cases hnumbers
        exact absurd ((Tensor.shape_of_mapM hw).symm.trans ht) hne
      · cases hobjects
  · cases ho
    obtain hnumbers | ⟨_, hobjects, -⟩ := hshape
    · cases hnumbers
    · cases hobjects
  · obtain ⟨x, hx, -⟩ := bind_eq_ok_iff.mp ho
    exact Value.isNumber_of_operandOrFail hx

end Operand

namespace DensityLayer

/-- The coefficients that a density is computed from are numbers. -/
structure NumberCoefficients (layer : DensityLayer (Value α)) : Prop where
  expTerm : layer.expTerm.IsNumber
  expScale : layer.expScale.IsNumber
  linearTerm : layer.linearTerm.IsNumber
  constantTerm : layer.constantTerm.IsNumber

theorem plain?_eq_some {layer : DensityLayer (Value α)} {a b c d : α}
    (ha : layer.expTerm.operand = .ok a) (hb : layer.expScale.operand = .ok b)
    (hc : layer.linearTerm.operand = .ok c) (hd : layer.constantTerm.operand = .ok d) :
    layer.plain? = some ⟨0.0, a, b, c, d⟩ := by
  have hwidth : (Value.real (0.0 : α)).operand = .ok 0.0 := rfl
  simp only [plain?, mapM, hwidth, ha, hb, hc, hd, ok_bind, pure_eq_ok]
  rfl

theorem plain?_isSome {layer : DensityLayer (Value α)} (h : layer.NumberCoefficients) :
    layer.plain?.isSome = true := by
  obtain ⟨⟨_, ha⟩, ⟨_, hb⟩, ⟨_, hc⟩, _, hd⟩ := h
  rw [plain?_eq_some ha hb hc hd, Option.isSome_some]

theorem numberCoefficients_of_plain? {layer : DensityLayer (Value α)} {plain : DensityLayer α}
    (h : layer.plain? = some plain) : layer.NumberCoefficients := by
  have hmap : { layer with width := Value.real 0.0 }.mapM Value.operand = .ok plain := by
    unfold plain? at h
    cases hmap : { layer with width := Value.real 0.0 }.mapM Value.operand with
    | ok _ => simpa [hmap, Except.toOption] using h
    | error _ => simp [hmap, Except.toOption] at h
  obtain ⟨_, -, hmap⟩ := bind_eq_ok_iff.mp hmap
  obtain ⟨a, ha, hmap⟩ := bind_eq_ok_iff.mp hmap
  obtain ⟨b, hb, hmap⟩ := bind_eq_ok_iff.mp hmap
  obtain ⟨c, hc, hmap⟩ := bind_eq_ok_iff.mp hmap
  obtain ⟨d, hd, -⟩ := bind_eq_ok_iff.mp hmap
  exact ⟨⟨a, ha⟩, ⟨b, hb⟩, ⟨c, hc⟩, d, hd⟩

/-- Numbers are not kept as they are. -/
theorem keepsElements_eq_false {layer : DensityLayer (Value α)} (h : layer.NumberCoefficients) :
    layer.keepsElements = false := by
  have hnumber : ∀ v : Value α, v.IsNumber → Operand.keepsElements v = false := by
    rintro v ⟨x, hx⟩
    cases v <;> first | rfl | cases hx
  simp [keepsElements, hnumber _ h.expTerm, hnumber _ h.linearTerm, hnumber _ h.constantTerm]

/-- Coefficients that form arrays without axes are numbers. -/
theorem numberCoefficients_of_arrays {layer : DensityLayer (Value α)} {altitude : List Nat}
    {arrays : DensityLayer (Tensor α)} {shape : List Nat}
    (h : layer.arrays altitude = .ok (arrays, shape)) (hshapes : ∀ s ∈ arrays.shapes, s = []) :
    layer.NumberCoefficients := by
  unfold DensityLayer.arrays at h
  obtain ⟨⟨expScale, exponent⟩, hscale, h⟩ := bind_eq_ok_iff.mp h
  obtain ⟨expTerm, linearTerm, linear, joined, constantTerm, own, hterm, hlinear, hconstant, h⟩ :
      ∃ (expTerm linearTerm : Tensor α) (linear joined : List Nat) (constantTerm : Tensor α)
        (own : List Nat), (expTerm.shape = [] → layer.expTerm.IsNumber) ∧
        layer.linearTerm.combine altitude = .ok (linearTerm, linear) ∧
        layer.constantTerm.combineAfter joined = .ok (constantTerm, own) ∧
        arrays = ⟨.single 0.0, expTerm, expScale, linearTerm, constantTerm⟩ := by
    dsimp only at h
    split_ifs at h
    · cases h
    · cases h
    · obtain ⟨_, hx, h⟩ := bind_eq_ok_iff.mp h
      simp only [pure_eq_ok, ok_bind, bind_eq_ok_iff, Prod.exists] at h
      obtain ⟨linearTerm, linear, hlinear, joined, -, constantTerm, own, hconstant, h⟩ := h
      cases h
      exact ⟨_, _, _, _, _, _, fun _ => Value.isNumber_of_operandOrFail hx, hlinear, hconstant, rfl⟩
    · obtain ⟨⟨expTerm, exponential⟩, hterm, h⟩ := bind_eq_ok_iff.mp h
      simp only [bind_eq_ok_iff, Prod.exists] at h
      obtain ⟨linearTerm, linear, hlinear, joined, -, constantTerm, own, hconstant, h⟩ := h
      cases h
      exact ⟨_, _, _, _, _, _, Operand.isNumber_of_combine hterm, hlinear, hconstant, rfl⟩
  subst h
  simp only [shapes, List.mem_cons, List.not_mem_nil, or_false, forall_eq_or_imp,
    forall_eq] at hshapes
  obtain ⟨htermShape, hscaleShape, hlinearShape, hconstantShape⟩ := hshapes
  exact ⟨hterm htermShape, Operand.isNumber_of_combine hscale hscaleShape,
    Operand.isNumber_of_combine hlinear hlinearShape,
    Operand.isNumber_of_combine hconstant hconstantShape⟩

end DensityLayer

namespace Profile

/-- No density of layers with numbers as coefficients is kept as it is. -/
theorem any_keepsElements_eq_false {layers : Profile (Value α)}
    (h : ∀ layer ∈ layers, layer.NumberCoefficients) :
    layers.any DensityLayer.keepsElements = false := by
  refine List.any_eq_false.mpr fun layer hlayer => ?_
  rw [DensityLayer.keepsElements_eq_false (h layer hlayer)]
  decide

theorem length_running {β ε : Type} {f : β → β → Except ε β} {xs ys : List β}
    (h : running f xs = .ok ys) : ys.length = xs.length := by
  have hgo : ∀ (xs : List β) (sum : β) (ys : List β), running.go f sum xs = .ok ys →
      ys.length = xs.length + 1 := by
    intro xs
    induction xs with
    | nil =>
      intro sum ys h
      cases h
      rfl
    | cons x xs ih =>
      intro sum ys h
      obtain ⟨next, -, h⟩ := bind_eq_ok_iff.mp h
      obtain ⟨rest, hrest, h⟩ := bind_eq_ok_iff.mp h
      cases h
      rw [List.length_cons, ih next rest hrest, List.length_cons]
  cases xs with
  | nil =>
    cases h
    rfl
  | cons x xs => exact hgo xs x ys h

/-- There is an upper end for each width. -/
theorem length_upperEnds {widths : List (Value α)} {ends : List (Quantity α)}
    (h : upperEnds widths = .ok ends) : ends.length = widths.length := by
  obtain ⟨quantities, hread, hrunning⟩ := bind_eq_ok_iff.mp h
  rw [length_running hrunning, length_of_listMapM hread]

/-- Each layer of a stack has its arrays and its upper end among the strata. -/
theorem mem_strataDown {altitude : List Nat} {layers : List (Quantity α × DensityLayer (Value α))}
    {shape : List Nat} {strata : List (α × Stratum (Tensor α))}
    (h : strataDown altitude layers shape = .ok strata) :
    ∀ q ∈ layers, ∃ upper s own, q.1.number = .ok upper ∧ stratum q.2 altitude = .ok (s, own) ∧
      (upper, s) ∈ strata := by
  induction layers generalizing shape strata with
  | nil => exact fun q hq => nomatch hq
  | cons q layers ih =>
    obtain ⟨upper, hupper, h⟩ := bind_eq_ok_iff.mp h
    obtain ⟨⟨s, own⟩, hs, h⟩ := bind_eq_ok_iff.mp h
    obtain ⟨joined, -, h⟩ := bind_eq_ok_iff.mp h
    obtain ⟨below, hbelow, h⟩ := bind_eq_ok_iff.mp h
    cases h
    refine List.forall_mem_cons.mpr ⟨⟨upper, s, own, hupper, hs, by simp⟩, fun q' hq' => ?_⟩
    obtain ⟨upper', s', own', hupper', hs', hmem⟩ := ih hbelow q' hq'
    exact ⟨upper', s', own', hupper', hs', List.mem_append_left _ hmem⟩

/-- A layer whose arrays have no axes has numbers as coefficients. -/
theorem numberCoefficients_of_stratum {layer : DensityLayer (Value α)} {altitude own : List Nat}
    {s : Stratum (Tensor α)} (h : stratum layer altitude = .ok (s, own))
    (hshapes : ∀ shape ∈ s.layer.shapes, shape = []) : layer.NumberCoefficients := by
  obtain ⟨⟨arrays, shape⟩, harrays, h⟩ := bind_eq_ok_iff.mp h
  cases h
  exact DensityLayer.numberCoefficients_of_arrays harrays hshapes

/-- Layers with numbers as coefficients form a stack. -/
theorem stack?_isSome {layers : Profile (Value α)} {ends : List (Quantity α)}
    (hlayers : ∀ layer ∈ layers, layer.NumberCoefficients)
    (hends : upperEnds (layers.dropLast.map DensityLayer.width) = .ok ends)
    (hnumbers : ∀ q ∈ ends, ∃ x, q.number = .ok x) : layers.stack?.isSome = true := by
  have hplain : (layers.mapM fun (layer : DensityLayer (Value α)) =>
      layer.plain?.map (Stratum.mk · false)).isSome = true :=
    listMapM_isSome fun layer hlayer => by
      rw [Option.isSome_map]
      exact DensityLayer.plain?_isSome (hlayers layer hlayer)
  obtain ⟨strata, hstrata⟩ := Option.isSome_iff_exists.mp hplain
  obtain ⟨xs, hxs⟩ := exists_listMapM_eq_ok hnumbers
  simp only [stack?, hstrata, hends, hxs, Except.toOption, Option.bind_eq_bind, Option.bind_some,
    Option.pure_def, Option.isSome_some]

theorem numberCoefficients_of_stack? {layers : Profile (Value α)}
    (h : layers.stack?.isSome = true) : ∀ layer ∈ layers, layer.NumberCoefficients := by
  obtain ⟨stack, hstack⟩ := Option.isSome_iff_exists.mp h
  obtain ⟨strata, hstrata, -⟩ := Option.bind_eq_some_iff.mp hstack
  intro layer hlayer
  obtain ⟨s, hs⟩ := exists_of_listMapM_eq_some hstrata layer hlayer
  obtain ⟨plain, hplain, -⟩ := Option.map_eq_some_iff.mp hs
  exact DensityLayer.numberCoefficients_of_plain? hplain

variable [Inhabited α]

omit [Scalar α] in
/-- The stacks at the positions of an array without axes have strata without axes. -/
theorem shapes_of_stacksOf {bounded : List (α × Stratum (Tensor α))} {top : Stratum (Tensor α)}
    {t : Tensor (LayerStack α)} (h : (stacksOf bounded top : Except (Failure α) _) = .ok t)
    (ht : t.shape = []) : (∀ shape ∈ top.layer.shapes, shape = []) ∧
      ∀ s ∈ bounded, ∀ shape ∈ s.2.layer.shapes, shape = [] := by
  obtain ⟨common, hcommon, h⟩ := bind_eq_ok_iff.mp h
  cases h
  obtain rfl : common = [] := ht
  have hall := Tensor.joinAll_eq_nil hcommon
  constructor
  · intro shape hshape
    exact hall shape (List.mem_flatMap.mpr ⟨top, by simp, hshape⟩)
  · intro s hs shape hshape
    have hmem : s.2 ∈ bounded.map Prod.snd ++ [top] :=
      List.mem_append_left _ (List.mem_map_of_mem hs)
    exact hall shape (List.mem_flatMap.mpr ⟨s.2, hmem, hshape⟩)

omit [Inhabited α] in
/-- The upper ends of layers that have strata are numbers. -/
theorem exists_number_of_strataDown {altitude shape : List Nat} {ends : List (Quantity α)}
    {layers : Profile (Value α)} {strata : List (α × Stratum (Tensor α))}
    (hlength : ends.length = layers.length)
    (h : strataDown altitude (ends.zip layers).reverse shape = .ok strata) :
    ∀ q ∈ ends, ∃ x, q.number = .ok x := by
  intro q hq
  rw [← List.map_fst_zip hlength.le] at hq
  obtain ⟨pair, hpair, rfl⟩ := List.mem_map.mp hq
  obtain ⟨upper, -, -, hupper, -⟩ := mem_strataDown h pair (List.mem_reverse.mpr hpair)
  exact ⟨upper, hupper⟩

/-- Layers that give an array without axes have numbers as coefficients. -/
theorem stack?_isSome_of_stacksAt {layers : Profile (Value α)} {altitude : List Nat}
    {t : Tensor (LayerStack α)} (h : stacksAt layers altitude = .ok t) (ht : t.shape = []) :
    layers.stack?.isSome = true := by
  unfold stacksAt at h
  split at h
  · next hstack => rw [hstack, Option.isSome_some]
  · next hstack hlast =>
    rw [List.getLast?_eq_none_iff.mp hlast] at hstack
    cases hstack
  · next top hstack hlast =>
    obtain ⟨⟨topStratum, shape⟩, htop, h⟩ := bind_eq_ok_iff.mp h
    obtain ⟨ends, hends, h⟩ := bind_eq_ok_iff.mp h
    obtain ⟨strata, hstrata, h⟩ := bind_eq_ok_iff.mp h
    obtain ⟨htopShapes, hshapes⟩ := shapes_of_stacksOf h ht
    have hmem := mem_strataDown hstrata
    have hlength : ends.length = layers.dropLast.length := by
      rw [length_upperEnds hends, List.length_map]
    have hsplit : layers = layers.dropLast ++ [top] := by
      obtain ⟨lower, rfl⟩ := List.getLast?_eq_some_iff.mp hlast
      rw [List.dropLast_concat]
    refine stack?_isSome (fun layer hlayer => ?_) hends
      (exists_number_of_strataDown hlength hstrata)
    rw [hsplit, List.mem_append, List.mem_singleton] at hlayer
    rcases hlayer with hlower | rfl
    · rw [← List.map_snd_zip hlength.ge] at hlower
      obtain ⟨q, hq, rfl⟩ := List.mem_map.mp hlower
      obtain ⟨upper, s, own, -, hs, hin⟩ := hmem q (List.mem_reverse.mpr hq)
      exact numberCoefficients_of_stratum hs (hshapes _ hin)
    · exact numberCoefficients_of_stratum htop htopShapes

/-- Layers with numbers as coefficients are the same at all altitudes. -/
theorem shape_of_stacksAt {layers : Profile (Value α)} {altitude : List Nat}
    {t : Tensor (LayerStack α)} (h : stacksAt layers altitude = .ok t)
    (hlayers : ∀ layer ∈ layers, layer.NumberCoefficients) : t.shape = [] := by
  unfold stacksAt at h
  split at h
  · cases h
    rfl
  · cases h
    rfl
  · next top hstack hlast =>
    obtain ⟨⟨topStratum, shape⟩, -, h⟩ := bind_eq_ok_iff.mp h
    obtain ⟨ends, hends, h⟩ := bind_eq_ok_iff.mp h
    obtain ⟨strata, hstrata, -⟩ := bind_eq_ok_iff.mp h
    have hlength : ends.length = layers.dropLast.length := by
      rw [length_upperEnds hends, List.length_map]
    have hsome := stack?_isSome hlayers hends (exists_number_of_strataDown hlength hstrata)
    rw [hstack] at hsome
    cases hsome

end Profile

/-! ## Batches of one ray -/

namespace RayBatch

variable [Inhabited α] {p : Parameters α} {x : Transmittance α}

theorem stack?_isSome_of_weighed {transmittance t : Tensor (Spectrum α)}
    {layers : Profile (Value α)} {altitudes : Tensor α}
    (h : weighed transmittance layers altitudes = .ok t) (ht : t.shape = []) :
    layers.stack?.isSome = true := by
  obtain ⟨columns, hcolumns, h⟩ := bind_eq_ok_iff.mp h
  obtain ⟨densities, hdensities, h⟩ := bind_eq_ok_iff.mp h
  have hshape := (Tensor.map₂_shape_eq_nil h ht).2
  exact Profile.stack?_isSome_of_stacksAt hcolumns (Tensor.map₂_shape_eq_nil hdensities hshape).1

/-- The layers of the molecules and those of the aerosols form stacks. -/
def HasStacks (p : Parameters α) : Prop :=
  p.rayleighDensity.stack?.isSome = true ∧ p.mieDensity.stack?.isSome = true

theorem hasStacks_of_integrands {b : RayBatch α} {d : Tensor α} {found : ScatteredArrays α}
    (h : b.integrands p x d = .ok found) (hrayleigh : found.rayleigh.shape = [])
    (hmie : found.mie.shape = []) : HasStacks p := by
  unfold integrands at h
  simp only [bind_eq_ok_iff] at h
  obtain ⟨_, -, _, -, _, -, _, -, _, -, _, -, _, -, _, hr, _, hm, h⟩ := h
  cases h
  exact ⟨stack?_isSome_of_weighed hr hrayleigh, stack?_isSome_of_weighed hm hmie⟩

/-- Every sum of at least one sample has been computed with the layers. -/
theorem hasStacks_of_sumSamples {b : RayBatch α} {dx : Tensor α} {n i remaining : Nat}
    {sum found : ScatteredArrays α} (h : b.sumSamples p x dx n i (remaining + 1) sum = .ok found)
    (hrayleigh : found.rayleigh.shape = []) (hmie : found.mie.shape = []) : HasStacks p := by
  induction remaining generalizing i sum with
  | zero =>
    obtain ⟨term, hterm, h⟩ := bind_eq_ok_iff.mp h
    obtain ⟨rayleigh, hr, h⟩ := bind_eq_ok_iff.mp h
    obtain ⟨mie, hm, h⟩ := bind_eq_ok_iff.mp h
    cases h
    exact hasStacks_of_integrands hterm (Tensor.map₂_shape_eq_nil hr hrayleigh).2
      (Tensor.map₂_shape_eq_nil hm hmie).2
  | succ remaining ih =>
    obtain ⟨term, -, h⟩ := bind_eq_ok_iff.mp h
    obtain ⟨rayleigh, -, h⟩ := bind_eq_ok_iff.mp h
    obtain ⟨mie, -, h⟩ := bind_eq_ok_iff.mp h
    exact ih h

theorem hasStacks_of_integrate {b : RayBatch α} {n : Nat} {dx : Tensor α}
    {found : ScatteredArrays α} (h : b.integrate p x n dx = .ok found)
    (hrayleigh : found.rayleigh.shape = []) (hmie : found.mie.shape = []) : HasStacks p := by
  obtain ⟨sums, hsums, h⟩ := bind_eq_ok_iff.mp h
  obtain ⟨rayleigh, hr, h⟩ := bind_eq_ok_iff.mp h
  obtain ⟨mie, hm, h⟩ := bind_eq_ok_iff.mp h
  cases h
  exact hasStacks_of_sumSamples hsums (Tensor.map₂_shape_eq_nil hr hrayleigh).1
    (Tensor.map₂_shape_eq_nil hm hmie).1

theorem hasStacks_of_scattered {b : RayBatch α} {count : Value α} {found : ScatteredArrays α}
    (h : b.scattered p x count = .ok found) (hrayleigh : found.rayleigh.shape = [])
    (hmie : found.mie.shape = []) : HasStacks p := by
  obtain ⟨below, -, h⟩ := bind_eq_ok_iff.mp h
  dsimp only at h
  split_ifs at h
  · cases h
  · obtain ⟨_, -, h⟩ := bind_eq_ok_iff.mp h
    obtain ⟨lengths, -, h⟩ := bind_eq_ok_iff.mp h
    obtain ⟨n, -, h⟩ := bind_eq_ok_iff.mp h
    obtain ⟨k, -, h⟩ := bind_eq_ok_iff.mp h
    exact hasStacks_of_integrate h hrayleigh hmie

end RayBatch

namespace Parameters

variable [Inhabited α] {p : Parameters α} {x : Transmittance α}

omit [Inhabited α] in
theorem stacks_of_medium? (h : p.medium?.isSome = true) :
    p.rayleighDensity.stack?.isSome = true ∧ p.mieDensity.stack?.isSome = true := by
  obtain ⟨m, hm⟩ := Option.isSome_iff_exists.mp h
  obtain ⟨rayleigh, hrayleigh, hm⟩ := Option.bind_eq_some_iff.mp hm
  obtain ⟨mie, hmie, -⟩ := Option.bind_eq_some_iff.mp hm
  exact ⟨Option.isSome_iff_exists.mpr ⟨rayleigh, hrayleigh⟩,
    Option.isSome_iff_exists.mpr ⟨mie, hmie⟩⟩

/-- Light that is scattered into a single ray as one spectrum for each constituent comes from layers
with numbers as coefficients. -/
theorem medium?_isSome_of_scatterInto {count : Value α} {ray : Ray α × Bool} {light : Scattered α}
    (h : p.scatterInto x count (.single ray) =
      .ok ⟨.single light.rayleigh, .single light.mie⟩) : p.medium?.isSome = true := by
  cases hmedium : p.medium? with
  | some m => rfl
  | none =>
    unfold scatterInto at h
    rw [hmedium] at h
    obtain ⟨hrayleigh, hmie⟩ := RayBatch.hasStacks_of_scattered h rfl rfl
    obtain ⟨rayleigh, hrayleigh⟩ := Option.isSome_iff_exists.mp hrayleigh
    obtain ⟨mie, hmie⟩ := Option.isSome_iff_exists.mp hmie
    simp [medium?, hrayleigh, hmie] at hmedium

/-- Layers that form a stack are the same at all altitudes. -/
theorem absorbing_eq_ok {layers : Profile (Value α)} {stack : LayerStack α} {altitude : List Nat}
    (h : layers.stack? = some stack) (haxes : altitude.length < Value.maxAxes) :
    layers.absorbing altitude = .ok (.single stack, altitude) := by
  have hstacks : layers.stacksAt altitude = .ok (.single stack) := by
    simp only [Profile.stacksAt, h, pure_eq_ok]
  simp only [Profile.absorbing, hstacks, Tensor.shape_single, Tensor.joinShapes_nil,
    Tensor.checkNewAxis, if_pos haxes, ok_bind, pure_eq_ok]

/-- The layers of all profiles form stacks, those of the given air. -/
structure HasAir (p : Parameters α) (air : Constituents α) : Prop where
  rayleigh : p.rayleighDensity.stack? = some air.rayleigh
  mie : p.mieDensity.stack? = some air.mie
  absorption : p.absorptionDensity.stack? = some air.absorption

namespace HasAir

variable {air : Constituents α}

omit [Inhabited α] in
theorem medium?_eq_some (h : p.HasAir air) :
    p.medium? = some (p.medium air.rayleigh air.mie) := by
  simp only [medium?, h.rayleigh, h.mie]
  rfl

omit [Inhabited α] in
theorem numberCoefficients (h : p.HasAir air) :
    ∀ layer ∈ p.rayleighDensity ++ p.mieDensity ++ p.absorptionDensity,
      layer.NumberCoefficients := by
  have hmem : ∀ {layers : Profile (Value α)} {stack : LayerStack α},
      layers.stack? = some stack → ∀ layer ∈ layers, layer.NumberCoefficients := fun hstack =>
    Profile.numberCoefficients_of_stack? (Option.isSome_of_eq_some hstack)
  simp only [List.forall_mem_append]
  exact ⟨⟨hmem h.rayleigh, hmem h.mie⟩, hmem h.absorption⟩

/-- The air is the same at all altitudes. -/
theorem constituents_eq_ok (h : p.HasAir air) (altitude : List Nat)
    (haxes : altitude.length < Value.maxAxes) : p.constituents altitude = .ok (.single air) := by
  simp only [constituents, absorbing_eq_ok h.rayleigh haxes, absorbing_eq_ok h.mie haxes,
    absorbing_eq_ok h.absorption haxes, Profile.any_keepsElements_eq_false h.numberCoefficients,
    ok_bind, Tensor.joinShapes_self, Bool.false_and, Bool.false_eq_true, if_false,
    Tensor.map₃_single]

end HasAir

end Parameters

end Airlight
