import Airlight.Proofs.KernelEvaluation
import Airlight.Proofs.RegularLayers

/-!
# Air in layers

Layers with numbers as coefficients and no negative width form stacks, whatever their widths add up
to. What is computed of such air for single rays and for the texels of a table is then the same
function of the point and the direction.
-/

namespace Airlight

open Scalar Texture

namespace Profile

/-- Layers with numbers as coefficients and no negative width form a stack. -/
theorem exists_stack? {layers : Profile (Value ℝ)} (h : ∀ layer ∈ layers, layer.Regular) :
    ∃ stack, layers.stack? = some stack := by
  obtain ⟨ends, hends⟩ := exists_upperEnds (negativeWidth?_of_mem_dropLast h)
  exact ⟨_, stack?_of_upperEnds h hends⟩

end Profile

namespace Parameters

theorem Layered.exists_hasAir {p : Parameters ℝ} (h : p.Layered) : ∃ air, p.HasAir air := by
  obtain ⟨rayleigh, hrayleigh⟩ := Profile.exists_stack? (h .rayleighDensity)
  obtain ⟨mie, hmie⟩ := Profile.exists_stack? (h .mieDensity)
  obtain ⟨absorption, habsorption⟩ := Profile.exists_stack? (h .absorptionDensity)
  exact ⟨⟨rayleigh, mie, absorption⟩, hrayleigh, hmie, habsorption⟩

namespace HasAir

variable {p : Parameters ℝ} {air : Constituents ℝ} {n : ℤ} {height width : ℕ}

/-- The transmittance of a single ray. -/
theorem transmittances_single (h : p.HasAir air) (hn : 1 ≤ n) (r mu : ℝ) :
    p.transmittances (.integer n) (.single r) (.single mu) =
      .ok (.single (p.transmittanceToTop air n r mu)) := by
  have hintervals : (Value.integer n : Value ℝ).intervals [] = .ok n := rfl
  have hcount : ¬ n < 0 := by omega
  simp only [transmittances, Tensor.map₂_single, ok_bind, Tensor.shape_single, hintervals,
    if_neg hcount, h.constituents_eq_ok [] (by decide)]

/-- The texels of a table that there is room for. -/
theorem transmittanceTexels_eq_ok (h : p.HasAir air) (hheight : 2 ≤ height) (hwidth : 2 ≤ width)
    (hn : 1 ≤ n)
    (hroom : Tensor.checkRoom [height, width] 8 = (.ok () : Except (Failure ℝ) Unit)) :
    p.transmittanceTexels (.integer width) (.integer height) (.integer n) =
      .ok (Tensor.ofFn [height, width] fun k =>
        p.texelTransmittance air width height n (k / width) (k % width)).components := by
  obtain ⟨hrows, hcolumns⟩ := Tensor.checkRoom_of_table (by omega) (by omega) hroom
  have hsizes : checkTableSizes (.integer width) (.integer height) (.integer n) =
      (.ok () : Except (Failure ℝ) Unit) := by
    have hsmall : (Value.integer height : Value ℝ).isBelow 2 = .ok false :=
      Value.isBelow_integer (by omega)
    have hnarrow : (Value.integer width : Value ℝ).isBelow 2 = .ok false :=
      Value.isBelow_integer (by omega)
    have hfew : (Value.integer n : Value ℝ).isBelow 1 = .ok false := Value.isBelow_integer hn
    simp only [checkTableSizes, Value.anyBelow, hsmall, hnarrow, hfew, ok_bind, Bool.false_eq_true,
      if_false, pure_eq_ok]
  have hquantity : ∀ m : ℕ, (Value.integer m : Value ℝ).quantity = .ok (.whole m) := fun _ => rfl
  have hpositions : ∀ m : ℕ, (Quantity.whole m : Quantity ℝ).positions = .ok m := fun _ => rfl
  have hnumber : ∀ m : ℕ, (Value.integer m : Value ℝ).operandOrFail = .ok (m : ℝ) := fun m =>
    (Value.operandOrFail_eq_ok ⟨_, rfl⟩).trans (by simp [Value.amount])
  have hintervals : (Value.integer n : Value ℝ).intervals [height, width] = .ok n := rfl
  simp only [transmittanceTexels, hsizes, hquantity, hpositions, hrows, hcolumns, hroom, hnumber,
    hintervals, h.constituents_eq_ok [height, width] (by simp [Value.maxAxes]),
    Tensor.map₂_single_ofFn, ok_bind, pure_eq_ok]

/-- A transmittance table that there is room for. -/
theorem transmittanceTable_eq_ok (h : p.HasAir air) (hheight : 2 ≤ height) (hwidth : 2 ≤ width)
    (hn : 1 ≤ n)
    (hroom : Tensor.checkRoom [height, width] 8 = (.ok () : Except (Failure ℝ) Unit))
    (store : ℝ → ℝ) :
    p.transmittanceTable store (.integer width) (.integer height) (.integer n) =
      .ok (Table.ofFn height width store (p.texelTransmittance air width height n)) := by
  simp only [transmittanceTable, h.transmittanceTexels_eq_ok hheight hwidth hn hroom, ok_bind,
    AnyTable.ofTensor, Tensor.components, Tensor.ofVectors, Tensor.shape_ofFn, List.cons_append,
    List.nil_append, AnyTable.spectral, Except.ok.injEq]
  refine congrArg (Table.mk height width) (congrArg Vector.ofFn (funext fun k => ?_))
  refine congrArg (Vector.map store) (Vector.ext fun c hc => ?_)
  have hk : (k : ℕ) < volume [height, width] := by simp [volume]
  let texels := Tensor.ofFn [height, width] fun k =>
    p.texelTransmittance air width height n (k / width) (k % width)
  have htexel : (Tensor.ofVectors [height, width] texels.data).data[(k : ℕ) * 4 + c]? =
      some (p.texelTransmittance air width height n (k / width) (k % width))[c] :=
    Tensor.getElem?_data_ofVectors hk hc (by simp [texels, Tensor.ofFn, hk])
  rw [Vector.getElem_ofFn, Nat.div_add_mod', Array.getD_eq_getD_getElem?]
  exact congrArg (Option.getD · default) htexel

end HasAir

end Parameters

end Airlight
