import Mathlib.Tactic.IntervalCases
import Airlight.Colour.Luminance
import Airlight.Proofs.Tensors

/-!
# The luminance of a single spectrum

The luminance of a radiance is computed in two ways: as the product of arrays with any matrix that
fits, and by the projection that a pass reads from its matrix. For a single spectrum and a matrix
of four rows and columns both give the same numbers.
-/

namespace Airlight

namespace Tensor

variable {α φ : Type}

/-- Transposing exchanges the indices of a matrix. -/
theorem getD_transposed [Inhabited α] {t : Tensor α} {n m i l : Nat} (h : t.shape = [n, m])
    (hi : i < n) (hl : l < m) :
    t.transposed.data.getD (i + l * n) default = t.data.getD (m * i + l) default := by
  have hlt : i + l * n < volume [m, n] := by
    have : l * n + n ≤ m * n := by rw [← Nat.succ_mul]; exact Nat.mul_le_mul_right n hl
    simp only [volume, List.foldr_cons, List.foldr_nil, Nat.mul_one]
    omega
  have hmirrored : mirrored [m, n] (i + l * n) = m * i + l := by
    have hdiv : (i + l * n) / n = l := by
      rw [Nat.add_mul_div_right _ _ (by omega), Nat.div_eq_of_lt hi, Nat.zero_add]
    simp [mirrored, hdiv, Nat.mod_eq_of_lt hi, Nat.mod_eq_of_lt hl, Nat.mul_comm i]
  rw [transposed, h, List.reverse_cons, List.reverse_singleton, List.singleton_append,
    getD_ofFn _ hlt, hmirrored]

variable [Scalar α] [Inhabited α]

/-- The product of a row of numbers with a matrix. -/
theorem product_vector {n w : Nat} {a b : Tensor α} (ha : a.shape = [n]) (hb : b.shape = [n, w]) :
    (product a b : Except (Failure φ) (Tensor α)) = .ok (ofFn [w] fun k =>
      sumOfProducts (fun l => a.data.getD l default)
        (fun l => b.data.getD (k % w + l * w) default) n) := by
  have houter : (joinShapes [] [] : Except (Failure φ) (List Nat)) = .ok [] := rfl
  unfold product
  rw [ha, hb]
  simp [matrixAxes?, houter, sourceReversed, Nat.mod_one]

omit [Scalar α] in
theorem takeLast_three (f : Nat → α) :
    ((ofFn [4] f).takeLast 3 : Except (Failure φ) (Tensor α)) = .ok (row [f 0, f 1, f 2]) := by
  refine congrArg Except.ok (ext_data rfl (Array.ext (by rfl) fun k hk _ => ?_))
  have hk : k < 3 := by simpa [ofFn, volume] using hk
  interval_cases k <;> simp [ofFn, row, volume]

end Tensor

namespace Colour

variable {α φ : Type} [Scalar α] [Inhabited α]

omit [Scalar α] [Inhabited α] in
theorem Projection.exists_ofMatrix {matrix : Tensor α} (h : matrix.shape = [4, 4]) :
    ∃ projection, Projection.ofMatrix matrix = .ok projection := by
  have hsize : matrix.data.size = 16 := by simp [matrix.size_eq, h, volume]
  exact ⟨_, dif_pos ⟨hsize, h⟩⟩

/-- Projecting a single spectrum as an array gives its luminance. -/
theorem project_components {matrix : Tensor α} {m : Projection α}
    (h : Projection.ofMatrix matrix = .ok m) (a : Spectrum α) :
    (project matrix (Tensor.single a).components : Except (Failure α) (Tensor α)) =
      .ok (Tensor.row (m.apply a).toList) := by
  unfold Projection.ofMatrix at h
  split_ifs at h with hsizes
  obtain ⟨hsize, hshape⟩ := hsizes
  cases h
  have hradiance : ∀ l (hl : l < 4),
      (Tensor.single a).components.data.getD l default = a[l] := by
    intro l hl
    unfold Tensor.components Tensor.ofVectors
    rw [Tensor.getD_ofFn _ (by simpa [volume] using hl)]
    simp [Nat.div_eq_of_lt hl, Nat.mod_eq_of_lt hl, hl]
  have hweight : ∀ i l (hi : i < 4) (hl : l < 4),
      matrix.transposed.data.getD (i + l * 4) default = matrix.data[4 * i + l] := by
    intro i l hi hl
    rw [Tensor.getD_transposed hshape hi hl, Array.getD_eq_getD_getElem?,
      Array.getElem?_eq_getElem (by omega), Option.getD_some]
  have hcomponent : ∀ i (hi : i < 4),
      Tensor.sumOfProducts (fun l => (Tensor.single a).components.data.getD l default)
          (fun l => matrix.transposed.data.getD (i % 4 + l * 4) default) 4 =
        a[0] * matrix.data[4 * i + 0] + a[1] * matrix.data[4 * i + 1] +
          a[2] * matrix.data[4 * i + 2] + a[3] * matrix.data[4 * i + 3] := by
    intro i hi
    rw [Nat.mod_eq_of_lt hi, ← hweight i 0, ← hweight i 1, ← hweight i 2, ← hweight i 3,
      ← hradiance 0, ← hradiance 1, ← hradiance 2, ← hradiance 3] <;> first | rfl | omega
  have hshape' : matrix.transposed.shape = [4, 4] := by simp [Tensor.transposed, hshape]
  rw [project, Tensor.product_vector rfl hshape', ok_bind, Tensor.takeLast_three,
    hcomponent 0 (by omega), hcomponent 1 (by omega), hcomponent 2 (by omega)]
  simp [Projection.apply, Projection.weigh]

omit [Scalar α] in
/-- The axes of spectra are those of a matrix with a spectrum in each row. -/
theorem matrixAxes?_components (t : Tensor (Spectrum α)) :
    ∃ outer rows, Tensor.matrixAxes? t.components.shape = some (outer, rows, 4) := by
  have hshape : t.components.shape = t.shape ++ [4] := rfl
  rcases hreverse : t.shape.reverse with _ | ⟨rows, outer⟩
  · rw [hshape, List.reverse_eq_nil_iff.mp hreverse]
    exact ⟨_, _, rfl⟩
  · have haxes : t.shape ++ [4] = (4 :: rows :: outer).reverse := by
      rw [List.reverse_cons, ← hreverse, List.reverse_reverse]
    have hne : t.shape ++ [4] ≠ [] := by simp
    refine ⟨outer.reverse, some rows, ?_⟩
    rw [hshape]
    unfold Tensor.matrixAxes?
    split
    · next h => exact absurd h hne
    · rw [haxes, List.reverse_reverse]

/-- A matrix with four columns projects any array of spectra. -/
theorem exists_project {matrix : Tensor α} {n : Nat} (h : matrix.shape = [n, 4])
    (t : Tensor (Spectrum α)) :
    ∃ luminance, (project matrix t.components : Except (Failure α) (Tensor α)) = .ok luminance := by
  obtain ⟨outer, rows, haxes⟩ := matrixAxes?_components t
  have hshape : matrix.transposed.shape = [4, n] := by simp [Tensor.transposed, h]
  have haxes' : Tensor.matrixAxes? matrix.transposed.shape = some ([], some 4, n) := by
    rw [hshape]
    rfl
  have hjoin : (Tensor.joinShapes outer [] : Except (Failure α) _) = .ok outer :=
    Tensor.joinAll_sizes (by simp) (by simp)
  simp only [project, Tensor.product, haxes, haxes', hjoin, ok_bind, ne_eq,
    not_true_eq_false, if_false, pure_eq_ok]
  unfold Tensor.takeLast
  split
  · next hnil => simp at hnil
  · exact ⟨_, rfl⟩

end Colour

end Airlight
