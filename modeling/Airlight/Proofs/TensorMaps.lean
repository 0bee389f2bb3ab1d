import Airlight.Proofs.Tensors

/-!
# Arrays whose values are replaced

Replacing each value of an array does not change its sizes, so it does not matter for which arrays
are combined and with what outcome. It can be done before arrays are combined, or the combinations
can be replaced.
-/

namespace Airlight.Tensor

variable {α β γ δ α' β' ε φ : Type}

theorem map_map (f : α → β) (g : β → γ) (t : Tensor α) :
    (t.map f).map g = t.map fun x => g (f x) :=
  ext_data rfl (by simp [Function.comp_def])

/-- A function that keeps the value beyond the array is applied before or after repeating. -/
theorem repeated_map [Inhabited α] [Inhabited β] {f : α → β} (hf : f default = default)
    (t : Tensor α) (common : List Nat) (k : Nat) :
    (t.map f).repeated common k = f (t.repeated common k) := by
  have hget : ∀ j, (t.data.map f).getD j default = f (t.data.getD j default) := by
    intro j
    rw [Array.getD_eq_getD_getElem?, Array.getD_eq_getD_getElem?, Array.getElem?_map, ← hf,
      Option.getD_map]
  unfold repeated
  simp only [shape_map, data_map, hget]
  split_ifs <;> rfl

/-! ## Combinations -/

section

variable [Inhabited α] [Inhabited β]

/-- What is done with the values of a combined array can be done with each combination. -/
theorem map_map₂ (k : γ → δ) (f : α → β → γ) (a : Tensor α) (b : Tensor β) :
    map k <$> (map₂ f a b : Except (Failure φ) (Tensor γ)) = map₂ (fun x y => k (f x y)) a b := by
  simp only [map₂, map_bind, map_pure, map_ofFn]

theorem map₂_map_left [Inhabited α'] {g : α → α'} (hg : g default = default) (f : α' → β → γ)
    (a : Tensor α) (b : Tensor β) :
    (map₂ f (a.map g) b : Except (Failure φ) (Tensor γ)) = map₂ (fun x y => f (g x) y) a b := by
  simp only [map₂, shape_map, repeated_map hg]

theorem map₂_map_right [Inhabited β'] {g : β → β'} (hg : g default = default) (f : α → β' → γ)
    (a : Tensor α) (b : Tensor β) :
    (map₂ f a (b.map g) : Except (Failure φ) (Tensor γ)) = map₂ (fun x y => f x (g y)) a b := by
  simp only [map₂, shape_map, repeated_map hg]

end

/-! ## Functions that may fail -/

theorem mapM_map (f : α → β) (g : β → Except ε γ) (t : Tensor α) :
    (t.map f).mapM g = t.mapM fun x => g (f x) := by
  have hvector : (⟨t.data.map f, (t.map f).size_eq⟩ : Vector β (volume t.shape)) =
      (⟨t.data, t.size_eq⟩ : Vector α (volume t.shape)).map f := rfl
  simp only [mapM]
  change (⟨t.data.map f, (t.map f).size_eq⟩ : Vector β (volume t.shape)).mapM g >>= _ = _
  rw [hvector, Vector.mapM_map]
  rfl

/-- What is done with the results can be done with each of them. -/
theorem map_mapM (k : β → γ) (f : α → Except ε β) (t : Tensor α) :
    map k <$> t.mapM f = t.mapM fun x => k <$> f x := by
  have hlist : ∀ xs : List α, List.map k <$> xs.mapM f = xs.mapM fun x => k <$> f x := by
    intro xs
    induction xs with
    | nil => rfl
    | cons x xs ih =>
      simp only [List.mapM_cons, map_bind, bind_map_left, map_pure, List.map_cons, ← ih]
  have harray : ∀ xs : Array α, Array.map k <$> xs.mapM f = xs.mapM fun x => k <$> f x := by
    intro xs
    rw [Array.mapM_eq_mapM_toList, Array.mapM_eq_mapM_toList, ← hlist, Functor.map_map,
      Functor.map_map]
    exact congrArg (· <$> xs.toList.mapM f) (funext fun ys => List.map_toArray)
  have hvector : ∀ xs : Vector α (volume t.shape),
      Vector.map k <$> xs.mapM f = xs.mapM fun x => k <$> f x := by
    intro xs
    refine Vector.map_toArray_inj.mp ?_
    rw [Vector.toArray_mapM, ← harray, ← Vector.toArray_mapM, Functor.map_map, Functor.map_map]
    rfl
  simp only [mapM, map_bind, ← hvector, bind_map_left, map_pure]
  rfl

/-- What is done with the values of a combined array can be done with the outcome of each
combination. -/
theorem map_tryMap₂ [Inhabited α] [Inhabited β] (k : γ → δ) (f : α → β → Except (Failure φ) γ)
    (a : Tensor α) (b : Tensor β) :
    map k <$> tryMap₂ f a b = tryMap₂ (fun x y => k <$> f x y) a b := by
  simp only [tryMap₂, map_bind, map_mapM, ← map_map₂, bind_map_left, mapM_map, id]

end Airlight.Tensor
