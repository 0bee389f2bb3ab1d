import Airlight.Proofs.NumberLayers
import Airlight.Scattering.Pass

/-!
# Evaluations of voxels, one by one and in rows

The kernel evaluates a row of voxels as it evaluates each voxel on its own: a row succeeds when each
of its voxels does, and then holds what they give. The luminance of a spectrum is the same whether
it is projected as an array or by the projection of a pass.
-/

namespace Airlight

open Colour Grid Texture

variable {α : Type} [Scalar α]

namespace Ray

theorem checkRanges_eq_ok_iff {s : Shell α} {r mu muS nu : Array α} :
    checkRanges s r mu muS nu = .ok () ↔
      allWithin s.bottom s.top r = true ∧ allWithin (-1.0) 1.0 mu = true ∧
        allWithin (-1.0) 1.0 muS = true ∧ allWithin (-1.0) 1.0 nu = true := by
  unfold checkRanges
  split_ifs <;> simp_all

/-- Rays pass the check when each of them does. -/
theorem checkAll_of_forall {s : Shell α} {rays : Array (Ray α)}
    (h : ∀ ray ∈ rays, checkAll s #[ray] = .ok ()) : checkAll s rays = .ok () := by
  have hwithin : ∀ (lo hi : α) (f : Ray α → α),
      (∀ ray ∈ rays, allWithin lo hi (#[ray].map f) = true) →
        allWithin lo hi (rays.map f) = true := by
    intro lo hi f hall
    simp only [allWithin, Array.all_map, Array.all_eq_true_iff_forall_mem, Function.comp] at hall ⊢
    exact fun ray hray => hall ray hray ray (Array.mem_singleton.mpr rfl)
  have hranges := fun ray hray => checkRanges_eq_ok_iff.mp (h ray hray)
  exact checkRanges_eq_ok_iff.mpr ⟨hwithin _ _ _ fun ray hray => (hranges ray hray).1,
    hwithin _ _ _ fun ray hray => (hranges ray hray).2.1,
    hwithin _ _ _ fun ray hray => (hranges ray hray).2.2.1,
    hwithin _ _ _ fun ray hray => (hranges ray hray).2.2.2⟩

end Ray

theorem Value.isBelow_integer {n limit : Int} (h : limit ≤ n) :
    (Value.integer n : Value α).isBelow limit = .ok false := by
  simp [isBelow, quantity, Except.map, Quantity.isBelow, h]

/-- A number of intervals does not depend on the sizes of the lengths that it divides. -/
theorem Value.intervals_eq_ok {v : Value α} {shape : List Nat} {n : Int}
    (h : v.intervals shape = .ok n) (shape' : List Nat) : v.intervals shape' = .ok n := by
  unfold intervals at h ⊢
  split_ifs at h ⊢ with hlist
  · obtain ⟨t, -, h⟩ := bind_eq_ok_iff.mp h
    dsimp only at h
    split_ifs at h
    · cases h
    · obtain ⟨common, -, h⟩ := bind_eq_ok_iff.mp h
      split_ifs at h
      · obtain ⟨_, -, h⟩ := bind_eq_ok_iff.mp h
        cases h
      · cases h
  · exact h

namespace Parameters

variable [Inhabited α] {p : Parameters α} {x : Transmittance α} {count : Value α}

/-- The light that is scattered into a single ray, as one spectrum for each constituent. -/
def LitBy (p : Parameters α) (x : Transmittance α) (count : Value α) (ray : Ray α × Bool)
    (light : Scattered α) : Prop :=
  p.scatterInto x count (.single ray) = .ok ⟨.single light.rayleigh, .single light.mie⟩

/-- What has succeeded when a single ray could be evaluated. -/
theorem litBy_iff {m : ScatteringMedium α} (hm : p.medium? = some m) {ray : Ray α × Bool}
    {light : Scattered α} : p.LitBy x count ray light ↔
      count.isBelow 1 = .ok false ∧ Ray.checkAll p.shell #[ray.1] = .ok () ∧
        ∃ n, count.intervals [] = .ok n ∧
          m.integrate x.oracle n.toNat ray.1 ray.2 = .ok light := by
  unfold LitBy scatterInto
  rw [hm, Option.filter_some_pos (by simp [Tensor.maxLookupAxes])]
  constructor
  · intro h
    obtain ⟨below, hbelow, h⟩ := bind_eq_ok_iff.mp h
    cases below with
    | true => cases h
    | false =>
      obtain ⟨_, hcheck, h⟩ := bind_eq_ok_iff.mp h
      obtain ⟨n, hn, h⟩ := bind_eq_ok_iff.mp h
      obtain ⟨found, hfound, h⟩ := bind_eq_ok_iff.mp h
      obtain ⟨light', hlight, rfl⟩ := Tensor.mapM_single_eq_ok_iff.mp hfound
      obtain ⟨rayleigh, mie⟩ := light
      simp only [Tensor.map_single, pure_eq_ok, Except.ok.injEq, ScatteredArrays.mk.injEq,
        Tensor.single_inj] at h
      obtain ⟨rfl, rfl⟩ := h
      exact ⟨hbelow, by simpa using hcheck, n, hn, hlight⟩
  · rintro ⟨hbelow, hcheck, n, hn, hlight⟩
    have hfound : (Tensor.single ray).mapM (fun ray => m.integrate x.oracle n.toNat ray.1 ray.2) =
        .ok (.single light) := Tensor.mapM_single_eq_ok_iff.mpr ⟨light, hlight, rfl⟩
    have hrays : Ray.checkAll p.shell (#[ray].map Prod.fst) = .ok () := by simpa using hcheck
    simp only [hbelow, ok_bind, Bool.false_eq_true, if_false, Tensor.shape_single,
      Tensor.data_single, hrays, hn, hfound, pure_eq_ok, Tensor.map_single]

/-- The light that is scattered into the rays of a row is that of each ray. -/
theorem scatterInto_row {ι : Type} {xs : List ι} {ray : ι → Ray α × Bool} {light : ι → Scattered α}
    (hne : xs ≠ []) (h : ∀ i ∈ xs, p.LitBy x count (ray i) (light i)) :
    p.scatterInto x count (.row (xs.map ray)) =
      .ok ⟨.row (xs.map fun i => (light i).rayleigh), .row (xs.map fun i => (light i).mie)⟩ := by
  obtain ⟨first, hfirst⟩ := List.exists_mem_of_ne_nil xs hne
  obtain ⟨m, hm⟩ := Option.isSome_iff_exists.mp (medium?_isSome_of_scatterInto (h first hfirst))
  have hrays := fun i hi => (litBy_iff hm).mp (h i hi)
  obtain ⟨hbelow, -, n, hn, -⟩ := hrays first hfirst
  have hcheck : Ray.checkAll p.shell ((Tensor.row (xs.map ray)).data.map Prod.fst) = .ok () := by
    refine Ray.checkAll_of_forall fun r hr => ?_
    obtain ⟨pair, hpair, rfl⟩ := Array.mem_map.mp hr
    obtain ⟨i, hi, rfl⟩ := List.mem_map.mp (List.mem_toArray.mp hpair)
    exact (hrays i hi).2.1
  have hfound : (Tensor.row (xs.map ray)).mapM
      (fun ray => m.integrate x.oracle n.toNat ray.1 ray.2) = .ok (.row (xs.map light)) := by
    refine Tensor.mapM_row fun i hi => ?_
    obtain ⟨-, -, n', hn', hlight⟩ := hrays i hi
    cases hn.symm.trans hn'
    exact hlight
  have hn' := Value.intervals_eq_ok hn (Tensor.row (xs.map ray)).shape
  unfold scatterInto
  rw [hm, Option.filter_some_pos (by simp [Tensor.maxLookupAxes, Tensor.row])]
  simp only [hbelow, ok_bind, Bool.false_eq_true, if_false, hn', hcheck, hfound, pure_eq_ok,
    Tensor.map_row, List.map_map]
  rfl

/-- The light that is scattered into a ray of a row is the light that is scattered into the ray when
it is evaluated on its own. -/
theorem light_of_scatterInto_row {ι : Type} {xs : List ι} {ray : ι → Ray α × Bool}
    {light : ι → Scattered α}
    (h : p.scatterInto x count (.row (xs.map ray)) =
      .ok ⟨.row (xs.map fun i => (light i).rayleigh), .row (xs.map fun i => (light i).mie)⟩)
    {i : ι} (hi : i ∈ xs) {own : Scattered α} (hown : p.LitBy x count (ray i) own) :
    light i = own := by
  obtain ⟨m, hm⟩ := Option.isSome_iff_exists.mp (medium?_isSome_of_scatterInto hown)
  obtain ⟨hbelow, -, n, hn, hintegrate⟩ := (litBy_iff hm).mp hown
  have hn' := Value.intervals_eq_ok hn (Tensor.row (xs.map ray)).shape
  unfold scatterInto at h
  rw [hm, Option.filter_some_pos (by simp [Tensor.maxLookupAxes, Tensor.row])] at h
  simp only [hbelow, ok_bind, Bool.false_eq_true, if_false, hn'] at h
  obtain ⟨_, -, h⟩ := bind_eq_ok_iff.mp h
  obtain ⟨found, hfound, h⟩ := bind_eq_ok_iff.mp h
  obtain ⟨hrayleigh, hmie⟩ := ScatteredArrays.mk.inj (Except.ok.inj h)
  -- both constituents of the results are known, so that the results are
  have hall : found.data.toList = xs.map light := by
    have hrayleigh : found.data.toList.map Scattered.rayleigh =
        (xs.map light).map (·.rayleigh) := by
      simpa [Function.comp_def] using congrArg (fun t => t.data.toList) hrayleigh
    have hmie : found.data.toList.map Scattered.mie = (xs.map light).map (·.mie) := by
      simpa [Function.comp_def] using congrArg (fun t => t.data.toList) hmie
    refine List.ext_getElem (by simpa using congrArg List.length hrayleigh) fun k hk hk' => ?_
    have hfirst := List.getElem_of_eq hrayleigh (by simpa using hk)
    have hsecond := List.getElem_of_eq hmie (by simpa using hk)
    simp only [List.getElem_map] at hfirst hsecond ⊢
    cases hpair : found.data.toList[k]
    rw [hpair] at hfirst hsecond
    cases hfirst
    cases hsecond
    rfl
  have hresults := (Tensor.mapM_eq_ok_iff.mp hfound).1
  rw [hall, Tensor.data_row, List.toList_toArray, List.mapM_map] at hresults
  exact Except.ok.inj ((eq_ok_of_listMapM hresults i hi).symm.trans hintegrate)

end Parameters

end Airlight
