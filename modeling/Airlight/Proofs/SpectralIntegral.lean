import Mathlib.Tactic.Linarith
import Airlight.Colour.Luminance
import Airlight.Proofs.Reals
import Airlight.Proofs.Tensors

/-!
# Spectra are integrated over wavelength

The display primaries of a spectrum are an integral over wavelength by the trapezoidal rule, between
neighbours in the order of the wavelengths. So the order in which samples are given does not matter
as long as no wavelength is given twice, and the integral is linear in the values.

## Main definitions

* `Colour.panels` — the trapezoidal rule between neighbouring samples.
* `Colour.display` — the display primaries of tristimulus values in lumens.
-/

namespace Airlight.Colour

open Scalar Tensor

/-! ## The trapezoidal rule -/

section Rule

variable {α : Type} [Scalar α]

/-- The response of one kind of receptor to a sample. -/
def Sample.response (s : Sample α) (i : Fin 3) : α := (matching s.wavelength).get i * s.value

/-- The sum over neighbouring samples of half the gap between them times both responses. -/
def panels (i : Fin 3) : List (Sample α) → α
  | a :: b :: rest =>
    (b.wavelength - a.wavelength) / 2.0 * (a.response i + b.response i) + panels i (b :: rest)
  | _ => 0.0

/-- The display primaries of tristimulus values, in lumens. -/
def display (xyz : Fin 3 → α) : Triple α :=
  Vector.ofFn fun i => maxLuminousEfficacy * (toDisplay (Vector.ofFn xyz)).get i

end Rule

@[simp] theorem panels_nil (i : Fin 3) : panels i ([] : List (Sample ℝ)) = 0 := by
  norm_num [panels]

@[simp] theorem panels_singleton (i : Fin 3) (a : Sample ℝ) : panels i [a] = 0 := by
  norm_num [panels]

theorem panels_cons_cons (i : Fin 3) (a b : Sample ℝ) (rest : List (Sample ℝ)) :
    panels i (a :: b :: rest) =
      (b.wavelength - a.wavelength) / 2 * (a.response i + b.response i) + panels i (b :: rest) := by
  norm_num [panels]

theorem get_ofFn (f : Fin 3 → ℝ) (i : Fin 3) : (Vector.ofFn f : Triple ℝ).get i = f i :=
  Vector.getElem_ofFn i.isLt

/-- Terms that are added one after another, each to all components of a sum. -/
theorem get_foldl_add {β : Type} (term : β → Fin 3 → ℝ) (xs : List β) (sum : Triple ℝ)
    (i : Fin 3) :
    (xs.foldl (fun sum x => Vector.ofFn fun i => sum.get i + term x i) sum).get i =
      sum.get i + (xs.map (term · i)).sum := by
  induction xs generalizing sum with
  | nil => simp
  | cons x xs ih =>
    rw [List.foldl_cons, ih, get_ofFn, List.map_cons, List.sum_cons, add_assoc]

/-- The weighted responses to samples that follow another one: the panels between them and the
second half of the panel in front of them. -/
theorem sum_trapezoidWeights (previous : Option ℝ) (first : Sample ℝ) (rest : List (Sample ℝ))
    (i : Fin 3) :
    (((first :: rest).zip (trapezoidWeights previous ((first :: rest).map Sample.wavelength))).map
      fun (s, w) => (matching s.wavelength).get i * (s.value * w)).sum =
      (match previous with
        | none => 0
        | some p => (first.wavelength - p) / 2 * first.response i) +
        panels i (first :: rest) := by
  induction rest generalizing previous first with
  | nil =>
    cases previous <;> norm_num [trapezoidWeights, Sample.response]
    ring
  | cons next rest ih =>
    have hrest := ih (some first.wavelength) next
    simp only [List.map_cons] at hrest
    simp only [List.map_cons, trapezoidWeights, List.zip_cons_cons, List.sum_cons, hrest,
      panels_cons_cons]
    cases previous <;> norm_num [Sample.response] <;> ring

/-- Samples are integrated by the trapezoidal rule in the order in which they are given. -/
theorem integrateSorted_eq (samples : List (Sample ℝ)) :
    integrateSorted samples = display fun i => panels i samples := by
  have hsum : ∀ i, ((samples.zip (trapezoidWeights none (samples.map Sample.wavelength))).map
      fun (s, w) => (matching s.wavelength).get i * (s.value * w)).sum = panels i samples := by
    intro i
    cases samples with
    | nil => simp
    | cons first rest => rw [sum_trapezoidWeights, zero_add]
  have hzero : ∀ i, (Vector.ofFn fun _ => 0.0 : Triple ℝ).get i = 0 := by
    intro i
    rw [get_ofFn]
    norm_num
  have hxyz : (samples.zip (trapezoidWeights none (samples.map Sample.wavelength))).foldl
      (fun (sum : Triple ℝ) (x : Sample ℝ × ℝ) => Vector.ofFn fun i =>
        sum.get i + (matching x.1.wavelength).get i * (x.1.value * x.2))
      (Vector.ofFn fun _ => 0.0) = Vector.ofFn fun i => panels i samples := by
    refine Vector.ext fun i hi => ?_
    have hget := get_foldl_add
      (fun (x : Sample ℝ × ℝ) i => (matching x.1.wavelength).get i * (x.1.value * x.2))
      (samples.zip (trapezoidWeights none (samples.map Sample.wavelength)))
      (Vector.ofFn fun _ => 0.0) ⟨i, hi⟩
    rw [hzero, zero_add, hsum] at hget
    rw [Vector.getElem_ofFn]
    exact hget
  unfold integrateSorted display
  rw [← hxyz]

/-! ## The order of samples -/

section Order

variable {samples samples' : List (Sample ℝ)}

theorem before_real (a b : Sample ℝ) : a.before b = decide (a.wavelength ≤ b.wavelength) := by
  simp [Sample.before]

theorem pairwise_mergeSort_before (samples : List (Sample ℝ)) :
    (samples.mergeSort Sample.before).Pairwise fun a b => a.wavelength ≤ b.wavelength := by
  have htrans : ∀ a b c : Sample ℝ, a.before b → b.before c → a.before c := by
    intro a b c hab hbc
    simp only [before_real, decide_eq_true_eq] at hab hbc ⊢
    exact hab.trans hbc
  have htotal : ∀ a b : Sample ℝ, a.before b || b.before a := by
    intro a b
    simp only [before_real, Bool.or_eq_true, decide_eq_true_eq]
    exact le_total _ _
  simpa only [before_real, decide_eq_true_eq] using List.pairwise_mergeSort htrans htotal samples

/-- Samples of distinct wavelengths have strictly increasing wavelengths once they are sorted. -/
theorem strictly_mergeSort_before (hdistinct : (samples.map Sample.wavelength).Nodup) :
    (samples.mergeSort Sample.before).Pairwise fun a b => a.wavelength < b.wavelength := by
  have hperm := (List.mergeSort_perm samples Sample.before).map Sample.wavelength
  have hne := List.pairwise_map.mp (hperm.nodup_iff.mpr hdistinct)
  exact (pairwise_mergeSort_before samples).imp₂ (fun _ _ hle hne => lt_of_le_of_ne hle hne) hne

/-- Samples of distinct wavelengths are sorted in one way only. -/
theorem mergeSort_before_of_perm (hperm : samples'.Perm samples)
    (hdistinct : (samples.map Sample.wavelength).Nodup) :
    samples'.mergeSort Sample.before = samples.mergeSort Sample.before := by
  have hmem : ∀ {s}, s ∈ samples.mergeSort Sample.before → s ∈ samples := fun h =>
    (List.mergeSort_perm samples Sample.before).mem_iff.mp h
  have hmem' : ∀ {s}, s ∈ samples'.mergeSort Sample.before → s ∈ samples := fun h =>
    hperm.mem_iff.mp ((List.mergeSort_perm samples' Sample.before).mem_iff.mp h)
  refine List.Perm.eq_of_pairwise (fun a b ha hb hab hba => ?_)
    (pairwise_mergeSort_before samples') (pairwise_mergeSort_before samples) ?_
  · exact List.inj_on_of_nodup_map hdistinct (hmem' ha) (hmem hb) (le_antisymm hab hba)
  · exact (List.mergeSort_perm samples' _).trans (hperm.trans (List.mergeSort_perm samples _).symm)

theorem integrate_of_perm (hperm : samples'.Perm samples)
    (hdistinct : (samples.map Sample.wavelength).Nodup) :
    integrate samples' = integrate samples := by
  rw [integrate, integrate, mergeSort_before_of_perm hperm hdistinct]

end Order

/-! ## Linearity -/

theorem display_linear (a b : ℝ) (x y : Fin 3 → ℝ) :
    display (fun i => a * x i + b * y i) =
      Vector.ofFn fun i => a * (display x).get i + b * (display y).get i := by
  unfold display
  congr 1
  funext i
  simp only [get_ofFn, toDisplay, dot, Vector.getElem_ofFn]
  ring

/-- Values that belong to the same keys are integrated in the order of these keys. -/
theorem integrate_map {β : Type} (key : β → ℝ) {s : β → Sample ℝ}
    (hs : ∀ x, (s x).wavelength = key x) (xs : List β) :
    integrate (xs.map s) =
      display fun i => panels i ((xs.mergeSort fun x y => decide (key x ≤ key y)).map s) := by
  have hsort : (xs.mergeSort fun x y => decide (key x ≤ key y)).map s =
      (xs.map s).mergeSort Sample.before :=
    List.map_mergeSort fun x _ y _ => by rw [before_real, hs, hs]
  rw [integrate, integrateSorted_eq, hsort]

section Linear

variable {β : Type} {s t c : β → Sample ℝ} {a b : ℝ}
  (ht : ∀ x, (t x).wavelength = (s x).wavelength) (hc : ∀ x, (c x).wavelength = (s x).wavelength)
  (hvalue : ∀ x, (c x).value = a * (s x).value + b * (t x).value)

include ht hc hvalue

/-- The trapezoidal rule is linear in the values at the same wavelengths. -/
theorem panels_linear (i : Fin 3) (xs : List β) :
    panels i (xs.map c) = a * panels i (xs.map s) + b * panels i (xs.map t) := by
  induction xs with
  | nil => simp
  | cons x xs ih =>
    cases xs with
    | nil => simp
    | cons y xs =>
      simp only [List.map_cons] at ih
      simp only [List.map_cons, panels_cons_cons, ih, Sample.response, ht, hc, hvalue]
      ring

/-- Integrals are linear in the values at the same wavelengths. -/
theorem integrate_linear (xs : List β) :
    integrate (xs.map c) =
      Vector.ofFn fun i => a * (integrate (xs.map s)).get i + b * (integrate (xs.map t)).get i := by
  have hs : ∀ x, (s x).wavelength = (s x).wavelength := fun _ => rfl
  rw [integrate_map (fun x => (s x).wavelength) hc, integrate_map (fun x => (s x).wavelength) hs,
    integrate_map (fun x => (s x).wavelength) ht, ← display_linear]
  simp only [panels_linear ht hc hvalue]

end Linear

/-! ## Arrays -/

/-- The samples of two lists. -/
def samplesOf (wavelengths values : List ℝ) : List (Sample ℝ) :=
  (wavelengths.zip values).map fun (w, v) => ⟨w, v⟩

variable {wavelengths values : List ℝ}

theorem wavelengths_samplesOf (hlength : values.length = wavelengths.length) :
    (samplesOf wavelengths values).map Sample.wavelength = wavelengths := by
  rw [samplesOf, List.map_map]
  exact List.map_fst_zip hlength.ge

/-- Rows of at least two wavelengths and of as many values are integrated. -/
theorem ofArrays_row (hlength : values.length = wavelengths.length)
    (hcount : 2 ≤ wavelengths.length) :
    ofArrays (.row wavelengths) (.row values) = .ok (integrate (samplesOf wavelengths values)) := by
  simp [ofArrays, row, hlength, samplesOf, Nat.not_lt.mpr hcount]

/-- Values that are combined one by one belong to the same wavelengths. -/
theorem samplesOf_map {β : Type} (f : β → ℝ) (wavelengths : List ℝ) (xs : List β) :
    samplesOf wavelengths (xs.map f) = (wavelengths.zip xs).map fun x => ⟨x.1, f x.2⟩ := by
  rw [samplesOf, List.zip_map_right, List.map_map]
  rfl

/-- Integrals are linear in rows of values. -/
theorem integrate_zipWith {values' : List ℝ} (hlength : values'.length = values.length)
    (a b : ℝ) (wavelengths : List ℝ) :
    integrate (samplesOf wavelengths (List.zipWith (fun v v' => a * v + b * v') values values')) =
      Vector.ofFn fun i => a * (integrate (samplesOf wavelengths values)).get i +
        b * (integrate (samplesOf wavelengths values')).get i := by
  -- all three rows come from the same pairs
  have hfirst := samplesOf_map Prod.fst wavelengths (values.zip values')
  have hsecond := samplesOf_map Prod.snd wavelengths (values.zip values')
  rw [List.map_fst_zip hlength.ge] at hfirst
  rw [List.map_snd_zip hlength.le] at hsecond
  have hsum : List.zipWith (fun v v' => a * v + b * v') values values' =
      (values.zip values').map fun x => a * x.1 + b * x.2 := by
    rw [List.zip, List.map_zipWith]
  rw [hsum, samplesOf_map, hfirst, hsecond]
  let sample (f : ℝ × ℝ → ℝ) (x : ℝ × ℝ × ℝ) : Sample ℝ := ⟨x.1, f x.2⟩
  exact integrate_linear (s := sample Prod.fst) (t := sample Prod.snd)
    (c := sample fun x => a * x.1 + b * x.2) (fun _ => rfl) (fun _ => rfl) (fun _ => rfl) _

/-- A spectrum that is given by two rows is integrated by the trapezoidal rule between neighbouring
wavelengths. The result does not depend on the order in which distinct wavelengths are given with
their values, and it is linear in the values. -/
theorem ofArrays_integrates (hlength : values.length = wavelengths.length)
    (hcount : 2 ≤ wavelengths.length) (hdistinct : wavelengths.Nodup) :
    (∃ sorted : List (Sample ℝ), sorted.Perm (samplesOf wavelengths values) ∧
      sorted.Pairwise (fun a b => a.wavelength < b.wavelength) ∧
      ofArrays (.row wavelengths) (.row values) = .ok (display fun i => panels i sorted)) ∧
    (∀ wavelengths' values' : List ℝ, values'.length = wavelengths'.length →
      (wavelengths'.zip values').Perm (wavelengths.zip values) →
      ofArrays (.row wavelengths') (.row values') = ofArrays (.row wavelengths) (.row values)) ∧
    ∀ (values' : List ℝ) (a b : ℝ), values'.length = wavelengths.length →
      let combined := List.zipWith (fun v v' => a * v + b * v') values values'
      ∃ x y, ofArrays (.row wavelengths) (.row values) = .ok x ∧
        ofArrays (.row wavelengths) (.row values') = .ok y ∧
        ofArrays (.row wavelengths) (.row combined) =
          .ok (Vector.ofFn fun i => a * x.get i + b * y.get i) := by
  have hown := ofArrays_row hlength hcount
  have hsamples : ((samplesOf wavelengths values).map Sample.wavelength).Nodup := by
    rwa [wavelengths_samplesOf hlength]
  refine ⟨?_, ?_, ?_⟩
  · refine ⟨_, List.mergeSort_perm _ Sample.before, strictly_mergeSort_before hsamples, ?_⟩
    rw [hown, integrate, integrateSorted_eq]
  · intro wavelengths' values' hlength' hperm
    have hcount' : 2 ≤ wavelengths'.length := by
      have := hperm.length_eq
      simp only [List.length_zip] at this
      omega
    have hsamples' : (samplesOf wavelengths' values').Perm (samplesOf wavelengths values) :=
      hperm.map _
    rw [hown, ofArrays_row hlength' hcount', integrate_of_perm hsamples' hsamples]
  · intro values' a b hlength' combined
    have hcombined : combined.length = wavelengths.length := by
      rw [List.length_zipWith, hlength, hlength', Nat.min_self]
    refine ⟨_, _, hown, ofArrays_row hlength' hcount, ?_⟩
    rw [ofArrays_row hcombined hcount, integrate_zipWith (hlength'.trans hlength.symm)]

/-- Three wavelengths that are not in order, in two orders, and two spectra that add up to a level
one. -/
theorem ofArrays_integrates_unsorted :
    let wavelengths : List ℝ := [680, 440, 550]
    let values : List ℝ := [1, 2, 3]
    values.length = wavelengths.length ∧ 2 ≤ wavelengths.length ∧ wavelengths.Nodup ∧
      (∃ sorted : List (Sample ℝ), sorted.Perm [⟨680, 1⟩, ⟨440, 2⟩, ⟨550, 3⟩] ∧
        sorted.Pairwise (fun a b => a.wavelength < b.wavelength) ∧
        ofArrays (.row wavelengths) (.row values) = .ok (display fun i => panels i sorted)) ∧
      ofArrays (.row [550, 440, 680]) (.row [3, 2, 1]) =
        ofArrays (.row wavelengths) (.row values) ∧
      ∃ x y : Triple ℝ, ofArrays (.row wavelengths) (.row values) = .ok x ∧
        ofArrays (.row wavelengths) (.row [3, 2, 1]) = .ok y ∧
        ofArrays (.row wavelengths) (.row [4, 4, 4]) =
          .ok (Vector.ofFn fun i => 1 * x.get i + 1 * y.get i) := by
  intro wavelengths values
  have hdistinct : wavelengths.Nodup := by norm_num [wavelengths]
  have hsum : List.zipWith (fun v v' : ℝ => 1 * v + 1 * v') values [3, 2, 1] = [4, 4, 4] := by
    norm_num [values]
  obtain ⟨hformula, horder, hlinear⟩ :=
    ofArrays_integrates (show values.length = wavelengths.length from rfl) (by decide) hdistinct
  refine ⟨rfl, by decide, hdistinct, hformula, horder _ _ rfl ?_, ?_⟩
  · exact List.reverse_perm (wavelengths.zip values)
  · obtain ⟨x, y, hx, hy, hxy⟩ := hlinear [3, 2, 1] 1 1 rfl
    rw [hsum] at hxy
    exact ⟨x, y, hx, hy, hxy⟩

end Airlight.Colour
