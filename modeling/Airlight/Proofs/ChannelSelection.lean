import Airlight.Proofs.TensorMaps
import Airlight.Scattering.Batch

/-!
# Channels one by one

What is computed of spectra is computed in each channel by itself and in all channels alike. So it
makes no difference whether some channels are selected before or after: tables, transmittances and
the light scattered into rays of selected channels are the selected channels of what they were.

## Main definitions

* `Spectrum.select` — the spectrum that has in each channel the value of a chosen one.
* `Parameters.select` — what light that is scattered once depends on, in selected channels.
-/

namespace Airlight

open Scalar Texture

variable {α φ : Type} {σ : Fin 4 → Fin 4}

/-! ## Spectra -/

namespace Spectrum

/-- The spectrum that has in channel `c` the value of channel `σ c`. -/
def select (σ : Fin 4 → Fin 4) (x : Spectrum α) : Spectrum α := Vector.ofFn fun c => x.get (σ c)

theorem getElem_select (σ : Fin 4 → Fin 4) (x : Spectrum α) {c : Nat} (hc : c < 4) :
    (select σ x)[c] = x[σ ⟨c, hc⟩] := by
  simp [select, Vector.get]

theorem get_select (σ : Fin 4 → Fin 4) (x : Spectrum α) (c : Fin 4) :
    (select σ x).get c = x.get (σ c) := by
  exact getElem_select σ x c.isLt

theorem select_ofFn (σ : Fin 4 → Fin 4) (f : Fin 4 → α) :
    select σ (Vector.ofFn f) = Vector.ofFn fun c => f (σ c) := by
  ext c hc
  simp [getElem_select]

theorem select_constant (σ : Fin 4 → Fin 4) (x : α) : select σ (constant x) = constant x :=
  select_ofFn σ _

theorem select_default [Inhabited α] (σ : Fin 4 → Fin 4) :
    select σ (default : Spectrum α) = default := by
  ext c hc
  rw [getElem_select]
  simp [default]

theorem each_select (σ : Fin 4 → Fin 4) (f : α → α) (x : Spectrum α) :
    each f (select σ x) = select σ (each f x) := by
  ext c hc
  simp [getElem_select]

theorem combine_select (σ : Fin 4 → Fin 4) (f : α → α → α) (x y : Spectrum α) :
    combine f (select σ x) (select σ y) = select σ (combine f x y) := by
  ext c hc
  simp [getElem_select]

theorem map_select (σ : Fin 4 → Fin 4) (f : α → α) (x : Spectrum α) :
    (select σ x).map f = select σ (x.map f) := by
  ext c hc
  simp [getElem_select]

end Spectrum

/-- Arrays of spectra are combined channel by channel. -/
theorem Tensor.map₂_combine_select [Inhabited α] (f : α → α → α) (a b : Tensor (Spectrum α)) :
    (map₂ (Spectrum.combine f) (a.map (Spectrum.select σ)) (b.map (Spectrum.select σ)) :
        Except (Failure φ) (Tensor (Spectrum α))) =
      map (Spectrum.select σ) <$> map₂ (Spectrum.combine f) a b := by
  simp only [map₂_map_left (Spectrum.select_default σ), map₂_map_right (Spectrum.select_default σ),
    Spectrum.combine_select, map_map₂]

variable [Scalar α]

/-! ## Tables -/

namespace Texture.Table

/-- The table with selected channels of each texel. -/
def select (σ : Fin 4 → Fin 4) (t : Table α 4) : Table α 4 :=
  ⟨t.height, t.width, t.texels.map (Spectrum.select σ)⟩

omit [Scalar α] in
theorem ofFn_select (height width : Nat) (store : α → α) (f : Nat → Nat → Spectrum α) :
    ofFn height width store (fun j i => Spectrum.select σ (f j i)) =
      (ofFn height width store f).select σ := by
  have htexels : (Vector.ofFn fun k : Fin (height * width) =>
      (Spectrum.select σ (f (k / width) (k % width))).map store) =
        (Vector.ofFn fun k : Fin (height * width) =>
          (f (k / width) (k % width)).map store).map (Spectrum.select σ) := by
    simp only [Vector.map_ofFn, Spectrum.map_select, Function.comp_def]
  exact congrArg (Table.mk height width) htexels

omit [Scalar α] in
theorem texel?_select (t : Table α 4) (j i : Nat) :
    (t.select σ).texel? j i = (t.texel? j i).map (Spectrum.select σ) := by
  unfold texel? select
  split_ifs
  · exact Vector.getElem?_map ..
  · rfl

theorem sample_select (t : Table α 4) (u v : α) :
    (t.select σ).sample u v = Spectrum.select σ <$> t.sample u v := by
  have hwidth : (t.select σ).width = t.width := rfl
  have hheight : (t.select σ).height = t.height := rfl
  unfold sample
  simp only [hwidth, hheight, texel?_select]
  split
  · next i₀ i₁ j₀ j₁ _ _ _ _ =>
    cases t.texel? j₀ i₀ with
    | none => rfl
    | some t₀₀ =>
      cases t.texel? j₀ i₁ with
      | none => rfl
      | some t₀₁ =>
        cases t.texel? j₁ i₀ with
        | none => rfl
        | some t₁₀ =>
          cases t.texel? j₁ i₁ with
          | none => rfl
          | some t₁₁ =>
            refine congrArg Except.ok (Vector.ext fun c hc => ?_)
            simp [Spectrum.getElem_select]
  · rfl

theorem toTop_select (t : Table α 4) (s : Shell α) :
    (t.select σ).toTop s = fun r mu => Spectrum.select σ <$> t.toTop s r mu :=
  funext fun _ => funext fun _ => sample_select t _ _

theorem between_select (t : Table α 4) (s : Shell α) (r mu d : α) (ground : Bool) :
    (t.select σ).between s r mu d ground = Spectrum.select σ <$> t.between s r mu d ground := by
  simp only [between, toTop_select, bind_map_left, map_bind]
  cases ground <;> simp only [Bool.false_eq_true, if_false, if_true, map_pure,
    Spectrum.combine_select]

theorem toSun_select (t : Table α 4) (s : SunlitShell α) (r muS : α) :
    (t.select σ).toSun s r muS = Spectrum.select σ <$> t.toSun s r muS := by
  simp only [toSun, toTop_select, bind_map_left, map_bind, map_pure, Spectrum.each_select]

section

variable [Inhabited α]

theorem toTopAll_select (t : Table α 4) (s : Shell α) (r mu : Tensor α) :
    (t.select σ).toTopAll s r mu = Tensor.map (Spectrum.select σ) <$> t.toTopAll s r mu := by
  simp only [toTopAll, toTop_select, map_bind, Tensor.map_tryMap₂]

theorem ratios_select (a b : Tensor (Spectrum α)) :
    ratios (a.map (Spectrum.select σ)) (b.map (Spectrum.select σ)) =
      Tensor.map (Spectrum.select σ) <$> ratios a b := by
  simp only [ratios, Tensor.shape_map, map_bind, Tensor.map₂_combine_select]

theorem betweenAll_select (t : Table α 4) (s : Shell α) (r mu d : Tensor α)
    (ground : Tensor Bool) :
    (t.select σ).betweenAll s r mu d ground =
      Tensor.map (Spectrum.select σ) <$> t.betweenAll s r mu d ground := by
  have hchoice : ∀ (g : Bool) (x y : Spectrum α),
      Spectrum.each (smaller · 1.0) (if g then Spectrum.select σ x else Spectrum.select σ y) =
        Spectrum.select σ (Spectrum.each (smaller · 1.0) (if g then x else y)) := by
    intro g x y
    cases g <;> exact Spectrum.each_select ..
  simp only [betweenAll, toTopAll_select, ratios_select, bind_map_left, map_bind, Tensor.map₃,
    Tensor.shape_map, Tensor.repeated_map (Spectrum.select_default σ), hchoice, map_pure,
    Tensor.map_ofFn]

theorem toSunAll_select (t : Table α 4) (s : SunlitShell α) (r muS : Tensor α) :
    (t.select σ).toSunAll s r muS =
      Tensor.map (Spectrum.select σ) <$> t.toSunAll s r muS := by
  simp only [toSunAll, toTopAll_select, bind_map_left, map_bind,
    Tensor.map₂_map_left (Spectrum.select_default σ), Spectrum.each_select, Tensor.map_map₂]

end

end Texture.Table

/-! ## Transmittances -/

namespace Oracle

/-- The transmittances in selected channels. -/
def select (σ : Fin 4 → Fin 4) (o : Oracle α) : Oracle α where
  toTop r mu := Spectrum.select σ <$> o.toTop r mu
  between r mu d ground := Spectrum.select σ <$> o.between r mu d ground
  toSun r muS := Spectrum.select σ <$> o.toSun r muS

end Oracle

namespace Transmittance

/-- The transmittances in selected channels. -/
def select (σ : Fin 4 → Fin 4) : Transmittance α → Transmittance α
  | table s t => table s (t.select σ)
  | constant value => constant (Spectrum.select σ value)

theorem oracle_select [Inhabited α] (x : Transmittance α) :
    (x.select σ).oracle = x.oracle.select σ := by
  cases x with
  | table s t =>
    simp only [select, oracle, Oracle.ofTable, Oracle.select, Table.toTop_select]
    congr 1
    · funext r mu d ground
      exact Table.between_select t s.toShell r mu d ground
    · funext r muS
      exact Table.toSun_select t s r muS
  | constant value => rfl

omit [Scalar α] in
theorem everywhere_select (value : Spectrum α) (shapes : List (List Nat)) :
    everywhere (Spectrum.select σ value) shapes =
      Tensor.map (Spectrum.select σ) <$> everywhere value shapes := by
  simp only [everywhere, map_bind, map_pure, Tensor.map_ofFn]

section

variable [Inhabited α]

theorem betweenAll_select (x : Transmittance α) (r mu d : Tensor α) (ground : Tensor Bool) :
    (x.select σ).betweenAll r mu d ground =
      Tensor.map (Spectrum.select σ) <$> x.betweenAll r mu d ground := by
  cases x with
  | table s t => exact t.betweenAll_select s.toShell r mu d ground
  | constant value => exact everywhere_select value _

theorem toSunAll_select (x : Transmittance α) (r muS : Tensor α) :
    (x.select σ).toSunAll r muS = Tensor.map (Spectrum.select σ) <$> x.toSunAll r muS := by
  cases x with
  | table s t => exact t.toSunAll_select s r muS
  | constant value => exact everywhere_select value _

end

end Transmittance

/-! ## Single rays -/

namespace Scattered

/-- The light scattered in selected channels. -/
def select (σ : Fin 4 → Fin 4) (s : Scattered α) : Scattered α :=
  ⟨Spectrum.select σ s.rayleigh, Spectrum.select σ s.mie⟩

end Scattered

namespace ScatteringMedium

/-- The medium in selected channels. -/
def select (σ : Fin 4 → Fin 4) (m : ScatteringMedium α) : ScatteringMedium α :=
  { m with
    rayleighScattering := Spectrum.select σ m.rayleighScattering
    mieScattering := Spectrum.select σ m.mieScattering
    solarIrradiance := Spectrum.select σ m.solarIrradiance }

variable (m : ScatteringMedium α) (o : Oracle α) (ray : Ray α) (ground : Bool)

theorem integrand_select (d : α) : (m.select σ).integrand (o.select σ) ray d ground =
    Scattered.select σ <$> m.integrand o ray d ground := by
  simp only [integrand, select, Oracle.select, bind_map_left, map_bind, map_pure,
    Spectrum.combine_select, Spectrum.each_select, Scattered.select]

theorem accumulate_select (sum term : Scattered α) (weight : α) :
    accumulate (sum.select σ) (term.select σ) weight = (accumulate sum term weight).select σ := by
  simp only [accumulate, Scattered.select, Spectrum.combine_select]

/-- Each sample adds to a channel what it has in that channel. -/
theorem sumSamples_select (dx : α) (n i remaining : Nat) (sum : Scattered α) :
    (m.select σ).sumSamples (o.select σ) ray ground dx n i remaining (sum.select σ) =
      Scattered.select σ <$> m.sumSamples o ray ground dx n i remaining sum := by
  induction remaining generalizing i sum with
  | zero => rfl
  | succ remaining ih =>
    simp only [sumSamples, integrand_select, bind_map_left, map_bind, accumulate_select, ih]

theorem integrate_select (n : Nat) : (m.select σ).integrate (o.select σ) n ray ground =
    Scattered.select σ <$> m.integrate o n ray ground := by
  have hsums : ∀ dx, (m.select σ).sumSamples (o.select σ) ray ground dx n 0 (n + 1)
      ⟨Spectrum.constant 0.0, Spectrum.constant 0.0⟩ = Scattered.select σ <$>
        m.sumSamples o ray ground dx n 0 (n + 1)
          ⟨Spectrum.constant 0.0, Spectrum.constant 0.0⟩ := by
    intro dx
    rw [← sumSamples_select, Scattered.select, Spectrum.select_constant]
  simp only [integrate, hsums, bind_map_left, map_bind, map_pure, Scattered.select,
    Spectrum.select_ofFn, Spectrum.get_select]
  simp only [select, Spectrum.get_select]

end ScatteringMedium

/-! ## Arrays of rays -/

namespace ScatteredArrays

/-- The light scattered in selected channels. -/
def select (σ : Fin 4 → Fin 4) (s : ScatteredArrays α) : ScatteredArrays α :=
  ⟨s.rayleigh.map (Spectrum.select σ), s.mie.map (Spectrum.select σ)⟩

end ScatteredArrays

namespace Parameters

/-- What light that is scattered once depends on of an atmosphere, in selected channels. The rest
is left out. -/
def select [Inhabited α] (σ : Fin 4 → Fin 4) (p : Parameters α) : Parameters α :=
  { p with
    wavelengths := default
    solarIrradiance := Spectrum.select σ p.solarIrradiance
    rayleighScattering := Spectrum.select σ p.rayleighScattering
    mieScattering := Spectrum.select σ p.mieScattering
    mieExtinction := Spectrum.select σ p.mieExtinction
    miePhaseAsymmetry := default
    absorptionExtinction := Spectrum.select σ p.absorptionExtinction
    groundAlbedo := default
    whitepoint := default
    lengthUnit := default }

section

variable [Inhabited α] (p : Parameters α)

omit [Scalar α] in
theorem shell_select : (p.select σ).shell = p.shell := rfl

omit [Scalar α] in
theorem solarIrradiance_select :
    (p.select σ).solarIrradiance = Spectrum.select σ p.solarIrradiance := rfl

omit [Scalar α] in
theorem rayleighScattering_select :
    (p.select σ).rayleighScattering = Spectrum.select σ p.rayleighScattering := rfl

omit [Scalar α] in
theorem mieScattering_select :
    (p.select σ).mieScattering = Spectrum.select σ p.mieScattering := rfl

end

end Parameters

namespace RayBatch

variable [Inhabited α] (b : RayBatch α) (p : Parameters α) (x : Transmittance α)

theorem weighed_select (transmittance : Tensor (Spectrum α)) (layers : Profile (Value α))
    (altitudes : Tensor α) :
    weighed (transmittance.map (Spectrum.select σ)) layers altitudes =
      Tensor.map (Spectrum.select σ) <$> weighed transmittance layers altitudes := by
  simp only [weighed, map_bind, Tensor.map₂_map_left (Spectrum.select_default σ),
    Spectrum.each_select, Tensor.map_map₂]

theorem integrands_select (d : Tensor α) : b.integrands (p.select σ) (x.select σ) d =
    ScatteredArrays.select σ <$> b.integrands p x d := by
  simp only [integrands, Transmittance.betweenAll_select, Transmittance.toSunAll_select,
    bind_map_left, map_bind, Tensor.map₂_combine_select, weighed_select, map_pure,
    ScatteredArrays.select]
  rfl

/-- Each sample adds to a channel what it has in that channel. -/
theorem sumSamples_select (dx : Tensor α) (n i remaining : Nat) (sum : ScatteredArrays α) :
    b.sumSamples (p.select σ) (x.select σ) dx n i remaining (sum.select σ) =
      ScatteredArrays.select σ <$> b.sumSamples p x dx n i remaining sum := by
  induction remaining generalizing i sum with
  | zero => rfl
  | succ remaining ih =>
    simp only [sumSamples, integrands_select, bind_map_left, map_bind, ← ih]
    simp only [ScatteredArrays.select, Tensor.map₂_combine_select, bind_map_left]

theorem integrate_select (n : Nat) (dx : Tensor α) :
    b.integrate (p.select σ) (x.select σ) n dx =
      ScatteredArrays.select σ <$> b.integrate p x n dx := by
  have hsums : b.sumSamples (p.select σ) (x.select σ) dx n 0 (n + 1)
      ⟨.single (Spectrum.constant 0.0), .single (Spectrum.constant 0.0)⟩ =
        ScatteredArrays.select σ <$> b.sumSamples p x dx n 0 (n + 1)
          ⟨.single (Spectrum.constant 0.0), .single (Spectrum.constant 0.0)⟩ := by
    rw [← sumSamples_select, ScatteredArrays.select, Tensor.map_single, Spectrum.select_constant]
  have hfinish : ∀ (sums : Tensor (Spectrum α)) (coefficient : Spectrum α),
      (Tensor.map₂ (fun (sum : Spectrum α) dx => Vector.ofFn fun k => sum.get k * dx *
        (Spectrum.select σ p.solarIrradiance).get k * (Spectrum.select σ coefficient).get k)
        (sums.map (Spectrum.select σ)) dx : Except (Failure α) (Tensor (Spectrum α))) =
      Tensor.map (Spectrum.select σ) <$> Tensor.map₂ (fun (sum : Spectrum α) dx =>
        Vector.ofFn fun k => sum.get k * dx * p.solarIrradiance.get k * coefficient.get k)
        sums dx := by
    intro sums coefficient
    simp only [Tensor.map₂_map_left (Spectrum.select_default σ), Tensor.map_map₂,
      Spectrum.select_ofFn, Spectrum.get_select]
  simp only [integrate, hsums, bind_map_left, map_bind, ScatteredArrays.select,
    Parameters.solarIrradiance_select, Parameters.rayleighScattering_select,
    Parameters.mieScattering_select, hfinish, map_pure]

/-- The light scattered into rays has selected channels if the atmosphere and the transmittance
have. -/
theorem scattered_select (count : Value α) : b.scattered (p.select σ) (x.select σ) count =
    ScatteredArrays.select σ <$> b.scattered p x count := by
  simp only [scattered, Parameters.shell_select, integrate_select, map_bind]
  refine bind_congr fun few => ?_
  cases few
  · simp only [Bool.false_eq_true, if_false, map_bind]
  · rfl

end RayBatch

namespace Parameters

variable [Inhabited α] (p : Parameters α)

theorem medium?_select : (p.select σ).medium? = p.medium?.map (ScatteringMedium.select σ) := by
  have hrayleigh : (p.select σ).rayleighDensity = p.rayleighDensity := rfl
  have hmie : (p.select σ).mieDensity = p.mieDensity := rfl
  simp only [medium?, hrayleigh, hmie]
  cases p.rayleighDensity.stack? with
  | none => rfl
  | some rayleigh =>
    cases p.mieDensity.stack? with
    | none => rfl
    | some mie => rfl

/-- The light scattered into rays has selected channels if the atmosphere and the transmittance
have. -/
theorem scatterInto_select (x : Transmittance α) (count : Value α) (rays : Tensor (Ray α × Bool)) :
    (p.select σ).scatterInto (x.select σ) count rays =
      ScatteredArrays.select σ <$> p.scatterInto x count rays := by
  have hchosen : ∀ (m : Option (ScatteringMedium α)) (b : Bool),
      (m.map (ScatteringMedium.select σ)).filter (fun _ => b) =
        (m.filter fun _ => b).map (ScatteringMedium.select σ) := fun _ _ => Option.filter_map
  unfold scatterInto
  rw [medium?_select, hchosen]
  cases p.medium?.filter fun _ => decide (rays.shape.length < Tensor.maxLookupAxes) with
  | none => exact RayBatch.scattered_select _ p x count
  | some m =>
    simp only [Option.map_some, shell_select, Transmittance.oracle_select,
      ScatteringMedium.integrate_select, ← Tensor.map_mapM, bind_map_left, map_bind]
    refine bind_congr fun few => ?_
    cases few
    · simp only [Bool.false_eq_true, if_false, map_bind, map_pure, Tensor.map_map,
        ScatteredArrays.select, Scattered.select]
    · rfl

end Parameters

/-! ## The transmittance table -/

namespace Texture.AnyTable

variable [Inhabited α]

omit [Scalar α] in
/-- A component of an array of spectra is that of the spectrum at its position, if there is one. -/
theorem getD_components (t : Tensor (Spectrum α)) (k : Nat) (c : Fin 4) :
    t.components.data.getD (k * 4 + c) default =
      (t.data[k]?.map fun x => x.get c).getD default := by
  rw [Array.getD_eq_getD_getElem?]
  by_cases hk : k < volume t.shape
  · have hlt : k < t.data.size := t.size_eq ▸ hk
    have hvalue := Array.getElem?_eq_getElem hlt
    rw [hvalue, Tensor.components, Tensor.getElem?_data_ofVectors hk c.isLt hvalue]
    rfl
  · have hsize : t.components.data.size = volume t.shape * 4 := by
      rw [t.components.size_eq]
      exact Tensor.volume_concat t.shape 4
    rw [Array.getElem?_eq_none (by omega), Array.getElem?_eq_none (by rw [t.size_eq]; omega)]
    rfl

omit [Scalar α] in
/-- A table is read from each channel by itself. -/
theorem ofTensor_components_select (store : α → α) (t : Tensor (Spectrum α)) :
    (ofTensor store (t.map (Spectrum.select σ)).components >>= spectral) =
      Table.select σ <$> (ofTensor store t.components >>= spectral) := by
  have hvalues : ∀ (k : Nat) (c : Fin 4),
      (t.map (Spectrum.select σ)).components.data.getD (k * 4 + c) default =
        t.components.data.getD (k * 4 + σ c) default := by
    intro k c
    rw [getD_components, getD_components, Tensor.data_map, Array.getElem?_map, Option.map_map]
    exact congrArg (Option.getD · default)
      (Option.map_congr fun x _ => Spectrum.get_select σ x c)
  have hshape : (t.map (Spectrum.select σ)).components.shape = t.shape ++ [4] := rfl
  have hshape' : t.components.shape = t.shape ++ [4] := rfl
  unfold ofTensor
  rw [hshape, hshape']
  rcases t.shape with _ | ⟨height, _ | ⟨width, _ | ⟨depth, rest⟩⟩⟩
  · rfl
  · rfl
  · refine congrArg Except.ok ?_
    simp only [hvalues, ← Table.ofFn_select, Spectrum.select_ofFn]
  · cases rest <;> rfl

end Texture.AnyTable

namespace Parameters

variable [Inhabited α] (p : Parameters α)

theorem transmittanceToTop_select (air : Constituents α) (count : Int) (r mu : α) :
    (p.select σ).transmittanceToTop air count r mu =
      Spectrum.select σ (p.transmittanceToTop air count r mu) := by
  have hattenuation : ∀ (rayleigh mie absorption : α) (c : Fin 4),
      (p.select σ).attenuation rayleigh mie absorption c =
        p.attenuation rayleigh mie absorption (σ c) := by
    intro rayleigh mie absorption c
    simp only [Atmosphere.attenuation, select, Spectrum.get_select]
  simp only [Atmosphere.transmittanceToTop, Spectrum.select_ofFn, shell_select]
  exact congrArg Vector.ofFn (funext fun c => hattenuation _ _ _ c)

theorem texelTransmittance_select (air : Constituents α) (width height : α) (count : Int)
    (j i : Nat) : (p.select σ).texelTransmittance air width height count j i =
      Spectrum.select σ (p.texelTransmittance air width height count j i) :=
  transmittanceToTop_select p air count _ _

/-- The transmittance table has selected channels if the atmosphere has. -/
theorem transmittanceTable_select (store : α → α) (width height count : Value α) :
    (p.select σ).transmittanceTable store width height count =
      Table.select σ <$> p.transmittanceTable store width height count := by
  have hair : ∀ altitude, (p.select σ).constituents altitude = p.constituents altitude :=
    fun _ => rfl
  simp only [transmittanceTable, transmittanceTexels, hair, texelTransmittance_select,
    bind_assoc, pure_bind, ← Tensor.map_map₂ (Spectrum.select σ), bind_map_left,
    AnyTable.ofTensor_components_select]
  simp only [map_bind]

end Parameters

end Airlight
