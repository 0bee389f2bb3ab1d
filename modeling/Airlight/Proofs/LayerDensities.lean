import Airlight.Proofs.RegularLayers
import Airlight.Transmittance.OpticalDepth

/-!
# Densities of layers of numbers

Layers with single numbers as coefficients form a single stack, whose density at an altitude is that
of the layers. A profile of arrays with single densities is a single stack as well, so its optical
lengths for single rays are those of its density.

## Main definitions

* `Profile.HasDensity` — the density of a profile of arrays at single altitudes.
-/

namespace Airlight

open Scalar

/-! ## Stacks of layers of numbers -/

namespace LayerStack

variable {layers : Profile ℝ} {h : ℝ}

theorem density_stratum (layer : DensityLayer ℝ) (h : ℝ) :
    (stratum layer).density h = layer.density h := rfl

/-- The layers below the top one are told apart by their upper ends. -/
theorem densityAmong_altitudesFrom (base : ℝ) (layers : Profile ℝ) (h : ℝ) :
    densityAmong (layers.map stratum).getLast? h
        ((Profile.altitudesFrom base (layers.dropLast.map DensityLayer.width)).zip
          (layers.map stratum)) = Profile.densityFrom base layers h := by
  induction layers generalizing base with
  | nil => rfl
  | cons layer layers ih =>
    cases layers with
    | nil => rfl
    | cons next rest =>
      have hbelow := ih (base + layer.width)
      simp only [List.dropLast_cons_cons, List.map_cons, Profile.altitudesFrom, List.zip_cons_cons,
        densityAmong, density_stratum, Profile.densityFrom, List.getLast?_cons_cons] at hbelow ⊢
      rw [hbelow]

/-- The stack of layers has their density. -/
theorem density_ofLayers (layers : Profile ℝ) (h : ℝ) :
    (ofLayers layers).density h = Profile.density layers h := by
  have hzero : (0.0 : ℝ) = 0 := by norm_num
  rw [density, Profile.density, hzero]
  exact densityAmong_altitudesFrom 0 layers h

end LayerStack

/-! ## Profiles of arrays -/

namespace Profile

theorem runningSums_eq (widths : List ℝ) : runningSums widths = altitudesFrom 0 widths := by
  cases widths with
  | nil => rfl
  | cons width widths =>
    rw [runningSums_cons, ← altitudesFrom_eq_scanl, altitudesFrom, zero_add]

theorem toStack_eq_ofLayers (layers : Profile ℝ) : layers.toStack = .ofLayers layers := by
  rw [toStack, ends, runningSums_eq]
  rfl

/-- The densities at single altitudes are those that the function gives. -/
def HasDensity (layers : Profile (Tensor ℝ)) (density : ℝ → ℝ) : Prop :=
  ∀ h, layers.densities (φ := ℝ) (.single h) = .ok (.single (density h))

/-- Layers of numbers have their density. -/
theorem hasDensity_toArrays (layers : Profile ℝ) :
    HasDensity (layers.map DensityLayer.toArrays) layers.density := by
  intro h
  rw [densities_toArrays, Tensor.map_single, toStack_eq_ofLayers, LayerStack.density_ofLayers]

namespace HasDensity

variable {layers : Profile (Tensor ℝ)} {density : ℝ → ℝ}

/-- A profile with single densities is one stack. -/
theorem exists_stack (hd : layers.HasDensity density) :
    ∃ stack : LayerStack ℝ, layers.arrayStacks (φ := ℝ) = .ok (.single stack) ∧
      stack.density = density := by
  obtain ⟨column, hcolumn, hzero⟩ := bind_eq_ok_iff.mp (hd 0)
  obtain ⟨stack, rfl⟩ := Tensor.exists_eq_single (Tensor.map₂_shape_eq_nil hzero rfl).1
  refine ⟨stack, hcolumn, funext fun h => ?_⟩
  have hh := hd h
  simp only [densities, hcolumn, ok_bind, Tensor.map₂_single, Except.ok.injEq,
    Tensor.single_inj] at hh
  exact hh

/-- The optical length of a single ray. -/
theorem opticalLengths_single (hd : layers.HasDensity density) (s : Shell ℝ) {n : ℤ} (hn : 0 ≤ n)
    (r mu : ℝ) :
    s.opticalLengths layers (.integer n) (.single r) (.single mu) =
      .ok (.single (s.opticalLength density n.toNat r mu)) := by
  obtain ⟨stack, hstack, rfl⟩ := hd.exists_stack
  have hintervals : (Value.integer n : Value ℝ).intervals [] = .ok n := rfl
  simp only [Shell.opticalLengths, Tensor.map₂_single, ok_bind, Tensor.shape_single, hintervals,
    if_neg (not_lt.mpr hn), hstack, Shell.opticalLengthOf]

end HasDensity

/-! ## Single layers -/

variable {H : ℝ}

theorem density_uniform (rho h : ℝ) : density (uniform rho) h = min (max rho 0) 1 := by
  norm_num [density, densityFrom, uniform, DensityLayer.density, DensityLayer.empty]

/-- A uniform profile has the same density everywhere, limited to the range from 0 to 1. -/
theorem hasDensity_uniformOver (rho : ℝ) :
    HasDensity (uniformOver (.single rho)) fun _ => min (max rho 0) 1 := by
  intro h
  rw [← density_uniform rho h]
  exact hasDensity_toArrays (uniform rho) h

theorem stack?_uniform (rho : ℝ) :
    stack? ((uniform rho).map DensityLayer.toValues) = some (.ofLayers (uniform rho)) := by
  rw [stack?_toValues, toStack_eq_ofLayers]

/-- A density that falls off exponentially is limited to 1 below the ground. -/
theorem exists_exponential (hH : H ≠ 0) : ∃ layers : Profile ℝ, exponential H = .ok layers ∧
    ∀ h, layers.density h = min (Real.exp (-(h / H))) 1 := by
  have hscale : divide? (-1.0) H = .ok (-1.0 / H) := by
    norm_num [divide?, hH]
  refine ⟨_, by simp only [exponential, hscale, ok_bind, pure_eq_ok]; rfl, fun h => ?_⟩
  have hexponent : -1 / H * h = -(h / H) := by ring
  norm_num [density, densityFrom, DensityLayer.density, DensityLayer.empty, hexponent,
    max_eq_left (Real.exp_pos _).le]

theorem exists_exponentialOver (hH : H ≠ 0) : ∃ layers : Profile (Tensor ℝ),
    exponentialOver (.single H) = .ok layers ∧
      layers.HasDensity fun h => min (Real.exp (-(h / H))) 1 := by
  obtain ⟨layers, hlayers, hdensity⟩ := exists_exponential hH
  refine ⟨layers.map DensityLayer.toArrays, ?_, ?_⟩
  · have hfirst : (Tensor.single H).repeated [] 0 = H := rfl
    simp only [exponentialOver, hfirst, hlayers, ok_bind, pure_eq_ok]
    rfl
  · rw [← funext hdensity]
    exact hasDensity_toArrays layers

end Profile

end Airlight
