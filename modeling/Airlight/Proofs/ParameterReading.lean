import Airlight.Proofs.Invariants
import Airlight.Proofs.UnitAir
import Airlight.Atmosphere.Units

/-!
# Parameters read from their own draft

Parameters that are written as a draft are read back as they were. A draft with some fields replaced
is the draft of other parameters, so what a change of the length unit reads is known.

## Main definitions

* `Parameters.Readable` — parameters that survive being written and read.
* `Parameters.ReadFrom` — parameters that are what the values of a draft read as.
* `Parameters.inUnit` — parameters in another length unit.
-/

namespace Airlight

open Scalar

/-! ## Lists of numbers -/

namespace Value

variable {α : Type} [Scalar α]

omit [Scalar α] in
theorem commonAxes?_reals (xs : List α) :
    ∃ inner, commonAxes? (xs.map real) = some inner ∧ inner.getD [] = [] := by
  induction xs with
  | nil => exact ⟨none, rfl, rfl⟩
  | cons x xs ih =>
    obtain ⟨inner, hinner, hnil⟩ := ih
    refine ⟨some [], ?_, rfl⟩
    cases inner with
    | none => simp [commonAxes?, axes?, hinner]
    | some inner =>
      obtain rfl : inner = [] := hnil
      simp [commonAxes?, axes?, hinner]

omit [Scalar α] in
theorem leavesOf_reals (xs : List α) : leavesOf (xs.map real) = xs.map real := by
  induction xs with
  | nil => rfl
  | cons x xs ih => simp [leavesOf, leaves, ih]

/-- A list of real numbers is read as those numbers. -/
theorem numbers_reals (xs : List α) : (list (xs.map real)).numbers = .ok xs := by
  obtain ⟨inner, hinner, hnil⟩ := commonAxes?_reals xs
  have haxes : (list (xs.map real)).axes? = some [xs.length] := by
    simp [axes?, hinner, hnil]
  have hread : (xs.map real).mapM element = .ok xs := by
    rw [List.mapM_map]
    exact (listMapM_eq_ok fun _ _ => rfl).trans (congrArg Except.ok (List.map_id xs))
  unfold numbers
  rw [haxes]
  simp only [List.length_cons, List.length_nil, leaves, leavesOf_reals, hread]
  rfl

end Value

namespace Parameters

section

variable {α : Type} [Scalar α]

theorem readNumbers_listOf {n : Nat} (field : Field) {v : Vector α n}
    (h : ∀ x ∈ v, isFinite x = true) : readNumbers field n (listOf v) = .ok v := by
  have hlength : v.toList.length = n := Vector.length_toList
  have hfinite : v.toList.all isFinite = true :=
    List.all_eq_true.mpr fun x hx => h x (Vector.mem_toList_iff.mp hx)
  unfold readNumbers listOf
  rw [Value.numbers_reals]
  simp only [dif_pos hlength, if_pos hfinite]
  rfl

/-! ## Profiles -/

theorem ofEntries?_toValue (layer : DensityLayer (Value α)) :
    DensityLayer.ofEntries? [((.text "width" : Value α), layer.width),
      (.text "exp_term", layer.expTerm), (.text "exp_scale", layer.expScale),
      (.text "linear_term", layer.linearTerm), (.text "constant_term", layer.constantTerm)] =
        some layer := by
  simp [DensityLayer.ofEntries?, DensityLayer.keys, Value.lookup?, Text.ofString]

theorem readLayer_toValue (field : Field) {layer : DensityLayer (Value α)}
    (h : DensityLayer.negativeWidth? layer.width = some false) :
    readLayer field layer.toValue = .ok layer := by
  simp only [readLayer, DensityLayer.toValue, Value.opened, ofEntries?_toValue, h]

theorem readProfile_profileValue (field : Field) {layers : Profile (Value α)}
    (h : ∀ layer ∈ layers, DensityLayer.negativeWidth? layer.width = some false) :
    readProfile field (profileValue layers) = .ok layers := by
  have hvalues : layerValues? (profileValue layers) = some (layers.map DensityLayer.toValue) := rfl
  rw [readProfile, hvalues]
  dsimp only
  rw [List.mapM_map]
  exact (listMapM_eq_ok fun layer hlayer => readLayer_toValue field (h layer hlayer)).trans
    (congrArg Except.ok (List.map_id layers))

/-! ## Drafts -/

/-- The numbers of the parameters are finite and no width is negative. -/
structure Readable (p : Parameters α) : Prop where
  spectrum_finite : ∀ f, ∀ x ∈ p.spectrum f, isFinite x = true
  whitepoint_finite : ∀ x ∈ p.whitepoint, isFinite x = true
  widths : ∀ f, ∀ layer ∈ p.profile f, DensityLayer.negativeWidth? layer.width = some false

/-- The parameters are what the values of a draft read as. -/
structure ReadFrom (p : Parameters α) (draft : Field → Value α) : Prop where
  spectrum : ∀ f, readNumbers (.spectral f) 4 (draft (.spectral f)) = .ok (p.spectrum f)
  whitepoint : readNumbers .whitepoint 3 (draft .whitepoint) = .ok p.whitepoint
  profile : ∀ f, readProfile (.profile f) (draft (.profile f)) = .ok (p.profile f)
  scalar : ∀ f, readNumber (.scalar f) (draft (.scalar f)) = .ok (p.scalar f)

theorem ReadFrom.read_eq_ok {p : Parameters α} {draft : Field → Value α} (h : p.ReadFrom draft) :
    read draft = .ok p := by
  simp only [read, h.spectrum, h.whitepoint, h.profile, h.scalar, ok_bind, pure_eq_ok]
  rfl

/-- A draft is read only if each field is. -/
theorem readFrom_of_read {p : Parameters α} {draft : Field → Value α} (h : read draft = .ok p) :
    p.ReadFrom draft := by
  simp only [read] at h
  obtain ⟨wavelengths, hwavelengths, h⟩ := bind_eq_ok_iff.mp h
  obtain ⟨solarIrradiance, hsolarIrradiance, h⟩ := bind_eq_ok_iff.mp h
  obtain ⟨rayleighScattering, hrayleighScattering, h⟩ := bind_eq_ok_iff.mp h
  obtain ⟨mieScattering, hmieScattering, h⟩ := bind_eq_ok_iff.mp h
  obtain ⟨mieExtinction, hmieExtinction, h⟩ := bind_eq_ok_iff.mp h
  obtain ⟨absorptionExtinction, habsorptionExtinction, h⟩ := bind_eq_ok_iff.mp h
  obtain ⟨groundAlbedo, hgroundAlbedo, h⟩ := bind_eq_ok_iff.mp h
  obtain ⟨whitepoint, hwhitepoint, h⟩ := bind_eq_ok_iff.mp h
  obtain ⟨rayleighDensity, hrayleighDensity, h⟩ := bind_eq_ok_iff.mp h
  obtain ⟨mieDensity, hmieDensity, h⟩ := bind_eq_ok_iff.mp h
  obtain ⟨absorptionDensity, habsorptionDensity, h⟩ := bind_eq_ok_iff.mp h
  obtain ⟨bottom, hbottom, h⟩ := bind_eq_ok_iff.mp h
  obtain ⟨top, htop, h⟩ := bind_eq_ok_iff.mp h
  obtain ⟨sunAngularRadius, hsunAngularRadius, h⟩ := bind_eq_ok_iff.mp h
  obtain ⟨miePhaseAsymmetry, hmiePhaseAsymmetry, h⟩ := bind_eq_ok_iff.mp h
  obtain ⟨muSMin, hmuSMin, h⟩ := bind_eq_ok_iff.mp h
  obtain ⟨lengthUnit, hlengthUnit, h⟩ := bind_eq_ok_iff.mp h
  cases h
  constructor
  · intro f
    cases f <;> assumption
  · exact hwhitepoint
  · intro f
    cases f <;> assumption
  · intro f
    cases f <;> assumption

/-- Parameters are read from their own draft as they are. -/
theorem read_draft {p : Parameters α} (hp : p.Readable) : read p.draft = .ok p :=
  ReadFrom.read_eq_ok {
    spectrum := fun f => readNumbers_listOf _ (hp.spectrum_finite f)
    whitepoint := readNumbers_listOf _ hp.whitepoint_finite
    profile := fun f => readProfile_profileValue _ (hp.widths f)
    scalar := fun _ => rfl }

theorem build_eq_ok_iff {p : Parameters α} {draft : Field → Value α} :
    build draft = .ok p ↔ read draft = .ok p ∧ p.Invariants := by
  rw [← validate_eq_ok_iff, build, bind_eq_ok_iff]
  constructor
  · rintro ⟨q, hread, h⟩
    obtain ⟨_, hvalid, h⟩ := bind_eq_ok_iff.mp h
    cases h
    exact ⟨hread, hvalid⟩
  · rintro ⟨hread, hvalid⟩
    exact ⟨p, hread, by rw [hvalid]; rfl⟩

/-- Parameters that pass the check are built from their own draft as they are. -/
theorem build_draft {p : Parameters α} (hp : p.Readable) (hvalid : p.validate = .ok ()) :
    build p.draft = .ok p := by
  simp only [build, read_draft hp, hvalid, ok_bind, pure_eq_ok]

end

end Parameters

/-! ## Length units -/

section

variable {α : Type} [Scalar α]

theorem divide?_of_same {a b : α} (h : same b 0.0 = false) :
    (divide? a b : Except (Failure α) α) = .ok (a / b) := by
  rw [divide?, h]
  rfl

namespace Parameters

/-- Parameters in another length unit, with the layers that they have in it. -/
def rescaledWith (p : Parameters α) (unit factor : α)
    (layers : ProfileField → Profile (Value α)) : Parameters α :=
  { p with
    bottom := p.bottom / factor
    top := p.top / factor
    lengthUnit := unit
    rayleighDensity := layers .rayleighDensity
    rayleighScattering := p.rayleighScattering.map (· * factor)
    mieDensity := layers .mieDensity
    mieScattering := p.mieScattering.map (· * factor)
    mieExtinction := p.mieExtinction.map (· * factor)
    absorptionDensity := layers .absorptionDensity
    absorptionExtinction := p.absorptionExtinction.map (· * factor) }

/-- A change of the length unit builds the parameters in the new unit from their own draft. -/
theorem toLengthUnit_eq_build {p : Parameters α} {unit : α}
    {layers : ProfileField → Profile (Value α)} (hunit : ¬ unit ≤ 0.0)
    (hfactor : same (unit / p.lengthUnit) 0.0 = false)
    (hlayers : ∀ f, (p.profile f).mapM (DensityLayer.scaledValues · (unit / p.lengthUnit)) =
      .ok (layers f)) :
    p.toLengthUnit unit = build (p.rescaledWith unit (unit / p.lengthUnit) layers).draft := by
  simp only [toLengthUnit, if_neg hunit, rescaled, divide?_of_same hfactor, hlayers, ok_bind,
    pure_eq_ok]
  congr 1
  funext field
  cases field with
  | spectral f => cases f <;> rfl
  | whitepoint => rfl
  | profile f => cases f <;> rfl
  | scalar f => cases f <;> rfl

end Parameters

end

theorem same_zero_of_ne {b : ℝ} (hb : b ≠ 0) : same b 0.0 = false := by
  norm_num [hb]

namespace DensityLayer

variable {layer : DensityLayer (Value ℝ)} {k : ℝ}

/-- A layer of document values in a length unit that is larger by a factor. -/
noncomputable def inUnit (layer : DensityLayer (Value ℝ)) (k : ℝ) : DensityLayer (Value ℝ) :=
  { layer with
    width := .real (layer.width.amount / k)
    expScale := .real (layer.expScale.amount * k)
    linearTerm := .real (layer.linearTerm.amount * k) }

theorem amounts_inUnit (layer : DensityLayer (Value ℝ)) (k : ℝ) :
    (layer.inUnit k).amounts = layer.amounts.scaled k := rfl

theorem inUnit_inUnit (layer : DensityLayer (Value ℝ)) (k l : ℝ) :
    (layer.inUnit k).inUnit l = layer.inUnit (k * l) := by
  simp only [inUnit, Value.amount, div_div, mul_assoc]

theorem scaledValues_eq_ok (h : layer.Regular) (hk : 0 < k) :
    layer.scaledValues k = .ok (layer.inUnit k) := by
  have hwidth := Value.operandOrFail_eq_ok (isNumber_of_negativeWidth? h.width)
  simp only [scaledValues, hwidth, divide?_of_same (same_zero_of_ne hk.ne'),
    Value.operandOrFail_eq_ok h.expScale, Value.operandOrFail_eq_ok h.linearTerm, ok_bind,
    pure_eq_ok]
  rfl

theorem Regular.inUnit (h : layer.Regular) (hk : 0 < k) : (layer.inUnit k).Regular where
  expTerm := h.expTerm
  expScale := Value.isNumber_real _
  linearTerm := Value.isNumber_real _
  constantTerm := h.constantTerm
  width := by
    have hwidth : 0 ≤ layer.width.amount / k := div_nonneg (amount_nonneg h.width) hk.le
    norm_num [DensityLayer.inUnit, negativeWidth?]
    exact hwidth

end DensityLayer

theorem Profile.Regular.inUnit {layers : Profile (Value ℝ)} (h : layers.Regular) {k : ℝ}
    (hk : 0 < k) : Profile.Regular (layers.map (·.inUnit k)) where
  layer := by
    intro layer hlayer
    obtain ⟨own, hown, rfl⟩ := List.mem_map.mp hlayer
    exact (h.layer own hown).inUnit hk
  sum_lt := by
    rw [sum_wholePart_eq_zero layers fun _ => rfl]
    decide

namespace Parameters

variable {p : Parameters ℝ} {k : ℝ}

/-- Parameters in a length unit that is larger by a factor. -/
noncomputable def inUnit (p : Parameters ℝ) (k : ℝ) : Parameters ℝ :=
  { p with
    toLitShell := p.toLitShell.inUnit k
    rayleighDensity := p.rayleighDensity.map (·.inUnit k)
    rayleighScattering := p.rayleighScattering.map (· * k)
    mieDensity := p.mieDensity.map (·.inUnit k)
    mieScattering := p.mieScattering.map (· * k)
    mieExtinction := p.mieExtinction.map (· * k)
    absorptionDensity := p.absorptionDensity.map (·.inUnit k)
    absorptionExtinction := p.absorptionExtinction.map (· * k)
    lengthUnit := p.lengthUnit * k }

theorem profile_inUnit (p : Parameters ℝ) (k : ℝ) (f : ProfileField) :
    (p.inUnit k).profile f = (p.profile f).map (·.inUnit k) := by
  cases f <;> rfl

/-- The numbers of the layers in another unit are those of the scaled layers. -/
theorem amounts_profile_inUnit (p : Parameters ℝ) (k : ℝ) (f : ProfileField) :
    ((p.inUnit k).profile f).map DensityLayer.amounts =
      ((p.profile f).map DensityLayer.amounts).map (·.scaled k) := by
  rw [profile_inUnit]
  simp only [List.map_map, Function.comp_def, DensityLayer.amounts_inUnit]

theorem Regular.inUnit (h : p.Regular) (hk : 0 < k) : (p.inUnit k).Regular := by
  intro f
  rw [profile_inUnit]
  exact (h f).inUnit hk

theorem Layered.inUnit (h : p.Layered) (hk : 0 < k) : (p.inUnit k).Layered := by
  intro f layer hlayer
  rw [profile_inUnit] at hlayer
  obtain ⟨own, hown, rfl⟩ := List.mem_map.mp hlayer
  exact (h f own hown).inUnit hk

theorem Layered.readable (h : p.Layered) : p.Readable where
  spectrum_finite _ _ _ := isFinite_real _
  whitepoint_finite _ _ := isFinite_real _
  widths f layer hlayer := (h f layer hlayer).width

/-- A spectral field either stays or is multiplied by the factor. -/
theorem spectrum_inUnit (p : Parameters ℝ) (k : ℝ) (f : SpectralField) :
    (p.inUnit k).spectrum f = p.spectrum f ∨
      (p.inUnit k).spectrum f = (p.spectrum f).map (· * k) := by
  cases f
  all_goals first | exact .inl rfl | exact .inr rfl

/-- The invariants do not depend on the length unit. -/
theorem Invariants.inUnit (hp : p.Invariants) (hk : 0 < k) : (p.inUnit k).Invariants where
  bottom_finite := isFinite_real _
  top_finite := isFinite_real _
  bottom_pos := by
    have := div_pos hp.proper.shell.bottom_pos hk
    norm_num
    exact this
  bottom_lt_top := div_lt_div_of_pos_right hp.bottom_lt_top hk
  spectrum_nonneg f x hx := by
    have hnonneg : ∀ y ∈ p.spectrum f, 0 ≤ y := fun y hy => by
      have := hp.spectrum_nonneg f y hy
      norm_num at this
      exact this
    have hx0 : 0 ≤ x := by
      obtain hstays | hscaled := spectrum_inUnit p k f
      · exact hnonneg x (hstays ▸ hx)
      · rw [hscaled] at hx
        obtain ⟨y, hy, rfl⟩ := Vector.mem_map.mp hx
        exact mul_nonneg (hnonneg y hy) hk.le
    norm_num
    exact hx0
  wavelengths_pos := hp.wavelengths_pos
  sunAngularRadius_nonneg := hp.sunAngularRadius_nonneg
  neg_one_le_muSMin := hp.neg_one_le_muSMin
  muSMin_lt_one := hp.muSMin_lt_one
  neg_one_lt_asymmetry := hp.neg_one_lt_asymmetry
  asymmetry_lt_one := hp.asymmetry_lt_one
  lengthUnit_pos := by
    have hunit := hp.lengthUnit_pos
    norm_num at hunit ⊢
    exact mul_pos hunit hk
  rayleighDensity_ne_nil := by simpa [Parameters.inUnit] using hp.rayleighDensity_ne_nil
  mieDensity_ne_nil := by simpa [Parameters.inUnit] using hp.mieDensity_ne_nil

/-- The unit of a unit is the product of both. -/
theorem inUnit_inUnit (p : Parameters ℝ) (k l : ℝ) :
    (p.inUnit k).inUnit l = p.inUnit (k * l) := by
  have hshell : (p.toLitShell.inUnit k).inUnit l = p.toLitShell.inUnit (k * l) := by
    simp only [LitShell.inUnit, Shell.inUnit, div_div]
  simp only [inUnit, hshell, List.map_map, Vector.map_map, Function.comp_def, mul_assoc,
    DensityLayer.inUnit_inUnit]

/-- In their own unit parameters stay as they are, up to the form in which the layers are kept. -/
theorem inUnit_one (p : Parameters ℝ) : p.inUnit 1 =
    { p with
      rayleighDensity := p.rayleighDensity.map (·.inUnit 1)
      mieDensity := p.mieDensity.map (·.inUnit 1)
      absorptionDensity := p.absorptionDensity.map (·.inUnit 1) } := by
  simp [inUnit, LitShell.inUnit, Shell.inUnit]

/-- Invariants that hold in one length unit hold in every other. -/
theorem Invariants.of_inUnit (h : (p.inUnit k).Invariants) (hk : 0 < k) : p.Invariants := by
  have hown := h.inUnit (inv_pos.mpr hk)
  rw [inUnit_inUnit, mul_inv_cancel₀ hk.ne', inUnit_one] at hown
  exact {
    bottom_finite := hown.bottom_finite
    top_finite := hown.top_finite
    bottom_pos := hown.bottom_pos
    bottom_lt_top := hown.bottom_lt_top
    spectrum_nonneg := fun f => by
      have hnonneg := hown.spectrum_nonneg f
      cases f <;> exact hnonneg
    wavelengths_pos := hown.wavelengths_pos
    sunAngularRadius_nonneg := hown.sunAngularRadius_nonneg
    neg_one_le_muSMin := hown.neg_one_le_muSMin
    muSMin_lt_one := hown.muSMin_lt_one
    neg_one_lt_asymmetry := hown.neg_one_lt_asymmetry
    asymmetry_lt_one := hown.asymmetry_lt_one
    lengthUnit_pos := hown.lengthUnit_pos
    rayleighDensity_ne_nil := fun hnil => hown.rayleighDensity_ne_nil (by simp [hnil])
    mieDensity_ne_nil := fun hnil => hown.mieDensity_ne_nil (by simp [hnil]) }

/-- A change of the length unit succeeds for checked parameters whose layers are regular. -/
theorem toLengthUnit_of_layered (hp : p.validate = .ok ()) (hlayers : p.Layered) {unit : ℝ}
    (hunit : 0 < unit) : 0 < unit / p.lengthUnit ∧
      p.toLengthUnit unit = .ok (p.inUnit (unit / p.lengthUnit)) := by
  have hinv := (validate_eq_ok_iff p).mp hp
  have hown := zero_lt_lengthUnit hp
  have hk := div_pos hunit hown
  refine ⟨hk, ?_⟩
  have hprofile : ∀ f, (p.profile f).mapM (DensityLayer.scaledValues · (unit / p.lengthUnit)) =
      .ok ((p.profile f).map (·.inUnit (unit / p.lengthUnit))) := fun f =>
    listMapM_eq_ok fun layer hlayer => DensityLayer.scaledValues_eq_ok (hlayers f layer hlayer) hk
  have hlength : p.lengthUnit * (unit / p.lengthUnit) = unit := mul_div_cancel₀ unit hown.ne'
  have hpositive : ¬ unit ≤ 0.0 := by
    norm_num
    exact hunit
  have hnew : p.rescaledWith unit (unit / p.lengthUnit) (fun f => (p.profile f).map
      (·.inUnit (unit / p.lengthUnit))) = p.inUnit (unit / p.lengthUnit) := by
    rw [inUnit, hlength]
    rfl
  rw [toLengthUnit_eq_build hpositive (same_zero_of_ne hk.ne') hprofile, hnew]
  exact build_draft (hlayers.inUnit hk).readable ((validate_eq_ok_iff _).mpr (hinv.inUnit hk))

theorem toLengthUnit_eq_ok (hp : p.validate = .ok ()) (hregular : p.Regular) {unit : ℝ}
    (hunit : 0 < unit) : 0 < unit / p.lengthUnit ∧
      p.toLengthUnit unit = .ok (p.inUnit (unit / p.lengthUnit)) :=
  toLengthUnit_of_layered hp hregular.layered hunit

end Parameters

end Airlight
