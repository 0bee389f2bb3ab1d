import Mathlib.Data.List.Basic
import Airlight.Proofs.FloatOrder
import Airlight.Proofs.ParameterReading
import Airlight.Storage.Configuration

/-!
# Parameters that can be obtained

Parameters are made field by field, derived from others, described by controls, by a mapping or by a
file. All ways end in the same reading and the same check, so the parameters that can be obtained
are those that the readers and the check let pass. They need not be well formed: the radius of the
sun, the length unit and the width of a layer are only compared with zero in the negative, which
undefined numbers pass, and the other coefficients of layers are not looked at.

## Main definitions

* `Parameters.Obtained` — parameters that one of the ways gives.
* `Parameters.WellFormed` — what parameters promise.
* `Parameters.Settled` — parameters in which what is not checked is as it should be.
-/

namespace Airlight

open Scalar

namespace Field

theorem mem_all (f : Field) : f ∈ all := by
  cases f with
  | spectral f => cases f <;> decide
  | whitepoint => decide
  | profile f => cases f <;> decide
  | scalar f => cases f <;> decide

theorem ofName?_name (f : Field) : ofName? (f.name : Text) = some f := by
  cases f with
  | spectral f => cases f <;> decide
  | whitepoint => decide
  | profile f => cases f <;> decide
  | scalar f => cases f <;> decide

end Field

/-! ## Readers -/

namespace Parameters

section

variable {α : Type} [Scalar α] {p : Parameters α}

theorem isFinite_of_readNumbers {field : Field} {n : Nat} {v : Value α} {xs : Vector α n}
    (h : readNumbers field n v = .ok xs) : ∀ x ∈ xs, isFinite x = true := by
  unfold readNumbers at h
  split at h
  · cases h
  · cases h
  · next ys =>
    split_ifs at h with hlength hfinite
    cases h
    exact fun x hx => List.all_eq_true.mp hfinite x (by simpa using hx)

theorem width_of_readLayer {field : Field} {v : Value α} {layer : DensityLayer (Value α)}
    (h : readLayer field v = .ok layer) : DensityLayer.negativeWidth? layer.width = some false := by
  unfold readLayer at h
  split at h
  · split at h
    · cases h
    · split at h
      · cases h
      · cases h
      · next hwidth =>
        cases h
        exact hwidth
  · cases h

theorem width_of_readProfile {field : Field} {v : Value α} {layers : Profile (Value α)}
    (h : readProfile field v = .ok layers) :
    ∀ layer ∈ layers, DensityLayer.negativeWidth? layer.width = some false := by
  unfold readProfile at h
  split at h
  · cases h
  · intro layer hlayer
    obtain ⟨v, -, hv⟩ := exists_of_mem_listMapM h hlayer
    exact width_of_readLayer hv

/-- What has been read can be read again. -/
theorem readable_of_read {draft : Field → Value α} (h : read draft = .ok p) : p.Readable := by
  have hfields := readFrom_of_read h
  exact {
    spectrum_finite := fun f => isFinite_of_readNumbers (hfields.spectrum f)
    whitepoint_finite := isFinite_of_readNumbers hfields.whitepoint
    widths := fun f => width_of_readProfile (hfields.profile f) }

/-- What has been built has passed the readers and the check. -/
theorem checked_of_build {draft : Field → Value α} (h : build draft = .ok p) :
    p.Readable ∧ p.Invariants := by
  obtain ⟨q, hread, h⟩ := bind_eq_ok_iff.mp h
  obtain ⟨_, hvalid, h⟩ := bind_eq_ok_iff.mp h
  cases h
  exact ⟨readable_of_read hread, (validate_eq_ok_iff p).mp hvalid⟩

/-! ## Ways to parameters -/

variable [Inhabited α]

/-- Parameters that can be obtained: fields of the Earth or of other parameters are replaced by
name, the length unit of parameters is changed, or controls, a mapping or a file describe them. -/
inductive Obtained : Parameters α → Prop
  | made {p : Parameters α} (named : List (Text × Value α)) :
    earth.replaceNamed named = .ok p → Obtained p
  | replaced {p q : Parameters α} (named : List (Text × Value α)) :
    Obtained q → q.replaceNamed named = .ok p → Obtained p
  | converted {p q : Parameters α} (unit : Value α) :
    Obtained q → q.toLengthUnitValue unit = .ok p → Obtained p
  | controlled {p : Parameters α} (controls : ArtisticControls α) :
    controls.parameters = .ok p → Obtained p
  | configured {p : Parameters α} (config : Value α) : ofValue config = .ok p → Obtained p
  | loaded {p : Parameters α} (files : Storage.FileStore α) (path : Text)
    (read : Storage.DocumentReader α) :
    Storage.loadParameters files path read = .ok p → Obtained p

/-- Parameters that are computed have been built. -/
def Builds (r : Except (Failure α) (Parameters α)) : Prop :=
  ∀ p, r = .ok p → ∃ draft, build draft = .ok p

section

omit [Inhabited α]

theorem builds_build (draft : Field → Value α) : Builds (build draft) := fun _ h => ⟨draft, h⟩

theorem builds_error (failure : Failure α) : Builds (.error failure : Except _ (Parameters α)) :=
  fun _ h => nomatch h

theorem Builds.bind {β : Type} {x : Except (Failure α) β}
    {f : β → Except (Failure α) (Parameters α)} (h : ∀ b, Builds (f b)) : Builds (x >>= f) := by
  intro p hp
  obtain ⟨b, -, hb⟩ := bind_eq_ok_iff.mp hp
  exact h b p hb

theorem builds_replaceNamed (q : Parameters α) (named : List (Text × Value α)) :
    Builds (q.replaceNamed named) := by
  unfold replaceNamed
  split
  · exact builds_error _
  · exact builds_build _

theorem builds_toLengthUnit (q : Parameters α) (unit : α) : Builds (q.toLengthUnit unit) := by
  unfold toLengthUnit
  split
  · exact builds_error _
  · exact .bind fun changes => builds_build _

theorem builds_toLengthUnitValue (q : Parameters α) (unit : Value α) :
    Builds (q.toLengthUnitValue unit) := by
  refine .bind fun below => ?_
  split
  · exact builds_error _
  · exact .bind fun x => builds_toLengthUnit q x

theorem builds_ofValue (config : Value α) : Builds (ofValue config) := by
  unfold ofValue
  split
  · refine .bind fun unknown => ?_
    split
    · exact builds_error _
    · exact .bind fun unit => .bind fun defaults => builds_replaceNamed defaults _
  · exact builds_error _

theorem builds_loadParameters (files : Storage.FileStore α) (path : Text)
    (read : Storage.DocumentReader α) : Builds (Storage.loadParameters files path read) := by
  unfold Storage.loadParameters
  split
  · exact builds_error _
  · exact builds_error _
  · split
    · exact builds_error _
    · exact builds_error _
    · exact builds_ofValue _
    · exact builds_ofValue _

end

theorem builds_controls (controls : ArtisticControls α) : Builds controls.parameters := by
  simp only [ArtisticControls.parameters]
  refine .bind fun beta => .bind fun mie => ?_
  split <;> refine .bind fun withOzone => ?_ <;> split <;>
    exact .bind fun absorption => .bind fun rayleighProfile => .bind fun rayleigh =>
      .bind fun mieProfile => .bind fun asymmetry => .bind fun albedo => builds_build _

/-- All ways to parameters end in the same reading and the same check. -/
theorem Obtained.exists_build (h : p.Obtained) : ∃ draft, build draft = .ok p := by
  cases h with
  | made named h => exact builds_replaceNamed _ named p h
  | replaced named _ h => exact builds_replaceNamed _ named p h
  | converted unit _ h => exact builds_toLengthUnitValue _ unit p h
  | controlled controls h => exact builds_controls controls p h
  | configured config h => exact builds_ofValue config p h
  | loaded files path read h => exact builds_loadParameters files path read p h

/-- Fields of parameters by name. -/
def named (p : Parameters α) (fields : List Field) : List (Text × Value α) :=
  fields.map fun f => (f.name, p.draft f)

omit [Scalar α] [Inhabited α] in
/-- Fields are found by their names. -/
theorem fieldsOf?_names (fields : List (Field × Value α)) :
    fieldsOf? (fields.map fun entry => (entry.1.name, entry.2)) = some fields := by
  induction fields with
  | nil => rfl
  | cons entry fields ih =>
    unfold fieldsOf? at ih ⊢
    simp only [List.map_cons, List.mapM_cons, Field.ofName?_name, Option.map_some, ih,
      Option.bind_eq_bind, Option.bind_some, Option.pure_def]

omit [Scalar α] [Inhabited α] in
theorem fieldsOf?_named (p : Parameters α) (fields : List Field) :
    fieldsOf? (p.named fields) = some (fields.map fun f => (f, p.draft f)) := by
  rw [← fieldsOf?_names, named, List.map_map]
  rfl

omit [Inhabited α] in
/-- Parameters that pass the readers and the check are given by naming every field, whatever
parameters the fields replace. -/
theorem replaceNamed_named (q : Parameters α) (hp : p.Readable) (hvalid : p.validate = .ok ()) :
    q.replaceNamed (p.named Field.all) = .ok p := by
  have hdraft : override q.draft (Field.all.map fun f => (f, p.draft f)) = p.draft := by
    funext f
    rw [override, List.lookup_graph _ f.mem_all, Option.getD_some]
  simp only [replaceNamed, fieldsOf?_named, hdraft, build_draft hp hvalid]

/-- The parameters that can be obtained are those that the readers and the check let pass. -/
theorem obtained_iff : p.Obtained ↔ p.Readable ∧ p.Invariants := by
  constructor
  · intro h
    obtain ⟨draft, hbuild⟩ := h.exists_build
    exact checked_of_build hbuild
  · rintro ⟨hread, hinvariants⟩
    exact .made _ (replaceNamed_named earth hread ((validate_eq_ok_iff p).mpr hinvariants))

end

end Parameters

/-! ## Well-formed parameters -/

namespace Value

/-- A value is a number, and no text or anything else. -/
def isNumeric {α : Type} : Value α → Bool
  | real _ | integer _ | flag _ => true
  | _ => false

/-- A value is a number that is at least zero. -/
def IsNonneg : Value Float → Prop
  | real x => 0.0 ≤ x
  | integer n => 0 ≤ n
  | flag _ => True
  | _ => False

/-- A value is not the undefined number. -/
def IsDefined : Value Float → Prop
  | real x => x.isNaN = false
  | _ => True

/-- A width that is accepted is at least zero if it is defined. -/
theorem isNonneg_iff {v : Value Float} :
    v.IsNonneg ↔ DensityLayer.negativeWidth? v = some false ∧ v.IsDefined := by
  cases v with
  | real x => simp [IsNonneg, IsDefined, DensityLayer.negativeWidth?, Float.nonneg_iff, and_comm]
  | _ => simp [IsNonneg, IsDefined, DensityLayer.negativeWidth?]

theorem IsNonneg.isNumeric {v : Value Float} (h : v.IsNonneg) : v.isNumeric = true := by
  cases v <;> first | rfl | cases h

end Value

namespace DensityLayer

/-- The coefficients from which a layer computes its density. -/
def coefficients (layer : DensityLayer (Value Float)) : List (Value Float) :=
  [layer.expTerm, layer.expScale, layer.linearTerm, layer.constantTerm]

/-- All five fields of a layer are numbers, and the width is at least zero. -/
structure WellFormed (layer : DensityLayer (Value Float)) : Prop where
  numeric : ∀ v ∈ layer.width :: layer.coefficients, v.isNumeric = true
  width_nonneg : layer.width.IsNonneg

/-- The coefficients of a layer, which are not checked, are numbers, and its width is defined. -/
structure Settled (layer : DensityLayer (Value Float)) : Prop where
  numeric : ∀ v ∈ layer.coefficients, v.isNumeric = true
  width_defined : layer.width.IsDefined

theorem wellFormed_iff {layer : DensityLayer (Value Float)} :
    layer.WellFormed ↔ negativeWidth? layer.width = some false ∧ layer.Settled := by
  constructor
  · rintro ⟨hnumeric, hwidth⟩
    obtain ⟨haccepted, hdefined⟩ := Value.isNonneg_iff.mp hwidth
    exact ⟨haccepted, fun v hv => hnumeric v (List.mem_cons_of_mem _ hv), hdefined⟩
  · rintro ⟨haccepted, hnumeric, hdefined⟩
    have hwidth := Value.isNonneg_iff.mpr ⟨haccepted, hdefined⟩
    exact ⟨List.forall_mem_cons.mpr ⟨hwidth.isNumeric, hnumeric⟩, hwidth⟩

end DensityLayer

namespace Parameters

/-- What parameters promise: a proper shell, finite spectra that are nowhere negative, positive
wavelengths, a finite white point, cosines and an asymmetry in their ranges, a positive length unit,
scattering layers, and layers made of numbers. -/
structure WellFormed (p : Parameters Float) : Prop where
  bottom_finite : p.bottom.isFinite = true
  top_finite : p.top.isFinite = true
  bottom_pos : 0.0 < p.bottom
  bottom_lt_top : p.bottom < p.top
  spectrum_finite : ∀ f, ∀ x ∈ p.spectrum f, x.isFinite = true
  spectrum_nonneg : ∀ f, ∀ x ∈ p.spectrum f, 0.0 ≤ x
  wavelengths_pos : ∀ x ∈ p.wavelengths, 0.0 < x
  whitepoint_finite : ∀ x ∈ p.whitepoint, x.isFinite = true
  sunAngularRadius_nonneg : 0.0 ≤ p.sunAngularRadius
  neg_one_le_muSMin : -1.0 ≤ p.muSMin
  muSMin_lt_one : p.muSMin < 1.0
  neg_one_lt_asymmetry : -1.0 < p.miePhaseAsymmetry
  asymmetry_lt_one : p.miePhaseAsymmetry < 1.0
  lengthUnit_pos : 0.0 < p.lengthUnit
  rayleighDensity_ne_nil : p.rayleighDensity ≠ []
  mieDensity_ne_nil : p.mieDensity ≠ []
  layer : ∀ f, ∀ layer ∈ p.profile f, layer.WellFormed

/-- What neither the readers nor the check ask for. -/
structure Settled (p : Parameters Float) : Prop where
  sunAngularRadius_defined : p.sunAngularRadius.isNaN = false
  lengthUnit_defined : p.lengthUnit.isNaN = false
  layer : ∀ f, ∀ layer ∈ p.profile f, layer.Settled

/-- Well-formed parameters are exactly those that can be obtained and in which the radius of the
sun, the length unit and the widths are defined and all coefficients of layers are numbers. -/
theorem wellFormed_iff_obtained (p : Parameters Float) : p.WellFormed ↔ p.Obtained ∧ p.Settled := by
  rw [obtained_iff]
  constructor
  · intro h
    refine ⟨⟨?_, ?_⟩, ?_⟩
    · exact {
        spectrum_finite := fun f x hx => (Float.isFinite_eq x).trans (h.spectrum_finite f x hx)
        whitepoint_finite := fun x hx => (Float.isFinite_eq x).trans (h.whitepoint_finite x hx)
        widths := fun f layer hlayer =>
          (DensityLayer.wellFormed_iff.mp (h.layer f layer hlayer)).1 }
    · exact {
        bottom_finite := (Float.isFinite_eq _).trans h.bottom_finite
        top_finite := (Float.isFinite_eq _).trans h.top_finite
        bottom_pos := h.bottom_pos
        bottom_lt_top := h.bottom_lt_top
        spectrum_nonneg := fun f x hx => (Float.nonneg_iff.mp (h.spectrum_nonneg f x hx)).2
        wavelengths_pos := fun x hx => (Float.pos_iff.mp (h.wavelengths_pos x hx)).2
        sunAngularRadius_nonneg := (Float.nonneg_iff.mp h.sunAngularRadius_nonneg).2
        neg_one_le_muSMin := h.neg_one_le_muSMin
        muSMin_lt_one := h.muSMin_lt_one
        neg_one_lt_asymmetry := h.neg_one_lt_asymmetry
        asymmetry_lt_one := h.asymmetry_lt_one
        lengthUnit_pos := (Float.pos_iff.mp h.lengthUnit_pos).2
        rayleighDensity_ne_nil := h.rayleighDensity_ne_nil
        mieDensity_ne_nil := h.mieDensity_ne_nil }
    · exact {
        sunAngularRadius_defined := (Float.nonneg_iff.mp h.sunAngularRadius_nonneg).1
        lengthUnit_defined := (Float.pos_iff.mp h.lengthUnit_pos).1
        layer := fun f layer hlayer => (DensityLayer.wellFormed_iff.mp (h.layer f layer hlayer)).2 }
  · rintro ⟨⟨hread, hinvariants⟩, hsettled⟩
    have hfinite : ∀ f, ∀ x ∈ p.spectrum f, x.isFinite = true := fun f x hx =>
      (Float.isFinite_eq x).symm.trans (hread.spectrum_finite f x hx)
    have hdefined : ∀ f, ∀ x ∈ p.spectrum f, x.isNaN = false := fun f x hx =>
      Float.isNaN_of_isFinite (hfinite f x hx)
    exact {
      bottom_finite := (Float.isFinite_eq _).symm.trans hinvariants.bottom_finite
      top_finite := (Float.isFinite_eq _).symm.trans hinvariants.top_finite
      bottom_pos := hinvariants.bottom_pos
      bottom_lt_top := hinvariants.bottom_lt_top
      spectrum_finite := hfinite
      spectrum_nonneg := fun f x hx =>
        Float.nonneg_iff.mpr ⟨hdefined f x hx, hinvariants.spectrum_nonneg f x hx⟩
      wavelengths_pos := fun x hx =>
        Float.pos_iff.mpr ⟨hdefined .wavelengths x hx, hinvariants.wavelengths_pos x hx⟩
      whitepoint_finite := fun x hx =>
        (Float.isFinite_eq x).symm.trans (hread.whitepoint_finite x hx)
      sunAngularRadius_nonneg := Float.nonneg_iff.mpr
        ⟨hsettled.sunAngularRadius_defined, hinvariants.sunAngularRadius_nonneg⟩
      neg_one_le_muSMin := hinvariants.neg_one_le_muSMin
      muSMin_lt_one := hinvariants.muSMin_lt_one
      neg_one_lt_asymmetry := hinvariants.neg_one_lt_asymmetry
      asymmetry_lt_one := hinvariants.asymmetry_lt_one
      lengthUnit_pos := Float.pos_iff.mpr
        ⟨hsettled.lengthUnit_defined, hinvariants.lengthUnit_pos⟩
      rayleighDensity_ne_nil := hinvariants.rayleighDensity_ne_nil
      mieDensity_ne_nil := hinvariants.mieDensity_ne_nil
      layer := fun f layer hlayer => DensityLayer.wellFormed_iff.mpr
        ⟨hread.widths f layer hlayer, hsettled.layer f layer hlayer⟩ }

/-! ## Parameters that are accepted -/

/-- Parameters in which all that is not checked is as it should not be. -/
def unsettled : Parameters Float where
  bottom := 1.0
  top := 2.0
  muSMin := 0.0
  wavelengths := Spectrum.constant 1.0
  solarIrradiance := Spectrum.constant 1.0
  sunAngularRadius := 0.0 / 0.0
  rayleighDensity := [⟨.real (0.0 / 0.0), .text "1e-4", .null, .real 0.0, .real 0.0⟩]
  rayleighScattering := Spectrum.constant 1.0
  mieDensity := [DensityLayer.empty.toValues]
  mieScattering := Spectrum.constant 1.0
  mieExtinction := Spectrum.constant 1.0
  miePhaseAsymmetry := 0.0
  absorptionDensity := []
  absorptionExtinction := Spectrum.constant 1.0
  groundAlbedo := Spectrum.constant 1.0
  whitepoint := Vector.replicate 3 1.0
  lengthUnit := 0.0 / 0.0

theorem readable_unsettled : unsettled.Readable where
  spectrum_finite f := by cases f <;> decide +kernel
  whitepoint_finite := by decide +kernel
  widths f := by cases f <;> decide +kernel

theorem invariants_unsettled : unsettled.Invariants where
  bottom_finite := by decide +kernel
  top_finite := by decide +kernel
  bottom_pos := by decide +kernel
  bottom_lt_top := by decide +kernel
  spectrum_nonneg f := by cases f <;> decide +kernel
  wavelengths_pos := by decide +kernel
  sunAngularRadius_nonneg := by decide +kernel
  neg_one_le_muSMin := by decide +kernel
  muSMin_lt_one := by decide +kernel
  neg_one_lt_asymmetry := by decide +kernel
  asymmetry_lt_one := by decide +kernel
  lengthUnit_pos := by decide +kernel
  rayleighDensity_ne_nil := by decide +kernel
  mieDensity_ne_nil := by decide +kernel

/-- Fields by name can have an undefined radius of the sun, an undefined length unit and a layer of
undefined width with a text and nothing at all for coefficients. -/
theorem unsettled_accepted :
    earth.replaceNamed (unsettled.named Field.all) = .ok unsettled ∧ ¬ unsettled.WellFormed ∧
      ¬ 0.0 ≤ unsettled.sunAngularRadius ∧ ¬ 0.0 < unsettled.lengthUnit ∧
      ∃ layer ∈ unsettled.rayleighDensity, ¬ layer.width.IsNonneg ∧
        layer.expTerm.isNumeric = false ∧ layer.expScale.isNumeric = false := by
  have hundefined : ¬ (0.0 : Float) ≤ 0.0 / 0.0 := by decide +kernel
  have hunit : ¬ 0.0 < unsettled.lengthUnit := by decide +kernel
  exact ⟨replaceNamed_named earth readable_unsettled
    ((validate_eq_ok_iff _).mpr invariants_unsettled),
    fun h => hundefined h.sunAngularRadius_nonneg, hundefined, hunit, _, List.mem_cons_self,
    hundefined, rfl, rfl⟩

end Parameters

end Airlight
