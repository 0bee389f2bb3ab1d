import Airlight.Proofs.NumericValues
import Airlight.Proofs.ReadingFailures

/-!
# Configurations in another length unit

A configuration may give any of the fields, in a length unit of its own. The fields that it leaves
out are those of the Earth in the same unit. So a configuration that is rewritten for another unit
gives the same atmosphere in that unit.

## Main definitions

* `Field.Holds` — numbers for a field, or layers with numbers as coefficients for a profile.
* `Field.valueInUnit` — the value of a field in another length unit.
* `Parameters.configuration` — the configuration that gives some fields.
-/

namespace Airlight

open Scalar

variable {u : ℝ}

/-! ## Layers -/

namespace DensityLayer

/-- The value of a coefficient of a layer in a length unit that is larger by a factor. -/
noncomputable def coefficientInUnit (u : ℝ) (key v : Value ℝ) : Value ℝ :=
  match key with
  | .text name =>
    if name = "width" then v.mapNumbers (· / u)
    else if name = "exp_scale" ∨ name = "linear_term" then v.mapNumbers (· * u)
    else v
  | _ => v

/-- The coefficients of a layer in a length unit that is larger by a factor. -/
noncomputable def entriesInUnit (u : ℝ) (entries : List (Value ℝ × Value ℝ)) :
    List (Value ℝ × Value ℝ) :=
  entries.map fun entry => (entry.1, coefficientInUnit u entry.1 entry.2)

end DensityLayer

theorem Value.lookup?_map {α : Type} (g : Value α → Value α → Value α) (key : Text)
    (entries : List (Value α × Value α)) :
    lookup? key (entries.map fun entry => (entry.1, g entry.1 entry.2)) =
      (lookup? key entries).map (g (.text key)) := by
  induction entries with
  | nil => rfl
  | cons entry entries ih =>
    obtain ⟨k, v⟩ := entry
    cases k with
    | text name =>
      rw [List.map_cons, lookup?, lookup?]
      split_ifs with hname
      · rw [hname, Option.map_some]
      · exact ih
    | _ => exact ih

theorem Value.mem_of_lookup? {α : Type} {key : Text} {entries : List (Value α × Value α)}
    {v : Value α} (h : lookup? key entries = some v) : ∃ k, (k, v) ∈ entries := by
  induction entries with
  | nil => cases h
  | cons entry entries ih =>
    obtain ⟨k, own⟩ := entry
    have hrest : lookup? key entries = some v → ∃ k', (k', v) ∈ (k, own) :: entries := fun h =>
      (ih h).imp fun _ => List.mem_cons_of_mem _
    cases k with
    | text name =>
      rw [lookup?] at h
      split_ifs at h with hname
      · cases h
        exact ⟨_, List.mem_cons_self⟩
      · exact hrest h
    | _ => exact hrest h

namespace DensityLayer

variable {entries : List (Value ℝ × Value ℝ)} {layer : DensityLayer (Value ℝ)}

/-- A coefficient that may be absent is a number. -/
theorem isNumber_getD (h : ∀ entry ∈ entries, entry.2.IsNumber) (key : Text) :
    ((Value.lookup? key entries).getD (.real 0.0)).IsNumber := by
  cases hv : Value.lookup? key entries with
  | none => exact Value.isNumber_real _
  | some v =>
    obtain ⟨k, hmem⟩ := Value.mem_of_lookup? hv
    exact h _ hmem

theorem getD_mapNumbers {f : ℝ → ℝ} {o : Option (Value ℝ)} (hf : f 0.0 = 0.0)
    (h : (o.getD (.real 0.0)).IsNumber) :
    (o.map (Value.mapNumbers f)).getD (.real 0.0) = .real (f (o.getD (.real 0.0)).amount) := by
  cases o with
  | none => exact congrArg Value.real hf.symm
  | some v => exact Value.mapNumbers_of_isNumber h

/-- The layer that is read from coefficients in another unit is the layer in that unit. -/
theorem ofEntries?_entriesInUnit (h : ∀ entry ∈ entries, entry.2.IsNumber) :
    ofEntries? (entriesInUnit u entries) = (ofEntries? entries).map (·.inUnit u) := by
  have hnumber := isNumber_getD h
  have hdivided : ∀ name : Text, ((Value.lookup? name entries).map
      (Value.mapNumbers (· / u))).getD (.real 0.0) =
        .real (((Value.lookup? name entries).getD (.real 0.0)).amount / u) := fun name =>
    getD_mapNumbers (by norm_num) (hnumber name)
  have hmultiplied : ∀ name : Text, ((Value.lookup? name entries).map
      (Value.mapNumbers (· * u))).getD (.real 0.0) =
        .real (((Value.lookup? name entries).getD (.real 0.0)).amount * u) := fun name =>
    getD_mapNumbers (by norm_num) (hnumber name)
  have hwidth : coefficientInUnit u (.text "width") = Value.mapNumbers (· / u) := rfl
  have hexpTerm : coefficientInUnit u (.text "exp_term") = id := rfl
  have hexpScale : coefficientInUnit u (.text "exp_scale") = Value.mapNumbers (· * u) := rfl
  have hlinearTerm : coefficientInUnit u (.text "linear_term") = Value.mapNumbers (· * u) := rfl
  have hconstantTerm : coefficientInUnit u (.text "constant_term") = id := rfl
  -- whether a key is known does not depend on its value
  have hall : ∀ known : Value ℝ × Value ℝ → Bool, (∀ k v w, known (k, v) = known (k, w)) →
      (entriesInUnit u entries).all known = entries.all known := by
    intro known hknown
    rw [entriesInUnit, List.all_map]
    exact congrArg entries.all (funext fun entry => hknown _ _ _)
  unfold ofEntries?
  dsimp only
  rw [hall _ fun k _ _ => by cases k <;> rfl]
  simp only [entriesInUnit, Value.lookup?_map, hwidth, hexpTerm, hexpScale, hlinearTerm,
    hconstantTerm, hdivided, hmultiplied, Option.map_id]
  split_ifs <;> rfl

theorem numberCoefficients_of_ofEntries? (h : ∀ entry ∈ entries, entry.2.IsNumber)
    (hlayer : ofEntries? entries = some layer) :
    layer.NumberCoefficients ∧ layer.width.IsNumber := by
  have hnumber := isNumber_getD h
  unfold ofEntries? at hlayer
  dsimp only at hlayer
  split_ifs at hlayer
  cases hlayer
  exact ⟨⟨hnumber _, hnumber _, hnumber _, hnumber _⟩, hnumber _⟩

theorem negativeWidth?_div (hu : 0 < u) {w : Value ℝ} (h : w.IsNumber) :
    negativeWidth? (.real (w.amount / u)) = negativeWidth? w := by
  have hreal : negativeWidth? (.real (w.amount / u)) = some (decide (w.amount < 0)) := by
    have hsign : w.amount / u < 0 ↔ w.amount < 0 := by rw [div_lt_iff₀ hu, zero_mul]
    norm_num [negativeWidth?, hsign]
  rw [hreal]
  obtain ⟨x, hx⟩ := h
  cases w with
  | real x => exact congrArg some (decide_eq_decide.mpr (by norm_num [Value.amount]))
  | integer n => norm_num [negativeWidth?, Value.amount]
  | flag b => cases b <;> norm_num [negativeWidth?, Value.amount]
  | _ => cases hx

theorem exists_negativeWidth? {w : Value ℝ} (h : w.IsNumber) :
    ∃ b, negativeWidth? w = some b := by
  obtain ⟨x, hx⟩ := h
  cases w <;> first | exact ⟨_, rfl⟩ | cases hx

end DensityLayer

namespace Parameters

variable {entries : List (Value ℝ × Value ℝ)} {layer : DensityLayer (Value ℝ)} {field : Field}

/-- A layer in another unit is read exactly if the layer itself is. -/
theorem follows_readLayer (field : Field) (hu : 0 < u) (h : ∀ entry ∈ entries, entry.2.IsNumber) :
    Follows (readLayer field (.mapping (DensityLayer.entriesInUnit u entries))) (·.inUnit u)
      (readLayer field (.mapping entries)) := by
  simp only [readLayer, Value.opened, DensityLayer.ofEntries?_entriesInUnit h]
  cases hlayer : DensityLayer.ofEntries? entries with
  | none => exact follows_of_error rfl rfl
  | some layer =>
    have hnumber := (DensityLayer.numberCoefficients_of_ofEntries? h hlayer).2
    have hwidth : DensityLayer.negativeWidth? (layer.inUnit u).width =
        DensityLayer.negativeWidth? layer.width := DensityLayer.negativeWidth?_div hu hnumber
    simp only [Option.map_some, hwidth]
    obtain ⟨b, hb⟩ := DensityLayer.exists_negativeWidth? hnumber
    rw [hb]
    cases b with
    | true => exact follows_of_error rfl rfl
    | false => exact follows_of_ok rfl rfl

/-- Layers with numbers as coefficients are regular if they can be read. -/
theorem regular_of_readLayer (h : ∀ entry ∈ entries, entry.2.IsNumber)
    (hlayer : readLayer field (.mapping entries) = .ok layer) : layer.Regular := by
  have hwidth := width_of_readLayer hlayer
  simp only [readLayer, Value.opened] at hlayer
  cases hentries : DensityLayer.ofEntries? entries with
  | none =>
    rw [hentries] at hlayer
    cases hlayer
  | some own =>
    simp only [hentries] at hlayer
    have hown : own = layer := by
      split at hlayer <;> cases hlayer
      rfl
    subst hown
    exact ⟨(DensityLayer.numberCoefficients_of_ofEntries? h hentries).1, hwidth⟩

end Parameters

/-! ## Fields -/

/-- A spectral field in a length unit that is larger by a factor. -/
noncomputable def SpectralField.inUnit (u : ℝ) : SpectralField → Spectrum ℝ → Spectrum ℝ
  | rayleighScattering | mieScattering | mieExtinction | absorptionExtinction => fun x =>
    x.map (· * u)
  | wavelengths | solarIrradiance | groundAlbedo => id

/-- A number in a length unit that is larger by a factor. -/
noncomputable def ScalarField.inUnit (u : ℝ) : ScalarField → ℝ → ℝ
  | bottomRadius | topRadius => (· / u)
  | lengthUnit => (· * u)
  | sunAngularRadius | miePhaseAsymmetry | muSMin => id

namespace Field

/-- Numbers for a field, or a list of layers with numbers as coefficients for a profile. -/
def Holds : Field → Value ℝ → Prop
  | profile _, v => ∃ layers : List (List (Value ℝ × Value ℝ)), v = .list (layers.map .mapping) ∧
      ∀ entries ∈ layers, ∀ entry ∈ entries, entry.2.IsNumber
  | spectral _, v | whitepoint, v | scalar _, v => v.IsNumeric

/-- The value of a layer in a length unit that is larger by a factor. -/
noncomputable def layerInUnit (u : ℝ) : Value ℝ → Value ℝ
  | .mapping entries => .mapping (DensityLayer.entriesInUnit u entries)
  | v => v

/-- The value of a field in a length unit that is larger by a factor. -/
noncomputable def valueInUnit (u : ℝ) : Field → Value ℝ → Value ℝ
  | spectral .rayleighScattering, v | spectral .mieScattering, v | spectral .mieExtinction, v
  | spectral .absorptionExtinction, v => v.mapNumbers (· * u)
  | profile _, .list layers => .list (layers.map (layerInUnit u))
  | scalar .bottomRadius, v | scalar .topRadius, v => v.mapNumbers (· / u)
  | _, v => v

end Field

namespace Parameters

variable {v : Value ℝ} {p : Parameters ℝ}

/-- Replaced numbers are read exactly if the numbers themselves are. -/
theorem follows_readNumbers (field : Field) (n : Nat) (h : v.IsNumeric) (f : ℝ → ℝ) :
    Follows (readNumbers field n (v.mapNumbers f)) (Vector.map f) (readNumbers field n v) := by
  unfold readNumbers
  rw [h.numbers_mapNumbers]
  cases v.numbers with
  | error reason => cases reason <;> exact follows_of_error rfl rfl
  | ok xs =>
    have hfinite : ∀ ys : List ℝ, ys.all isFinite = true := by simp
    by_cases hlength : xs.length = n
    · have hlength' : (xs.map f).length = n := by rw [List.length_map, hlength]
      simp only [Except.map, dif_pos hlength, dif_pos hlength', if_pos (hfinite _)]
      exact follows_of_ok rfl (by simp)
    · have hlength' : (xs.map f).length ≠ n := by rwa [List.length_map]
      simp only [Except.map, dif_neg hlength, dif_neg hlength']
      exact follows_of_error rfl rfl

theorem readNumber_list (field : Field) (items : List (Value ℝ)) :
    ∃ failure, readNumber field (.list items) = .error failure := by
  unfold readNumber
  simp only [Value.number, Value.operand]
  split_ifs <;> exact ⟨_, rfl⟩

/-- A replaced number is read exactly if the number itself is. -/
theorem follows_readNumber (field : Field) (h : v.IsNumeric) (f : ℝ → ℝ) :
    Follows (readNumber field (v.mapNumbers f)) f (readNumber field v) := by
  cases h with
  | number h =>
    rw [Value.mapNumbers_of_isNumber h]
    refine follows_of_ok (a := v.amount) ?_ rfl
    rw [readNumber, h.number_eq]
  | list =>
    rw [Value.mapNumbers_list]
    obtain ⟨failure, hown⟩ := readNumber_list field _
    obtain ⟨failure', hreplaced⟩ := readNumber_list field _
    exact follows_of_error hown hreplaced

theorem spectrum_inUnit_eq (p : Parameters ℝ) (u : ℝ) (f : SpectralField) :
    (p.inUnit u).spectrum f = f.inUnit u (p.spectrum f) := by
  cases f <;> rfl

theorem scalar_inUnit (p : Parameters ℝ) (u : ℝ) (f : ScalarField) :
    (p.inUnit u).scalar f = f.inUnit u (p.scalar f) := by
  cases f <;> rfl

/-- The numbers of a field in another unit are read exactly if those of the field are. -/
theorem follows_spectrum (f : SpectralField) (h : v.IsNumeric) :
    Follows (readNumbers (.spectral f) 4 ((Field.spectral f).valueInUnit u v)) (f.inUnit u)
      (readNumbers (.spectral f) 4 v) := by
  have hscaled := follows_readNumbers (.spectral f) 4 h (· * u)
  cases f <;> first | exact hscaled | exact follows_self _

/-- The number of a field in another unit is read exactly if that of the field is. -/
theorem follows_scalar {f : ScalarField} (hf : f ≠ .lengthUnit) (h : v.IsNumeric) :
    Follows (readNumber (.scalar f) ((Field.scalar f).valueInUnit u v)) (f.inUnit u)
      (readNumber (.scalar f) v) := by
  have hscaled := follows_readNumber (.scalar f) h (· / u)
  cases f with
  | lengthUnit => exact absurd rfl hf
  | bottomRadius | topRadius => exact hscaled
  | sunAngularRadius | miePhaseAsymmetry | muSMin => exact follows_self _

/-- The layers of a profile in another unit are read exactly if those of the profile are. -/
theorem follows_profile (hu : 0 < u) (f : ProfileField) (h : (Field.profile f).Holds v) :
    Follows (readProfile (.profile f) ((Field.profile f).valueInUnit u v)) (List.map (·.inUnit u))
      (readProfile (.profile f) v) := by
  obtain ⟨layers, rfl, hlayers⟩ := h
  refine Follows.listMapM fun item hitem => ?_
  obtain ⟨entries, hentries, rfl⟩ := List.mem_map.mp hitem
  exact follows_readLayer _ hu (hlayers entries hentries)

theorem regular_of_readProfile {f : ProfileField} {layers : Profile (Value ℝ)}
    (h : (Field.profile f).Holds v) (hlayers : readProfile (.profile f) v = .ok layers) :
    ∀ layer ∈ layers, layer.Regular := by
  obtain ⟨given, rfl, hgiven⟩ := h
  intro layer hlayer
  obtain ⟨item, hitem, hread⟩ := exists_of_mem_listMapM hlayers hlayer
  obtain ⟨entries, hentries, rfl⟩ := List.mem_map.mp hitem
  exact regular_of_readLayer (hgiven entries hentries) hread

/-! ## Drafts -/

/-- Each field of a draft follows that of another draft, in a length unit that is larger by a
factor. -/
structure DraftInUnit (u : ℝ) (draft draft' : Field → Value ℝ) : Prop where
  spectrum : ∀ f, Follows (readNumbers (.spectral f) 4 (draft' (.spectral f))) (f.inUnit u)
    (readNumbers (.spectral f) 4 (draft (.spectral f)))
  whitepoint : Follows (readNumbers .whitepoint 3 (draft' .whitepoint)) id
    (readNumbers .whitepoint 3 (draft .whitepoint))
  profile : ∀ f, Follows (readProfile (.profile f) (draft' (.profile f))) (List.map (·.inUnit u))
    (readProfile (.profile f) (draft (.profile f)))
  scalar : ∀ f, Follows (readNumber (.scalar f) (draft' (.scalar f))) (f.inUnit u)
    (readNumber (.scalar f) (draft (.scalar f)))

/-- A draft can be read if each field can. -/
theorem exists_read {draft : Field → Value ℝ}
    (hspectrum : ∀ f, ∃ x, readNumbers (.spectral f) 4 (draft (.spectral f)) = .ok x)
    (hwhitepoint : ∃ x, readNumbers .whitepoint 3 (draft .whitepoint) = .ok x)
    (hprofile : ∀ f, ∃ layers, readProfile (.profile f) (draft (.profile f)) = .ok layers)
    (hscalar : ∀ f, ∃ x, readNumber (.scalar f) (draft (.scalar f)) = .ok x) :
    ∃ p, Parameters.read draft = .ok p := by
  choose spectrum hspectrum using hspectrum
  obtain ⟨whitepoint, hwhitepoint⟩ := hwhitepoint
  choose profile hprofile using hprofile
  choose scalar hscalar using hscalar
  let p : Parameters ℝ := {
    bottom := scalar .bottomRadius
    top := scalar .topRadius
    muSMin := scalar .muSMin
    wavelengths := spectrum .wavelengths
    solarIrradiance := spectrum .solarIrradiance
    sunAngularRadius := scalar .sunAngularRadius
    rayleighDensity := profile .rayleighDensity
    rayleighScattering := spectrum .rayleighScattering
    mieDensity := profile .mieDensity
    mieScattering := spectrum .mieScattering
    mieExtinction := spectrum .mieExtinction
    miePhaseAsymmetry := scalar .miePhaseAsymmetry
    absorptionDensity := profile .absorptionDensity
    absorptionExtinction := spectrum .absorptionExtinction
    groundAlbedo := spectrum .groundAlbedo
    whitepoint
    lengthUnit := scalar .lengthUnit }
  have hp : p.ReadFrom draft := {
    spectrum := fun f => by cases f <;> exact hspectrum _
    whitepoint := hwhitepoint
    profile := fun f => by cases f <;> exact hprofile _
    scalar := fun f => by cases f <;> exact hscalar _ }
  exact ⟨p, hp.read_eq_ok⟩

/-- If each field follows, then the parameters do. -/
theorem DraftInUnit.read {draft draft' : Field → Value ℝ} (h : DraftInUnit u draft draft') :
    Follows (read draft') (·.inUnit u) (read draft) := by
  constructor
  · intro p hp
    have hfields := readFrom_of_read hp
    exact ReadFrom.read_eq_ok {
      spectrum := fun f => spectrum_inUnit_eq p u f ▸ (h.spectrum f).1 _ (hfields.spectrum f)
      whitepoint := h.whitepoint.1 _ hfields.whitepoint
      profile := fun f => profile_inUnit p u f ▸ (h.profile f).1 _ (hfields.profile f)
      scalar := fun f => scalar_inUnit p u f ▸ (h.scalar f).1 _ (hfields.scalar f) }
  · intro q hq
    have hfields := readFrom_of_read hq
    exact exists_read (fun f => (h.spectrum f).2 _ (hfields.spectrum f))
      (h.whitepoint.2 _ hfields.whitepoint) (fun f => (h.profile f).2 _ (hfields.profile f))
      fun f => (h.scalar f).2 _ (hfields.scalar f)

/-- What is built from a draft in another unit are the parameters in that unit. -/
theorem DraftInUnit.build {draft draft' : Field → Value ℝ} (h : DraftInUnit u draft draft')
    (hu : 0 < u) : Follows (build draft') (·.inUnit u) (build draft) := by
  constructor
  · intro p hp
    obtain ⟨hread, hvalid⟩ := build_eq_ok_iff.mp hp
    exact build_eq_ok_iff.mpr ⟨h.read.1 p hread, hvalid.inUnit hu⟩
  · intro q hq
    obtain ⟨hread, hvalid⟩ := build_eq_ok_iff.mp hq
    obtain ⟨p, hp⟩ := h.read.2 q hread
    obtain rfl : p.inUnit u = q := Except.ok.inj ((h.read.1 p hp).symm.trans hread)
    exact ⟨p, build_eq_ok_iff.mpr ⟨hp, hvalid.of_inUnit hu⟩⟩

/-! ## Configurations -/

/-- The configuration that gives some fields. -/
def configuration {α : Type} (fields : List (Field × Value α)) : Value α :=
  .mapping (fields.map fun entry => (.text entry.1.name, entry.2))

/-- Fields in a length unit that is larger than a metre by a factor, with the unit. -/
noncomputable def fieldsInUnit (u : ℝ) (fields : List (Field × Value ℝ)) :
    List (Field × Value ℝ) :=
  fields.map (fun entry => (entry.1, entry.1.valueInUnit u entry.2)) ++
    [(.scalar .lengthUnit, .real u)]

section

variable {α : Type} [Scalar α]

omit [Scalar α] in
/-- All keys of a configuration are those of its fields. -/
theorem fieldsOf?_configuration (fields : List (Field × Value α)) :
    fieldsOf? (namedEntries (fields.map fun entry => (.text entry.1.name, entry.2))) =
      some fields := by
  rw [namedEntries, List.filterMap_map, ← fieldsOf?_names fields, ← List.filterMap_eq_map]
  rfl

omit [Scalar α] in
theorem unknownKeys_configuration (fields : List (Field × Value α)) :
    unknownKeys (fields.map fun entry => (.text entry.1.name, entry.2)) = .ok [] := by
  refine unknownKeys_eq_nil fun entry hentry => ?_
  obtain ⟨own, -, rfl⟩ := List.mem_map.mp hentry
  exact ⟨_, own.1, rfl, Field.ofName?_name own.1⟩

/-- A configuration replaces fields of the Earth, which are taken in its own length unit. -/
theorem ofValue_configuration {fields : List (Field × Value α)} {unit : α} {d : Parameters α}
    (hunit : (fields.lookup (.scalar .lengthUnit)).getD (.real 1.0) = .real unit)
    (hdefaults : earth.toLengthUnit unit = .ok d) :
    ofValue (configuration fields) = build (override d.draft fields) := by
  have hfields := fieldsOf?_configuration fields
  have hlookup := lookup_fieldsOf? hfields (.scalar .lengthUnit)
  have hread : readNumber (.scalar .lengthUnit) (.real unit) = .ok unit := rfl
  rw [ofValue, configuration]
  simp only [Value.opened, unknownKeys_configuration, ok_bind, ← hlookup, hunit, hread, hdefaults,
    replaceNamed, hfields]
  rfl

end

section

variable {fields : List (Field × Value ℝ)} {d : Parameters ℝ}

theorem mem_of_lookup_fields {f : Field} {v : Value ℝ} (h : fields.lookup f = some v) :
    (f, v) ∈ fields := by
  induction fields with
  | nil => cases h
  | cons entry fields ih =>
    obtain ⟨own, value⟩ := entry
    rw [List.lookup_cons] at h
    split at h
    · next hown =>
      cases h
      rw [eq_of_beq hown]
      exact List.mem_cons_self
    · exact List.mem_cons_of_mem _ (ih h)

theorem lookup_valueInUnit (f : Field) :
    (fields.map fun entry => (entry.1, entry.1.valueInUnit u entry.2)).lookup f =
      (fields.lookup f).map (f.valueInUnit u) := by
  induction fields with
  | nil => rfl
  | cons entry fields ih =>
    rw [List.map_cons, List.lookup_cons, List.lookup_cons, ih]
    split
    · next hown => rw [eq_of_beq hown, Option.map_some]
    · rfl

section

variable (hunits : ∀ entry ∈ fields, entry.1 ≠ .scalar .lengthUnit)

include hunits

theorem lookup_lengthUnit : fields.lookup (.scalar .lengthUnit) = none :=
  List.lookup_eq_none_iff.mpr fun entry hentry => bne_iff_ne.mpr (hunits entry hentry).symm

theorem lookup_lengthUnit_fieldsInUnit (u : ℝ) :
    (fieldsInUnit u fields).lookup (.scalar .lengthUnit) = some (.real u) := by
  rw [fieldsInUnit, List.lookup_append, lookup_valueInUnit, lookup_lengthUnit hunits]
  rfl

/-- The value that a field has is that of the configuration, or of the defaults, in the unit. -/
theorem override_fieldsInUnit (hunit : d.lengthUnit = 1) (f : Field) :
    override (d.inUnit u).draft (fieldsInUnit u fields) f =
      ((fields.lookup f).map (f.valueInUnit u)).getD ((d.inUnit u).draft f) := by
  by_cases hf : f = .scalar .lengthUnit
  · have hown : (d.inUnit u).draft (.scalar .lengthUnit) = .real u := by
      rw [draft, scalar_inUnit, scalar, hunit]
      exact congrArg Value.real (one_mul u)
    subst hf
    rw [override, lookup_lengthUnit_fieldsInUnit hunits, lookup_lengthUnit hunits, hown]
    rfl
  · have hother : [(Field.scalar .lengthUnit, Value.real u)].lookup f = none :=
      List.lookup_eq_none_iff.mpr fun entry hentry => by
        rw [List.mem_singleton.mp hentry]
        exact bne_iff_ne.mpr hf
    rw [override, fieldsInUnit, List.lookup_append, lookup_valueInUnit, hother, Option.or_none]

end

/-- Defaults in another unit, with fields in that unit, are those defaults with those fields in the
other unit. -/
theorem draftInUnit_override (hu : 0 < u) (hd : d.Layered) (hunit : d.lengthUnit = 1)
    (hfields : ∀ entry ∈ fields, entry.1 ≠ .scalar .lengthUnit ∧ entry.1.Holds entry.2) :
    DraftInUnit u (override d.draft fields)
      (override (d.inUnit u).draft (fieldsInUnit u fields)) := by
  have hvalue := override_fieldsInUnit (u := u) (fun entry hentry => (hfields entry hentry).1) hunit
  have hreadable := hd.readable
  have hreadable' := (hd.inUnit hu).readable
  constructor
  · intro f
    rw [hvalue, override]
    cases hf : fields.lookup (.spectral f) with
    | none =>
      refine follows_of_ok (readNumbers_listOf _ (hreadable.spectrum_finite f)) ?_
      rw [← spectrum_inUnit_eq]
      exact readNumbers_listOf _ (hreadable'.spectrum_finite f)
    | some v => exact follows_spectrum f (hfields _ (mem_of_lookup_fields hf)).2
  · rw [hvalue, override]
    cases fields.lookup .whitepoint with
    | none => exact follows_self _
    | some v => exact follows_self _
  · intro f
    rw [hvalue, override]
    cases hf : fields.lookup (.profile f) with
    | none =>
      refine follows_of_ok (readProfile_profileValue _ (hreadable.widths f)) ?_
      rw [← profile_inUnit]
      exact readProfile_profileValue _ (hreadable'.widths f)
    | some v => exact follows_profile hu f (hfields _ (mem_of_lookup_fields hf)).2
  · intro f
    rw [hvalue, override]
    cases hf : fields.lookup (.scalar f) with
    | none => exact follows_of_ok rfl (by rw [← scalar_inUnit]; rfl)
    | some v =>
      obtain ⟨hne, hholds⟩ := hfields _ (mem_of_lookup_fields hf)
      exact follows_scalar (fun heq => hne (congrArg Field.scalar heq)) hholds

/-- Fields with numbers as coefficients of their layers give regular layers. -/
theorem layered_of_build (hd : d.Layered) (hfields : ∀ entry ∈ fields, entry.1.Holds entry.2)
    (hp : build (override d.draft fields) = .ok p) : p.Layered := by
  have hread := readFrom_of_read (build_eq_ok_iff.mp hp).1
  intro f
  have hprofile := hread.profile f
  rw [override] at hprofile
  cases hf : fields.lookup (.profile f) with
  | none =>
    rw [hf] at hprofile
    have hown := readProfile_profileValue (.profile f) (hd.readable.widths f)
    rw [← Except.ok.inj (hown.symm.trans hprofile)]
    exact hd f
  | some v =>
    rw [hf] at hprofile
    exact regular_of_readProfile (hfields _ (mem_of_lookup_fields hf)) hprofile

/-- A configuration that is rewritten for another length unit is accepted exactly if it is accepted
as it was, and then it describes the same atmosphere, expressed in that unit. -/
theorem ofValue_inUnit (hu : 0 < u)
    (hfields : ∀ entry ∈ fields, entry.1 ≠ .scalar .lengthUnit ∧ entry.1.Holds entry.2) :
    ((∃ q, ofValue (configuration (fieldsInUnit u fields)) = .ok q) ↔
        ∃ p, ofValue (configuration fields) = .ok p) ∧
      ∀ p, ofValue (configuration fields) = .ok p → ∃ q, p.toLengthUnit u = .ok q ∧
        ofValue (configuration (fieldsInUnit u fields)) = .ok q := by
  have hunits : ∀ entry ∈ fields, entry.1 ≠ .scalar .lengthUnit := fun entry hentry =>
    (hfields entry hentry).1
  -- the defaults in metres and in the unit
  obtain ⟨hone, hmetres⟩ := toLengthUnit_eq_ok validate_earth regular_earth
    (show (0 : ℝ) < 1.0 by norm_num)
  obtain ⟨-, hdefaults⟩ := toLengthUnit_eq_ok validate_earth regular_earth hu
  have hown : (earth : Parameters ℝ).lengthUnit = 1 := by norm_num [earth]
  let d : Parameters ℝ := earth.inUnit (1.0 / (earth : Parameters ℝ).lengthUnit)
  have hd : d.Layered := regular_earth.layered.inUnit hone
  have hmetre : d.lengthUnit = 1 := by norm_num [d, inUnit, hown]
  have hinUnit : earth.inUnit (u / (earth : Parameters ℝ).lengthUnit) = d.inUnit u := by
    norm_num [d, inUnit_inUnit, hown]
  rw [hinUnit] at hdefaults
  have hread : ofValue (configuration fields) = build (override d.draft fields) :=
    ofValue_configuration (by rw [lookup_lengthUnit hunits, Option.getD_none]) hmetres
  have hread' : ofValue (configuration (fieldsInUnit u fields)) =
      build (override (d.inUnit u).draft (fieldsInUnit u fields)) :=
    ofValue_configuration (by rw [lookup_lengthUnit_fieldsInUnit hunits, Option.getD_some])
      hdefaults
  have hbuild := (draftInUnit_override hu hd hmetre hfields).build hu
  rw [hread, hread']
  refine ⟨⟨?_, ?_⟩, fun p hp => ?_⟩
  · rintro ⟨q, hq⟩
    exact hbuild.2 q hq
  · rintro ⟨p, hp⟩
    exact ⟨_, hbuild.1 p hp⟩
  obtain ⟨hfrom, hvalid⟩ := build_eq_ok_iff.mp hp
  have hlayers := layered_of_build hd (fun entry hentry => (hfields entry hentry).2) hp
  have hunit : p.lengthUnit = 1 := by
    have hscalar := (readFrom_of_read hfrom).scalar .lengthUnit
    rw [override, lookup_lengthUnit hunits] at hscalar
    exact (Except.ok.inj hscalar).symm.trans hmetre
  refine ⟨p.inUnit u, ?_, hbuild.1 p hp⟩
  rw [(toLengthUnit_of_layered ((validate_eq_ok_iff p).mpr hvalid) hlayers hu).2, hunit, div_one]

end

/-- A configuration with some of the fields, in metres and in kilometres. -/
theorem ofValue_inUnit_kilometres :
    let layers : List (List (Value ℝ × Value ℝ)) :=
      [[(.text "width", .integer 2000)],
        [(.text "exp_term", .real 1), (.text "exp_scale", .real (-1 / 1200))]]
    let metres : List (Field × Value ℝ) :=
      [(.scalar .bottomRadius, .integer 6371000),
        (.spectral .mieScattering, .list [.real 4, .real 3, .real 2, .integer 1]),
        (.profile .mieDensity, .list (layers.map .mapping))]
    ((∃ q, ofValue (configuration (fieldsInUnit 1000 metres)) = .ok q) ↔
        ∃ p, ofValue (configuration metres) = .ok p) ∧
      ∀ p, ofValue (configuration metres) = .ok p → ∃ q, p.toLengthUnit 1000 = .ok q ∧
        ofValue (configuration (fieldsInUnit 1000 metres)) = .ok q := by
  intro layers metres
  have hreal := Value.isNumber_real
  have hinteger : ∀ n : ℤ, (Value.integer n : Value ℝ).IsNumber := fun n => ⟨n, rfl⟩
  refine ofValue_inUnit (by norm_num) ?_
  simp only [metres, List.forall_mem_cons]
  refine ⟨⟨by decide, .number (hinteger _)⟩, ⟨by decide, .list ?_⟩,
    ⟨by decide, layers, rfl, ?_⟩, nofun⟩
  · simp [Value.IsNumeric.number, hreal, hinteger]
  · simp only [layers, List.forall_mem_cons]
    exact ⟨⟨hinteger _, nofun⟩, ⟨hreal _, hreal _, nofun⟩, nofun⟩

end Parameters

end Airlight
