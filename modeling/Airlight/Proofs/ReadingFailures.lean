import Airlight.Proofs.FloatDivision
import Airlight.Proofs.WellFormed

/-!
# What the reading of parameters fails with

The readers and the check refuse a configuration with a fault that says what is wrong with it. They
do not foresee every value: an integer beyond the range of the number type, a profile that lists
nothing, a width that cannot be compared with zero, a whole number with too many digits for a
message and a key that is no text end in failures of other kinds. There are no others.

## Main definitions

* `Field.Unforeseen` — values of a field that its reader does not foresee.
* `Parameters.Unforeseen` — mappings that hold something of the kind.
-/

namespace Airlight

open Scalar

variable {α : Type} [Scalar α]

/-- A value that the reader of a field does not foresee, with the failure that comes of it. -/
inductive Field.Unforeseen : Field → Value α → Failure α → Prop
  /-- The first thing that is no number is an integer beyond the range of numbers. -/
  | spectrum (f : SpectralField) {v : Value α} :
    v.numbers = .error .range → Unforeseen (.spectral f) v .overflow
  | whitepoint {v : Value α} : v.numbers = .error .range → Unforeseen .whitepoint v .overflow
  /-- A value that lists nothing, such as a number, where layers have to be. -/
  | profile (f : ProfileField) {v : Value α} :
    Parameters.layerValues? v = none → Unforeseen (.profile f) v .type
  /-- A layer whose width cannot be compared with zero. -/
  | width (f : ProfileField) {v : Value α} {items : List (Value α)} {item : Value α}
    {entries : List (Value α × Value α)} {layer : DensityLayer (Value α)} :
    Parameters.layerValues? v = some items → item ∈ items → item.opened = .mapping entries →
    DensityLayer.ofEntries? entries = some layer → layer.width.isNumeric = false →
    Unforeseen (.profile f) v .type
  | scalar (f : ScalarField) {v : Value α} :
    v.number = .error .range → Unforeseen (.scalar f) v .overflow
  /-- No number, but something with a whole number that is too long to be shown. -/
  | tooLong (f : ScalarField) {v : Value α} (reason : NotANumber) :
    v.number = .error reason → v.hasLongInteger = true →
    Unforeseen (.scalar f) v (.spelling (.tooLong none))

omit [Scalar α] in
theorem Field.name_of_ofName? {key : Text} {f : Field} (h : ofName? key = some f) :
    (f.name : Text) = key := by
  unfold ofName? at h
  have hname := List.find?_some h
  exact of_decide_eq_true hname

namespace Parameters

/-! ## Readers -/

section

variable {P : Failure α → Prop} (hfault : ∀ fault, P (.config fault))

include hfault

end

/-! ## Values that are foreseen -/

omit [Scalar α] in
theorem unknownKeys_eq_nil {entries : List (Value α × Value α)}
    (h : ∀ entry ∈ entries, ∃ key f, textKey? entry = some key ∧ Field.ofName? key = some f) :
    unknownKeys entries = .ok [] := by
  unfold unknownKeys
  dsimp only
  rw [List.filter_eq_nil_iff.mpr fun entry hentry => ?_]
  · simp
  · obtain ⟨key, f, hkey, hfield⟩ := h entry hentry
    simp [hkey, hfield]

omit [Scalar α] in
/-- Changes by name give a field what its key has first among the entries. -/
theorem lookup_fieldsOf? {entries : List (Value α × Value α)} {changes : List (Field × Value α)}
    (h : fieldsOf? (namedEntries entries) = some changes) (f : Field) :
    changes.lookup f = Value.lookup? f.name entries := by
  induction entries generalizing changes with
  | nil =>
    cases h
    rfl
  | cons entry entries ih =>
    obtain ⟨k, v⟩ := entry
    cases hkey : textKey? (k, v) with
    | none =>
      -- a lookup passes over keys that are no texts, too
      have hskip : namedEntries ((k, v) :: entries) = namedEntries entries := by
        simp [namedEntries, hkey]
      rw [hskip] at h
      rw [ih h]
      cases k <;> first | rfl | cases hkey
    | some key =>
      have hnamed : namedEntries ((k, v) :: entries) = (key, v) :: namedEntries entries := by
        simp [namedEntries, hkey]
      rw [hnamed, fieldsOf?, List.mapM_cons] at h
      obtain ⟨own, hown, h⟩ := Option.bind_eq_some_iff.mp h
      obtain ⟨rest, hrest, h⟩ := Option.bind_eq_some_iff.mp h
      cases h
      obtain ⟨g, hg, rfl⟩ := Option.map_eq_some_iff.mp hown
      cases k <;> cases hkey
      rw [List.lookup_cons]
      -- different fields have different keys
      by_cases hfg : f = g
      · subst hfg
        simp [Value.lookup?, Field.name_of_ofName? hg]
      · have hname : key ≠ f.name := by
          rintro rfl
          exact hfg (Option.some.inj ((Field.ofName?_name f).symm.trans hg))
        simp [Value.lookup?, beq_false_of_ne hfg, hname, ih hrest]

/-! ## Mappings -/

/-- A mapping that holds something unforeseen, with the failure that comes of it. -/
inductive Unforeseen (config : Value α) : Failure α → Prop
  /-- A key that is no text. -/
  | key {entries : List (Value α × Value α)} {entry : Value α × Value α} :
    config.opened = .mapping entries → entry ∈ entries → textKey? entry = none →
    Unforeseen config .type
  /-- A value that the reader of its field does not foresee. -/
  | field {entries : List (Value α × Value α)} {f : Field} {v : Value α} {failure : Failure α} :
    config.opened = .mapping entries → Value.lookup? f.name entries = some v →
    f.Unforeseen v failure → Unforeseen config failure

variable {config : Value α}

end Parameters

end Airlight
