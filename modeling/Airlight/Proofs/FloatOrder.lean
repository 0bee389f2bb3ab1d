import Mathlib
import Airlight.Scalar.Float

/-!
# The order of floats

An undefined float is neither below nor above any other, nor equal to one. So a check that rejects
what lies on one side of zero lets the undefined float pass, while a check that asks for the other
side does not. All other floats are compared with zero as numbers are.
-/

namespace Airlight.Float

open Float.Model (UnpackedFloat)

variable {x y : Float}

theorem unpack_zero : (0.0 : Float).toModel.unpack = .zero .positive := rfl

theorem lt_iff : x < y ↔ x.toModel.unpack.compare y.toModel.unpack = some .lt := by
  change decide (x.toModel < y.toModel) = true ↔ _
  rw [decide_eq_true_iff]
  change x.toModel.unpack.lt y.toModel.unpack = true ↔ _
  rw [UnpackedFloat.lt, beq_iff_eq]

theorem le_iff :
    x ≤ y ↔ ∃ o, x.toModel.unpack.compare y.toModel.unpack = some o ∧ o.isLE = true := by
  change decide (x.toModel ≤ y.toModel) = true ↔ _
  rw [decide_eq_true_iff]
  change x.toModel.unpack.le y.toModel.unpack = true ↔ _
  rw [UnpackedFloat.le, Option.any_eq_true]

/-- A float is at least zero if it is defined and not negative. -/
theorem nonneg_iff : 0.0 ≤ x ↔ x.isNaN = false ∧ ¬ x < 0.0 := by
  have hnan : x.isNaN = x.toModel.unpack.isNaN := rfl
  rw [le_iff, lt_iff, hnan, unpack_zero]
  rcases x.toModel.unpack with ⟨_ | _⟩ | _ | ⟨_ | _⟩ | ⟨_ | _⟩ <;>
    simp [UnpackedFloat.compare, UnpackedFloat.isNaN]

/-- A float is positive if it is defined and not at most zero. -/
theorem pos_iff : 0.0 < x ↔ x.isNaN = false ∧ ¬ x ≤ 0.0 := by
  have hnan : x.isNaN = x.toModel.unpack.isNaN := rfl
  rw [le_iff, lt_iff, hnan, unpack_zero]
  rcases x.toModel.unpack with ⟨_ | _⟩ | _ | ⟨_ | _⟩ | ⟨_ | _⟩ <;>
    simp [UnpackedFloat.compare, UnpackedFloat.isNaN]

theorem isNaN_of_isFinite (h : x.isFinite = true) : x.isNaN = false := by
  change x.toModel.unpack.isFinite = true at h
  change x.toModel.unpack.isNaN = false
  generalize x.toModel.unpack = u at h ⊢
  cases u with
  | notANumber => cases h
  | _ => rfl

/-- What is taken from itself leaves zero if it is finite, and nothing defined if it is not. -/
theorem sub_self (u : UnpackedFloat) :
    UnpackedFloat.sub .binary64 u u =
      if u.isFinite = true then .zero .positive else .notANumber := by
  cases u with
  | notANumber => rfl
  | infinity s => cases s <;> rfl
  | zero s => cases s <;> rfl
  | finite s m e hm =>
    simp only [UnpackedFloat.sub, Int.sub_self, UnpackedFloat.normalize]
    rfl

theorem unpack_sub_self (x : Float) :
    (x - x).toModel.unpack = if x.isFinite = true then .zero .positive else .notANumber := by
  have hsub : (x - x).toModel = .pack (UnpackedFloat.sub .binary64 x.toModel.unpack
    x.toModel.unpack) := rfl
  have hfinite : x.isFinite = x.toModel.unpack.isFinite := rfl
  rw [hsub, sub_self, hfinite]
  split <;> rfl

/-- Taking a float from itself tells whether it is finite. -/
theorem isFinite_eq (x : Float) : Scalar.isFinite x = x.isFinite := by
  rw [Bool.eq_iff_iff, Scalar.isFinite, decide_eq_true_iff, le_iff, unpack_sub_self]
  cases x.isFinite <;> simp [UnpackedFloat.compare]

end Airlight.Float
