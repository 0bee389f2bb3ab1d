import Mathlib.Analysis.SpecialFunctions.Pow.Real
import Mathlib.Analysis.SpecialFunctions.Trigonometric.Basic
import Airlight.Texture.Coordinate

/-!
# Real numbers as scalars

The formulas of the library read over the real numbers: nothing is rounded, every number is defined
and finite, and the square root of a negative number is zero. The rest of the module says what the
generic operations become under this reading, so that proofs about the formulas never open them.

## Main definitions

* `instScalarReal` — the operations of `Scalar` on the real numbers.
-/

namespace Airlight

/-- Real numbers as scalars. The special numerals have no real value and count as zero. -/
noncomputable instance instScalarReal : Scalar ℝ where
  sqrt := Real.sqrt
  exp := Real.exp
  cos := Real.cos
  pow x y := x ^ y
  pi := Real.pi
  floor x := ⌊x⌋
  floorMod x y := x - y * ⌊x / y⌋
  toNat? x := if (⌊x⌋₊ : ℝ) = x then some ⌊x⌋₊ else none
  toInt? x := if (⌊x⌋ : ℝ) = x then some ⌊x⌋ else none
  ofInt? n := some n
  ofNumeral
    | .finite negative digits exponent =>
      (if negative then -1 else 1) * (digits : ℝ) * 10 ^ exponent
    | _ => 0

namespace Scalar

variable (a b x lo hi : ℝ)

@[simp] theorem sqrt_real : sqrt x = √x := rfl

@[simp] theorem exp_real : exp x = Real.exp x := rfl

@[simp] theorem cos_real : cos x = Real.cos x := rfl

@[simp] theorem floor_real : floor x = (⌊x⌋ : ℝ) := rfl

@[simp] theorem floorMod_real : floorMod a b = a - b * ⌊a / b⌋ := rfl

@[simp] theorem ofInt?_real (n : ℤ) : (ofInt? n : Option ℝ) = some (n : ℝ) := rfl

@[simp] theorem ofInt_real (n : ℤ) : (ofInt n : ℝ) = n := by
  cases n with
  | ofNat k => simp [ofInt]
  | negSucc k => simp [ofInt, Int.negSucc_eq]

@[simp] theorem toNat?_natCast (n : ℕ) : toNat? (n : ℝ) = some n := by
  simp [toNat?]

@[simp] theorem larger_real : larger a b = max a b := by
  unfold larger
  split_ifs with h
  · exact (max_eq_left (h.resolve_right fun h => h le_rfl)).symm
  · exact (max_eq_right (le_of_not_ge fun hb => h (.inl hb))).symm

@[simp] theorem smaller_real : smaller a b = min a b := by
  unfold smaller
  split_ifs with h
  · exact (min_eq_left (h.resolve_right fun h => h le_rfl)).symm
  · exact (min_eq_right (le_of_not_ge fun hb => h (.inl hb))).symm

@[simp] theorem clamp_real : clamp x lo hi = min (max x lo) hi := by
  simp [clamp]

/-- A number that lies between the limits stays. -/
theorem clamp_eq_self {x lo hi : ℝ} (hlo : lo ≤ x) (hhi : x ≤ hi) : clamp x lo hi = x := by
  rw [clamp_real, max_eq_left hlo, min_eq_left hhi]

theorem le_clamp {lo hi : ℝ} (x : ℝ) (h : lo ≤ hi) : lo ≤ clamp x lo hi := by
  rw [clamp_real]
  exact le_min (le_max_right x lo) h

theorem clamp_le (x lo hi : ℝ) : clamp x lo hi ≤ hi := by
  rw [clamp_real]
  exact min_le_right _ _

@[simp] theorem same_real : same a b = decide (a = b) := by
  simp [same, ← Bool.decide_and, ← le_antisymm_iff]

@[simp] theorem isFinite_real : isFinite a = true := by
  simp [isFinite]

end Scalar

/-- Every integer is a real number. -/
@[simp] theorem Quantity.number_whole (n : ℤ) :
    (Quantity.whole n : Quantity ℝ).number = .ok (n : ℝ) := rfl

namespace Texture

variable {n x u : ℝ}

theorem coordOfUnit_real : coordOfUnit x n = 1 / 2 / n + x * (1 - 1 / n) := by
  norm_num [coordOfUnit]

theorem unitOfCoord_real : unitOfCoord u n = (u - 1 / 2 / n) / (1 - 1 / n) := by
  norm_num [unitOfCoord]

theorem one_sub_inv_pos (hn : 1 < n) : 0 < 1 - 1 / n := by
  have : 1 / n < 1 := (div_lt_one (by linarith)).mpr hn
  linarith

/-- A table of more than one texel gives back the value that a coordinate was computed from. -/
theorem unitOfCoord_coordOfUnit (hn : 1 < n) : unitOfCoord (coordOfUnit x n) n = x := by
  have := (one_sub_inv_pos hn).ne'
  rw [unitOfCoord_real, coordOfUnit_real, add_sub_cancel_left, mul_div_cancel_right₀ _ this]

theorem coordOfUnit_unitOfCoord (hn : 1 < n) : coordOfUnit (unitOfCoord u n) n = u := by
  have := (one_sub_inv_pos hn).ne'
  rw [coordOfUnit_real, unitOfCoord_real, div_mul_cancel₀ _ this]
  ring

/-- Coordinates of values from 0 to 1 lie between the centres of the outermost texels. -/
theorem coordOfUnit_mem (hn : 1 < n) (h0 : 0 ≤ x) (h1 : x ≤ 1) :
    1 / 2 / n ≤ coordOfUnit x n ∧ coordOfUnit x n ≤ 1 - 1 / 2 / n := by
  have hpos := one_sub_inv_pos hn
  have hsplit : 1 / n = 1 / 2 / n + 1 / 2 / n := by ring
  rw [coordOfUnit_real]
  constructor
  · nlinarith [mul_nonneg h0 hpos.le]
  · nlinarith [mul_le_mul_of_nonneg_right h1 hpos.le]

/-- The centre of texel `i` of `n` stands for the fraction `i / (n - 1)`. -/
theorem unitOfCoord_centre (hn : 1 < n) (i : ℝ) :
    unitOfCoord ((i + 1 / 2) / n) n = i / (n - 1) := by
  have h1 : n - 1 ≠ 0 := by linarith
  have hn0 : n ≠ 0 := by linarith
  rw [unitOfCoord_real]
  field_simp
  ring

end Texture

end Airlight
