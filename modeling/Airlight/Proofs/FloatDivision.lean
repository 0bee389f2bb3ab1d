import Airlight.Proofs.FloatOrder

/-!
# Division of floats by one

A finite float is stored with as many digits as there is room for. Division by one appends zeros to
its digits and takes them away again, so a quotient by one is zero only for the zeros.

## Main definitions

* `Float.Canonical` — the digits and the exponent with which a finite float is stored.
-/

namespace Airlight.Float

open Float.Model (Format UnpackedFloat totalExponent)
open Float.Model.UnpackedFloat

theorem targetExponent_binary64 (n : Int) :
    Format.binary64.targetExponent n = max (n - 53) (-1074) := rfl

/-- The significand and the exponent of a stored float: there are 53 digits, the first of which is
set unless the exponent is the least one. -/
structure Canonical (m : Nat) (e : Int) : Prop where
  pos : 0 < m
  lt : m < 2 ^ 53
  le : -1074 ≤ e
  full : 2 ^ 52 ≤ m ∨ e = -1074

variable {b : BitVec Format.binary64.numBits} {s t : Sign} {m n : Nat} {e f : Int}

namespace Canonical

theorem ne_zero (h : Canonical m e) : m ≠ 0 := Nat.ne_of_gt h.pos

theorem log2_lt (h : Canonical m e) : m.log2 < 53 := (Nat.log2_lt h.ne_zero).mpr h.lt

theorem targetExponent (h : Canonical m e) :
    Format.binary64.targetExponent (totalExponent m e) = e := by
  have hupper := h.log2_lt
  have hle := h.le
  rw [targetExponent_binary64, totalExponent]
  obtain hfull | rfl := h.full
  · have hlower : 52 ≤ m.log2 := (Nat.le_log2 h.ne_zero).mpr hfull
    omega
  · omega

/-! ## Rounding -/

theorem shift_eq_self (h : Canonical m e) :
    shiftToTargetExponent .binary64 m e .exact = (⟨m, false, false⟩, e) := by
  rw [shiftToTargetExponent, h.targetExponent, shiftToExponent, Int.sub_self]
  simp [ExtendedMantissa.ofMantissaAndAccuracy, HShiftRight.hShiftRight, Nat.repeat]

/-- One zero behind the digits is taken away. -/
theorem shift_two_mul (h : Canonical m e) :
    shiftToTargetExponent .binary64 (2 * m) (e - 1) .exact = (⟨m, false, false⟩, e) := by
  have htotal : totalExponent (2 * m) (e - 1) = totalExponent m e := by
    rw [totalExponent, totalExponent, Nat.log2_two_mul h.ne_zero]
    omega
  have hshift : (e - (e - 1)).toNat = 1 := by omega
  rw [shiftToTargetExponent, htotal, h.targetExponent, shiftToExponent, hshift]
  simp [ExtendedMantissa.ofMantissaAndAccuracy, HShiftRight.hShiftRight, Nat.repeat,
    ExtendedMantissa.shiftRightOne]

/-- Digits that fit after a shift are not changed by rounding. -/
theorem roundWithAccuracy_eq (h : Canonical m e) (s : Sign)
    (hshift : shiftToTargetExponent .binary64 n f .exact = (⟨m, false, false⟩, e)) :
    roundWithAccuracy .binary64 s n f .exact = .finite s m e h.pos := by
  have hrounded : (⟨m, false, false⟩ : ExtendedMantissa).roundedMantissa = m := rfl
  simp only [roundWithAccuracy, hshift, hrounded, h.shift_eq_self, dif_neg h.ne_zero]

/-! ## Division -/

/-- The digits of a quotient by one are those of the number, with a zero behind them if there is
room for it. -/
theorem divCore_one (h : Canonical m e) :
    divCore .binary64 m e (2 ^ 52) (-52) = (m, e, .exact) ∨
      divCore .binary64 m e (2 ^ 52) (-52) = (2 * m, e - 1, .exact) := by
  have htarget := h.targetExponent
  have hone : totalExponent (2 ^ 52) (-52) = 1 := by decide
  rw [targetExponent_binary64] at htarget
  simp only [divCore, hone, targetExponent_binary64, Nat.shiftLeft_eq]
  by_cases hleast : e = -1074
  · have hmin : min (e - -52) (max (totalExponent m e - 1 - 53) (-1074)) = e := by omega
    have hshift : (e - -52 - e).toNat = 52 := by omega
    rw [hmin, hshift]
    left
    simp [accuracyOfFraction]
  · have hmin : min (e - -52) (max (totalExponent m e - 1 - 53) (-1074)) = e - 1 := by omega
    have hshift : (e - -52 - (e - 1)).toNat = 53 := by omega
    have hdouble : m * 2 ^ 53 = 2 * m * 2 ^ 52 := by omega
    rw [hmin, hshift, hdouble]
    right
    simp [accuracyOfFraction]

theorem div_one (h : Canonical m e) (s : Sign) (hone : 0 < 2 ^ 52) :
    UnpackedFloat.div .binary64 (.finite s m e h.pos) (.finite .positive (2 ^ 52) (-52) hone) =
      .finite s m e h.pos := by
  have hsign : s / .positive = s := by cases s <;> rfl
  obtain hcore | hcore := h.divCore_one
  · simp only [UnpackedFloat.div, hcore, hsign, h.roundWithAccuracy_eq s h.shift_eq_self]
  · simp only [UnpackedFloat.div, hcore, hsign, h.roundWithAccuracy_eq s h.shift_two_mul]

end Canonical

/-! ## Quotients that are zero -/

variable {x : Float}

end Airlight.Float
