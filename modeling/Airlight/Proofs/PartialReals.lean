import Mathlib.Tactic.Simps.Basic
import Airlight.Proofs.Reals

/-!
# Partial real numbers

The real numbers with one undefined number added. A quotient with the divisor zero is undefined, and
so are the root of a negative number and everything that is computed from an undefined number. A
comparison with an undefined number may come out either way; a verdict says how, and what holds for
every verdict does not rest on such a comparison. Read over these numbers, a formula has a defined
value only if no divisor in it is zero and no root is taken of a negative number.

## Main definitions

* `Verdict` — how comparisons with an undefined number come out.
* `PartialReal` — the real numbers and the undefined number.
-/

namespace Airlight

open Scalar

/-- How comparisons with an undefined number come out. -/
structure Verdict where
  lt : Option ℝ → Option ℝ → Prop
  le : Option ℝ → Option ℝ → Prop

/-- The real numbers and an undefined number. -/
def PartialReal (_w : Verdict) : Type := Option ℝ

namespace PartialReal

variable {w : Verdict}

/-- A real number. -/
@[coe] def ofReal (x : ℝ) : PartialReal w := some x

instance : Coe ℝ (PartialReal w) := ⟨ofReal⟩

/-- The undefined number. -/
instance : Inhabited (PartialReal w) := ⟨(none : Option ℝ)⟩

/-- An operation on one number; it may leave the result undefined. -/
def lift (f : ℝ → Option ℝ) (a : PartialReal w) : PartialReal w := Option.bind a f

/-- An operation on two numbers; it may leave the result undefined. -/
def lift₂ (f : ℝ → ℝ → Option ℝ) (a b : PartialReal w) : PartialReal w :=
  Option.bind a fun x => Option.bind b (f x)

/-- A comparison, with the verdict where a number is undefined. -/
def Compares (holds : ℝ → ℝ → Prop) (verdict : Option ℝ → Option ℝ → Prop) :
    Option ℝ → Option ℝ → Prop
  | some x, some y => holds x y
  | a, b => verdict a b

open Classical in
/-- Quotients by zero, remainders of such quotients, roots of negative numbers and powers of numbers
that are not positive are undefined. -/
noncomputable instance : Scalar (PartialReal w) where
  add := lift₂ fun x y => some (x + y)
  sub := lift₂ fun x y => some (x - y)
  mul := lift₂ fun x y => some (x * y)
  div := lift₂ fun x y => if y = 0 then none else some (x / y)
  neg := lift fun x => some (-x)
  lt := Compares (· < ·) w.lt
  le := Compares (· ≤ ·) w.le
  natCast n := ofReal n
  ofScientific m s e := ofReal (OfScientific.ofScientific m s e)
  decidableLT := fun _ _ => propDecidable _
  decidableLE := fun _ _ => propDecidable _
  sqrt := lift fun x => if 0 ≤ x then some (sqrt x) else none
  exp := lift fun x => some (exp x)
  cos := lift fun x => some (cos x)
  pow := lift₂ fun x y => if 0 < x then some (pow x y) else none
  pi := ofReal pi
  floor := lift fun x => some (floor x)
  floorMod := lift₂ fun x y => if y = 0 then none else some (floorMod x y)
  toNat? a := Option.bind a toNat?
  toInt? a := Option.bind a toInt?
  ofInt? n := (ofInt? n : Option ℝ).map ofReal
  ofNumeral x := ofReal (ofNumeral x)

/-! ## Defined results -/

variable (x y lo hi : ℝ)

theorem add_coe : (x : PartialReal w) + y = (x + y : ℝ) := rfl

theorem sub_coe : (x : PartialReal w) - y = (x - y : ℝ) := rfl

theorem mul_coe : (x : PartialReal w) * y = (x * y : ℝ) := rfl

theorem neg_coe : -(x : PartialReal w) = (-x : ℝ) := rfl

theorem natCast_coe (n : ℕ) : (n : PartialReal w) = ((n : ℝ) : PartialReal w) := rfl

theorem scientific_coe (m : ℕ) (s : Bool) (e : ℕ) :
    (OfScientific.ofScientific m s e : PartialReal w) = (OfScientific.ofScientific m s e : ℝ) := rfl

theorem exp_coe : exp (x : PartialReal w) = (exp x : ℝ) := rfl

theorem floor_coe : floor (x : PartialReal w) = (floor x : ℝ) := rfl

theorem ofInt_coe (n : ℤ) : (ofInt n : PartialReal w) = (ofInt n : ℝ) := by
  cases n <;> rfl

theorem toNat?_coe : toNat? (x : PartialReal w) = toNat? x := rfl

variable {x y}

theorem div_coe (hy : y ≠ 0) : (x : PartialReal w) / y = (x / y : ℝ) := if_neg hy

theorem floorMod_coe (hy : y ≠ 0) : floorMod (x : PartialReal w) y = (floorMod x y : ℝ) := if_neg hy

theorem sqrt_coe (hx : 0 ≤ x) : sqrt (x : PartialReal w) = (sqrt x : ℝ) := if_pos hx

theorem lt_coe : (x : PartialReal w) < y ↔ x < y := Iff.rfl

theorem le_coe : (x : PartialReal w) ≤ y ↔ x ≤ y := Iff.rfl

/-- A quotient is defined only if both numbers are and the divisor is not zero. -/
theorem div_eq_coe_iff {a b : PartialReal w} {z : ℝ} :
    a / b = z ↔ ∃ x y : ℝ, a = x ∧ b = y ∧ y ≠ 0 ∧ x / y = z := by
  constructor
  · intro h
    obtain ⟨x, rfl, hx⟩ := Option.bind_eq_some_iff.mp h
    obtain ⟨y, rfl, hxy⟩ := Option.bind_eq_some_iff.mp hx
    dsimp only at hxy
    split_ifs at hxy with hy
    exact ⟨x, y, rfl, rfl, hy, Option.some.inj hxy⟩
  · rintro ⟨x, y, rfl, rfl, hy, rfl⟩
    exact div_coe hy

/-- A root is defined only if the number is and is not negative. -/
theorem sqrt_eq_coe_iff {a : PartialReal w} {z : ℝ} :
    sqrt a = z ↔ ∃ x : ℝ, a = x ∧ 0 ≤ x ∧ √x = z := by
  constructor
  · intro h
    obtain ⟨x, rfl, hroot⟩ := Option.bind_eq_some_iff.mp h
    split_ifs at hroot with hx
    exact ⟨x, rfl, hx, Option.some.inj hroot⟩
  · rintro ⟨x, rfl, hx, rfl⟩
    exact sqrt_coe hx

/-- A choice between defined numbers is defined. -/
theorem ite_coe {c : Prop} (hc hc' : Decidable c) (x y : ℝ) :
    (@ite _ c hc (x : PartialReal w) y) = (@ite _ c hc' x y : ℝ) := by
  by_cases h : c <;> simp only [h, if_true, if_false]

variable (x y)

theorem larger_coe : larger (x : PartialReal w) y = (larger x y : ℝ) := ite_coe _ _ x y

theorem smaller_coe : smaller (x : PartialReal w) y = (smaller x y : ℝ) := ite_coe _ _ x y

theorem clamp_coe : clamp (x : PartialReal w) lo hi = (clamp x lo hi : ℝ) := by
  simp only [clamp, larger_coe, smaller_coe]

theorem same_coe : same (x : PartialReal w) y = same x y := by
  simp only [same, le_coe]

end PartialReal

end Airlight
