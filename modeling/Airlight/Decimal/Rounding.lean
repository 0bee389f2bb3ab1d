/-!
# Rounded quotients

Every exact number format of the library rounds one quotient of natural numbers. A half goes to the
even neighbour.
-/

namespace Airlight.Decimal

/-- The integer nearest to `num / den`; a half goes to the even neighbour. -/
def roundDiv (num den : Nat) : Nat :=
  let q := num / den
  let r := num % den
  if 2 * r < den then q
  else if den < 2 * r then q + 1
  else if q % 2 = 0 then q else q + 1

/-- A rounded quotient is within half a unit of the exact one. -/
theorem roundDiv_near (num den : Nat) (h : 0 < den) :
    2 * (roundDiv num den * den) ≤ 2 * num + den ∧
      2 * num ≤ 2 * (roundDiv num den * den) + den := by
  have e : den * (num / den) + num % den = num := Nat.div_add_mod num den
  have l : num % den < den := Nat.mod_lt _ h
  simp only [roundDiv]
  generalize num / den = q at *
  generalize num % den = r at *
  have hs : (q + 1) * den = den * q + den := by rw [Nat.add_mul, Nat.mul_comm]; simp
  have hc : q * den = den * q := Nat.mul_comm ..
  generalize den * q = p at *
  split
  · omega
  · split
    · omega
    · split <;> omega

/-- A whole quotient is not changed. -/
theorem roundDiv_mul_right (a den : Nat) (h : 0 < den) : roundDiv (a * den) den = a := by
  simp [roundDiv, Nat.mul_div_cancel _ h, h]

end Airlight.Decimal
