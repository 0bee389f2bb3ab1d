import Airlight.Proofs.NumberStacks
import Airlight.Proofs.Reals

/-!
# Sums of widths

Widths of layers may be document values. Those that are all whole numbers of 64 bits are summed up
as such integers, whose sums wrap around. The upper ends of layers are then the sums of their widths
as real numbers exactly if the sum of all widths is such an integer, too.

## Main definitions

* `Value.amount` — the real number that a value counts as in arithmetic.
* `Profile.altitudesFrom` — the sums of widths as real numbers.
* `Profile.WidthsFit` — the sum of widths fits into the integers that they are summed up as.
-/

namespace Airlight

open Scalar

namespace Value

/-- The number that a value counts as in arithmetic; zero if it is no number. -/
noncomputable def amount : Value ℝ → ℝ
  | real x => x
  | integer n => n
  | flag b => if b then 1 else 0
  | _ => 0

/-- The part of a value that counts as a whole number. -/
def wholePart {α : Type} : Value α → ℕ
  | integer n => n.toNat
  | flag b => if b then 1 else 0
  | _ => 0

end Value

namespace Quantity

/-- The real number of a quantity. -/
noncomputable def amount : Quantity ℝ → ℝ
  | whole n => n
  | real x => x

theorem number_eq_ok (q : Quantity ℝ) : q.number = .ok q.amount := by
  cases q with
  | whole n => exact number_whole n
  | real x => rfl

theorem mapM_number (quantities : List (Quantity ℝ)) :
    quantities.mapM number = .ok (quantities.map amount) :=
  listMapM_eq_ok fun q _ => q.number_eq_ok

theorem exists_add (a b : Quantity ℝ) : ∃ c, a.add b = .ok c ∧ c.amount = a.amount + b.amount := by
  cases a <;> cases b <;> simp [add, number_eq_ok, amount]

end Quantity

namespace Profile

/-! ## Sums of integers of a fixed width -/

/-- The number at which integers of a fixed width wrap around, if widths are summed up as such. -/
def WidthSum.limit? : WidthSum → Option ℕ
  | .signed => some (2 ^ 63)
  | .unsigned => some (2 ^ 64)
  | .exact | .plain => none

variable {how : WidthSum} {limit : ℕ}

/-- Integers of a fixed width remain below the limit, and they are added exactly if their sum does,
too. -/
theorem exists_addWidths_whole (h : how.limit? = some limit) (m n : ℤ) :
    ∃ k : ℤ, addWidths how (.whole m) (.whole n) =
        (.ok (.whole k) : Except (Failure ℝ) (Quantity ℝ)) ∧
      k < limit ∧ (0 ≤ m + n → m + n < limit → k = m + n) := by
  have hpow : Nat.pow 2 64 = 18446744073709551616 := rfl
  cases how with
  | signed =>
    cases h
    refine ⟨_, rfl, ?_, fun hlo hhi => ?_⟩
    · rw [hpow]
      exact Int.bmod_lt (by decide)
    · -- the remainder from -2^63 to 2^63 is the sum itself
      rw [hpow, Int.bmod_eq_of_le] <;> omega
  | unsigned =>
    cases h
    refine ⟨_, rfl, ?_, fun hlo hhi => ?_⟩ <;> rw [hpow] <;> omega
  | exact => cases h
  | plain => cases h

theorem addWidths_of_limit?_eq_none (h : how.limit? = none) (a b : Quantity ℝ) :
    addWidths how a b = a.add b := by
  cases how with
  | signed => cases h
  | unsigned => cases h
  | exact => simp only [addWidths]
  | plain => simp only [addWidths]

theorem exists_addWidths (how : WidthSum) (a b : Quantity ℝ) :
    ∃ c, addWidths how a b = .ok c := by
  cases how <;> cases a <;> cases b <;> exact ⟨_, rfl⟩

/-- An operation that always succeeds has running results. -/
theorem exists_running {β ε : Type} {f : β → β → Except ε β} (hf : ∀ a b, ∃ c, f a b = .ok c)
    (xs : List β) : ∃ ys, running f xs = .ok ys := by
  have hgo : ∀ (xs : List β) (sum : β), ∃ ys, running.go f sum xs = .ok ys := by
    intro xs
    induction xs with
    | nil => exact fun sum => ⟨[sum], rfl⟩
    | cons x xs ih =>
      intro sum
      obtain ⟨next, hnext⟩ := hf sum x
      obtain ⟨ys, hys⟩ := ih next
      exact ⟨sum :: ys, by simp only [running.go, hnext, hys, ok_bind, pure_eq_ok]⟩
  cases xs with
  | nil => exact ⟨[], rfl⟩
  | cons x xs => exact hgo xs x

/-- The sums of integers of a fixed width are such integers. -/
theorem amount_lt_of_running (h : how.limit? = some limit) {m : ℤ}
    (hm : (Quantity.whole m).amount < limit) {ns : List ℤ} {ends : List (Quantity ℝ)}
    (hgo : running.go (addWidths how) (.whole m) (ns.map Quantity.whole) = .ok ends) :
    ∀ q ∈ ends, q.amount < limit := by
  induction ns generalizing m ends with
  | nil =>
    cases hgo
    simpa using hm
  | cons n ns ih =>
    obtain ⟨k, hk, hlt, -⟩ := exists_addWidths_whole h m n
    obtain ⟨c, hc, hgo⟩ := bind_eq_ok_iff.mp hgo
    cases hk.symm.trans hc
    obtain ⟨rest, hrest, hgo⟩ := bind_eq_ok_iff.mp hgo
    cases hgo
    have hsum : (Quantity.whole k).amount < limit := by
      rw [Quantity.amount]
      exact_mod_cast hlt
    exact List.forall_mem_cons.mpr ⟨hm, ih hsum hrest⟩

/-- Quantities that are summed up as integers of a fixed width are whole and not negative, and their
sum is such an integer. -/
def SumFits (how : WidthSum) (quantities : List (Quantity ℝ)) : Prop :=
  ∀ limit, how.limit? = some limit →
    ∃ ns : List ℕ, quantities = ns.map (fun (n : ℕ) => .whole n) ∧ ns.sum < limit

/-- The first two of such quantities can be replaced by their sum. -/
theorem SumFits.exists_addWidths {a b : Quantity ℝ} {rest : List (Quantity ℝ)}
    (h : SumFits how (a :: b :: rest)) :
    ∃ c, addWidths how a b = .ok c ∧ c.amount = a.amount + b.amount ∧ SumFits how (c :: rest) := by
  cases hlimit : how.limit? with
  | none =>
    rw [addWidths_of_limit?_eq_none hlimit]
    obtain ⟨c, hc, hamount⟩ := a.exists_add b
    exact ⟨c, hc, hamount, fun limit h => nomatch hlimit.symm.trans h⟩
  | some limit =>
    obtain ⟨_ | ⟨m, _ | ⟨n, ns⟩⟩, hquantities, hsum⟩ := h limit hlimit
    · cases hquantities
    · cases hquantities
    · cases hquantities
      simp only [List.sum_cons] at hsum
      obtain ⟨k, hk, -, hexact⟩ := exists_addWidths_whole hlimit m n
      obtain rfl : k = ((m + n : ℕ) : ℤ) := by rw [hexact (by omega) (by omega), Nat.cast_add]
      refine ⟨_, hk, by simp [Quantity.amount], fun limit' hlimit' => ⟨(m + n) :: ns, rfl, ?_⟩⟩
      cases hlimit.symm.trans hlimit'
      rw [List.sum_cons]
      omega

/-! ## Altitudes -/

/-- The altitudes that are reached from a base by adding one width after another. -/
def altitudesFrom (base : ℝ) : List ℝ → List ℝ
  | [] => []
  | width :: rest => (base + width) :: altitudesFrom (base + width) rest

theorem altitudesFrom_eq_scanl (base : ℝ) (widths : List ℝ) :
    base :: altitudesFrom base widths = widths.scanl (· + ·) base := by
  induction widths generalizing base with
  | nil => rfl
  | cons width widths ih => rw [altitudesFrom, ih, List.scanl_cons]

theorem length_altitudesFrom (base : ℝ) (widths : List ℝ) :
    (altitudesFrom base widths).length = widths.length := by
  have hlength := congrArg List.length (altitudesFrom_eq_scanl base widths)
  simpa [List.length_scanl] using hlength

/-- The last altitude is that of all widths. -/
theorem add_sum_mem_altitudesFrom (base : ℝ) {widths : List ℝ} (h : widths ≠ []) :
    base + widths.sum ∈ altitudesFrom base widths := by
  induction widths generalizing base with
  | nil => exact absurd rfl h
  | cons width widths ih =>
    rw [altitudesFrom, List.sum_cons, ← add_assoc]
    cases widths with
    | nil => simp
    | cons next rest => exact List.mem_cons_of_mem _ (ih _ (by simp))

/-- The running sums of quantities whose sum fits are those of the real numbers. -/
theorem SumFits.exists_running {q : Quantity ℝ} {quantities : List (Quantity ℝ)}
    (h : SumFits how (q :: quantities)) :
    ∃ ends, running.go (addWidths how) q quantities = .ok (q :: ends) ∧
      ends.map Quantity.amount = altitudesFrom q.amount (quantities.map Quantity.amount) := by
  induction quantities generalizing q with
  | nil => exact ⟨[], rfl, rfl⟩
  | cons next quantities ih =>
    obtain ⟨sum, hsum, hamount, hrest⟩ := h.exists_addWidths
    obtain ⟨ends, hgo, hends⟩ := ih hrest
    refine ⟨sum :: ends, ?_, ?_⟩
    · simp only [running.go, hsum, ok_bind, hgo, pure_eq_ok]
    · simp only [List.map_cons, altitudesFrom, hends, hamount]

/-! ## Widths as quantities -/

/-- The quantity as which a width is summed up. -/
noncomputable def summand (how : WidthSum) (w : Value ℝ) : Quantity ℝ :=
  match how, w with
  | .plain, w => .real w.amount
  | _, .integer n => .whole n
  | _, .flag b => .whole (if b then 1 else 0)
  | _, w => .real w.amount

theorem amount_summand (how : WidthSum) (w : Value ℝ) : (summand how w).amount = w.amount := by
  cases how <;> cases w <;> simp [summand, Quantity.amount, Value.amount]

theorem summand_integer (h : how.limit? = some limit) (n : ℤ) :
    summand how (.integer n) = .whole n := by
  cases how with
  | plain => cases h
  | _ => rfl

theorem summand_flag (h : how.limit? = some limit) (b : Bool) :
    summand how (.flag b) = .whole (if b then 1 else 0) := by
  cases how with
  | plain => cases h
  | _ => rfl

theorem read_eq_summand (how : WidthSum) {w : Value ℝ}
    (hw : DensityLayer.negativeWidth? w = some false) : (do
      let q ← w.quantity
      if how = .plain then return .real (← q.number) else return q) =
        (.ok (summand how w) : Except (Failure ℝ) (Quantity ℝ)) := by
  cases w with
  | real x => cases how <;> rfl
  | integer n => cases how <;> simp [Value.quantity, summand, Value.amount]
  | flag b => cases how <;> cases b <;> simp [Value.quantity, summand, Value.amount]
  | _ => cases hw

variable {widths : List (Value ℝ)}

/-- Widths that are summed up as integers of a fixed width are such integers or flags. -/
theorem integer_or_flag_of_limit? (hlimit : (widthSum widths).limit? = some limit) {w : Value ℝ}
    (hw : w ∈ widths) : (∃ n : ℤ, w = .integer n ∧ n < limit) ∨ ∃ b, w = .flag b := by
  have hindex : (Tensor.indexLimit : ℤ) = 9223372036854775807 := rfl
  have hpow : (Nat.pow 2 64 : ℤ) = 18446744073709551616 := rfl
  simp only [widthSum] at hlimit
  split_ifs at hlimit with hobject hempty hsigned hunsigned
  · cases hlimit
  · cases hlimit
  · have hw' := List.all_eq_true.mp hsigned w hw
    cases hlimit
    cases w with
    | integer n =>
      simp only [Tensor.isIndex, Bool.and_eq_true, decide_eq_true_eq] at hw'
      exact .inl ⟨n, rfl, by omega⟩
    | flag b => exact .inr ⟨b, rfl⟩
    | _ => cases hw'
  · have hw' := List.all_eq_true.mp hunsigned w hw
    cases hlimit
    cases w with
    | integer n =>
      simp [Operand.isWide] at hw'
      exact .inl ⟨n, rfl, by omega⟩
    | flag b => exact .inr ⟨b, rfl⟩
    | _ => cases hw'
  · cases hlimit

/-- Such widths count as the whole numbers that they are. -/
theorem summand_of_limit? (hlimit : (widthSum widths).limit? = some limit) {w : Value ℝ}
    (hw : w ∈ widths) (hnonneg : DensityLayer.negativeWidth? w = some false) :
    summand (widthSum widths) w = .whole w.wholePart ∧ w.wholePart < limit := by
  generalize hhow : widthSum widths = how at hlimit
  have hone : 1 < limit := by
    cases how <;> cases hlimit <;> decide
  obtain ⟨n, rfl, hn⟩ | ⟨b, rfl⟩ := integer_or_flag_of_limit? (hhow ▸ hlimit) hw
  · have hpos : ¬ n < 0 := of_decide_eq_false (Option.some.inj hnonneg)
    obtain ⟨m, rfl⟩ := Int.eq_ofNat_of_zero_le (not_lt.mp hpos)
    exact ⟨summand_integer hlimit m, by simpa [Value.wholePart] using hn⟩
  · rw [summand_flag hlimit]
    cases b with
    | false => exact ⟨rfl, Nat.zero_lt_of_lt hone⟩
    | true => exact ⟨rfl, hone⟩

/-- The sum of widths that are summed up as integers of a fixed width is such an integer, too. -/
def WidthsFit (widths : List (Value ℝ)) : Prop :=
  ∀ limit, (widthSum widths).limit? = some limit → (widths.map Value.wholePart).sum < limit

section Nonneg

variable (hwidths : ∀ w ∈ widths, DensityLayer.negativeWidth? w = some false)

include hwidths

theorem map_summand_of_limit? (hlimit : (widthSum widths).limit? = some limit) :
    widths.map (summand (widthSum widths)) =
      (widths.map Value.wholePart).map fun (n : ℕ) => .whole n := by
  rw [List.map_map]
  exact List.map_congr_left fun w hw => (summand_of_limit? hlimit hw (hwidths w hw)).1

theorem upperEnds_eq_running : upperEnds widths =
    running (addWidths (widthSum widths)) (widths.map (summand (widthSum widths))) := by
  have hread := listMapM_eq_ok fun w hw => read_eq_summand (widthSum widths) (hwidths w hw)
  unfold upperEnds
  dsimp only
  rw [hread, ok_bind]

/-- Widths that are not negative can be summed up. -/
theorem exists_upperEnds : ∃ ends, upperEnds widths = .ok ends := by
  rw [upperEnds_eq_running hwidths]
  exact exists_running (exists_addWidths _) _

/-- The upper ends of layers are the sums of their widths as real numbers if these fit. -/
theorem WidthsFit.exists_upperEnds (h : WidthsFit widths) :
    ∃ ends, upperEnds widths = .ok ends ∧
      ends.map Quantity.amount = altitudesFrom 0 (widths.map Value.amount) := by
  have hfits : SumFits (widthSum widths) (widths.map (summand (widthSum widths))) :=
    fun limit hlimit => ⟨_, map_summand_of_limit? hwidths hlimit, h limit hlimit⟩
  rw [upperEnds_eq_running hwidths]
  cases widths with
  | nil => exact ⟨[], rfl, rfl⟩
  | cons first rest =>
    rw [List.map_cons] at hfits
    obtain ⟨ends, hgo, hends⟩ := hfits.exists_running
    refine ⟨_, hgo, ?_⟩
    simp only [List.map_cons, hends, altitudesFrom, zero_add, amount_summand, List.map_map,
      Function.comp_def]

/-- They are such sums only if these fit: what is summed up as integers of a fixed width stays below
their limit. -/
theorem widthsFit_of_upperEnds {ends : List (Quantity ℝ)} (hends : upperEnds widths = .ok ends)
    (hamounts : ends.map Quantity.amount = altitudesFrom 0 (widths.map Value.amount)) :
    WidthsFit widths := by
  intro limit hlimit
  have hwhole := map_summand_of_limit? hwidths hlimit
  have hsum : (widths.map Value.amount).sum = ((widths.map Value.wholePart).sum : ℕ) := by
    have hvalues : widths.map Value.amount =
        (widths.map (summand (widthSum widths))).map Quantity.amount := by
      simp only [List.map_map, Function.comp_def, amount_summand]
    rw [hvalues, hwhole, Nat.cast_list_sum]
    simp only [List.map_map, Function.comp_def, Quantity.amount, Int.cast_natCast]
  rw [upperEnds_eq_running hwidths, hwhole] at hends
  cases widths with
  | nil => simp [widthSum, WidthSum.limit?] at hlimit
  | cons first rest =>
    have hfirst : (Quantity.whole first.wholePart).amount < limit := by
      have hlt := (summand_of_limit? hlimit List.mem_cons_self (hwidths first List.mem_cons_self)).2
      rw [Quantity.amount]
      exact_mod_cast hlt
    have hgo : running.go (addWidths (widthSum (first :: rest))) (.whole first.wholePart)
        ((rest.map fun w => (w.wholePart : ℤ)).map Quantity.whole) = .ok ends := by
      rw [← hends, List.map_map, List.map_map, List.map_cons, running]
      rfl
    -- the altitude above all layers is one of the ends, and these are all below the limit
    have htotal := add_sum_mem_altitudesFrom 0
      (List.cons_ne_nil first.amount (rest.map Value.amount))
    rw [← List.map_cons, ← hamounts] at htotal
    obtain ⟨q, hq, hamount⟩ := List.mem_map.mp htotal
    have hlt := amount_lt_of_running hlimit hfirst hgo q hq
    rw [hamount, zero_add, hsum] at hlt
    exact_mod_cast hlt

end Nonneg

end Profile

end Airlight
