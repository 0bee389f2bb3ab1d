import Airlight.Proofs.TransmittanceBounds

/-!
# Where rays leave the shell

The distance to the nearest boundary of the atmosphere is the distance at which the ray leaves the
shell for the first time: up to there every point of the ray lies in the shell, and right behind it
the ray is outside. The rays that touch the ground without entering it are the only exception, as
they stay in the shell behind the point of contact.

The squared radius along a ray is a parabola, and a distance to a boundary is one of its roots. Each
proof compares two values of the parabola, whose difference is a product of two linear factors.

## Main definitions

* `Shell.Grazes` — a falling ray whose lowest point lies on the ground.
-/

namespace Airlight

open Scalar

namespace Shell

variable {s : Shell ℝ} {r mu mu' t d x : ℝ}

/-! ## Radii along a ray -/

theorem radiusAlong_le_iff (hx : 0 ≤ x) :
    radiusAlong r mu t ≤ x ↔ r ^ 2 + 2 * r * mu * t + t ^ 2 ≤ x ^ 2 := by
  rw [radiusAlong_real, Real.sqrt_le_left hx]

theorem le_radiusAlong_iff (hx : 0 < x) :
    x ≤ radiusAlong r mu t ↔ x ^ 2 ≤ r ^ 2 + 2 * r * mu * t + t ^ 2 := by
  rw [radiusAlong_real, Real.le_sqrt' hx]

theorem radiusAlong_eq_of_sq (hx : 0 ≤ x) (h : r ^ 2 + 2 * r * mu * t + t ^ 2 = x ^ 2) :
    radiusAlong r mu t = x := by
  rw [radiusAlong_real, h, Real.sqrt_sq hx]

/-- How much the squared radius changes between two distances. -/
theorem sq_radius_sub (r mu t d : ℝ) :
    r ^ 2 + 2 * r * mu * t + t ^ 2 - (r ^ 2 + 2 * r * mu * d + d ^ 2) =
      (t - d) * (t + d + 2 * (r * mu)) := by
  ring

/-- From the centre a point of a ray is no nearer than the line through the ray. -/
theorem sq_radius_eq (r mu t : ℝ) :
    r ^ 2 + 2 * r * mu * t + t ^ 2 = (t + r * mu) ^ 2 + r ^ 2 * (1 - mu ^ 2) := by
  ring

/-! ## Rays to the top -/

/-- Up to the top no point of a ray lies above it. -/
theorem radiusAlong_le_top (hs : s.Proper) (hr : r ∈ Set.Icc s.bottom s.top)
    (ht : t ∈ Set.Icc 0 (s.distanceToTop r mu)) : radiusAlong r mu t ≤ s.top := by
  have hr0 : 0 ≤ r := hs.bottom_pos.le.trans hr.1
  obtain ⟨hd, hreach, hup⟩ := distanceToTop_reaches hr0 hr.2 mu
  rw [radiusAlong_le_iff hs.top_pos.le, ← hreach]
  set d := s.distanceToTop r mu
  -- the parabola is convex, so between its ends it stays below the larger one
  have hconvex : r ^ 2 + 2 * r * mu * t + t ^ 2 ≤ max (r ^ 2) (s.top ^ 2) := by
    rcases le_total 0 (t + d + 2 * (r * mu)) with h | h
    · have := mul_nonneg (sub_nonneg.mpr ht.2) h
      exact le_max_of_le_right (by nlinarith [sq_radius_sub r mu t d])
    · exact le_max_of_le_left (by nlinarith [ht.1, ht.2])
  rw [hreach]
  exact hconvex.trans (max_le (pow_le_pow_left₀ hr0 hr.2 2) le_rfl)

/-- Behind the top a ray is above it. -/
theorem top_lt_radiusAlong (hs : s.Proper) (hr : r ∈ Set.Icc s.bottom s.top)
    (ht : s.distanceToTop r mu < t) : s.top < radiusAlong r mu t := by
  obtain ⟨-, hreach, hup⟩ := distanceToTop_reaches (hs.bottom_pos.le.trans hr.1) hr.2 mu
  rw [← not_le, radiusAlong_le_iff hs.top_pos.le, not_le, ← hreach, ← sub_pos, sq_radius_sub]
  exact mul_pos (sub_pos.mpr ht) (by linarith)

theorem radiusAlong_distanceToTop (hs : s.Proper) (hr : r ∈ Set.Icc s.bottom s.top) (mu : ℝ) :
    radiusAlong r mu (s.distanceToTop r mu) = s.top :=
  radiusAlong_eq_of_sq hs.top_pos.le
    (distanceToTop_reaches (hs.bottom_pos.le.trans hr.1) hr.2 mu).2.1

/-- A ray that does not fall steeper than the ray to the horizon stays in the shell up to the top.
-/
theorem radiusAlong_mem_of_flat (hs : s.Proper) (hr : r ∈ Set.Icc s.bottom s.top)
    (hflat : -s.horizonDistance r ≤ r * mu) (ht : t ∈ Set.Icc 0 (s.distanceToTop r mu)) :
    radiusAlong r mu t ∈ Set.Icc s.bottom s.top :=
  ⟨bottom_le_radiusAlong hs hr.1 hflat ht.1, radiusAlong_le_top hs hr ht⟩

/-! ## Rays to the ground -/

/-- Up to the ground a ray that meets it falls. -/
theorem radiusAlong_mem_of_meetsGround (hs : s.Proper) (hr : r ∈ Set.Icc s.bottom s.top)
    (hmeets : s.meetsGround r mu = true) (ht : t ∈ Set.Icc 0 (s.distanceToBottom r mu)) :
    radiusAlong r mu t ∈ Set.Icc s.bottom s.top := by
  have hr0 : 0 ≤ r := hs.bottom_pos.le.trans hr.1
  obtain ⟨-, hreach, hdown⟩ := distanceToBottom_reaches hs hr.1 hmeets
  set d := s.distanceToBottom r mu
  constructor
  · rw [le_radiusAlong_iff hs.bottom_pos, ← hreach, ← sub_nonneg, sq_radius_sub]
    exact mul_nonneg_of_nonpos_of_nonpos (by linarith [ht.2]) (by linarith [ht.2])
  · refine le_trans ((radiusAlong_le_iff hr0).mpr ?_) hr.2
    have : t * (t + 2 * (r * mu)) ≤ 0 :=
      mul_nonpos_of_nonneg_of_nonpos ht.1 (by linarith [ht.1, ht.2])
    linarith

theorem radiusAlong_distanceToBottom (hs : s.Proper) (hr : s.bottom ≤ r)
    (hmeets : s.meetsGround r mu = true) :
    radiusAlong r mu (s.distanceToBottom r mu) = s.bottom :=
  radiusAlong_eq_of_sq hs.bottom_pos.le (distanceToBottom_reaches hs hr hmeets).2.1

/-! ## Steeper rays -/

/-- The less a ray rises, the longer is its way to the top. -/
theorem antitone_distanceToTop (hr : 0 ≤ r) (htop : r ≤ s.top) :
    Antitone (s.distanceToTop r) := by
  intro mu mu' hmu
  obtain ⟨hd, hreach, hup⟩ := distanceToTop_reaches hr htop mu
  obtain ⟨-, hreach', -⟩ := distanceToTop_reaches hr htop mu'
  set d := s.distanceToTop r mu
  set d' := s.distanceToTop r mu'
  by_contra! hlt
  have hrise : r * mu ≤ r * mu' := mul_le_mul_of_nonneg_left hmu hr
  -- at the distance `d` the higher ray is no lower than the top, and behind it the ray rises
  have hreached : (r * mu) * d ≤ (r * mu') * d := mul_le_mul_of_nonneg_right hrise hd
  have hbehind : 0 < (d' - d) * (d' + d + 2 * (r * mu')) :=
    mul_pos (sub_pos.mpr hlt) (by linarith)
  linarith [sq_radius_sub r mu' d' d]

/-- Of two rays that meet the ground the steeper one is not longer. -/
theorem distanceToBottom_le (hs : s.Proper) (hr : s.bottom ≤ r)
    (hmeets : s.meetsGround r mu = true) (hmeets' : s.meetsGround r mu' = true) (hmu : mu ≤ mu') :
    s.distanceToBottom r mu ≤ s.distanceToBottom r mu' := by
  have hr0 : 0 ≤ r := hs.bottom_pos.le.trans hr
  obtain ⟨hd, hreach, hdown⟩ := distanceToBottom_reaches hs hr hmeets
  obtain ⟨hd', hreach', -⟩ := distanceToBottom_reaches hs hr hmeets'
  set d := s.distanceToBottom r mu
  set d' := s.distanceToBottom r mu'
  by_contra! hlt
  have hrise : r * mu ≤ r * mu' := mul_le_mul_of_nonneg_left hmu hr0
  -- before the steeper ray reaches the ground it is above it, and it is no higher than the other
  have hreached : (r * mu) * d' ≤ (r * mu') * d' := mul_le_mul_of_nonneg_right hrise hd'
  have hbefore : 0 < (d' - d) * (d' + d + 2 * (r * mu)) :=
    mul_pos_of_neg_of_neg (sub_neg.mpr hlt) (by linarith)
  linarith [sq_radius_sub r mu d' d]

/-! ## Rays that graze the ground -/

/-- The ray points downwards, and the point of it that is nearest to the centre lies on the ground.
-/
def Grazes (s : Shell ℝ) (r mu : ℝ) : Prop := mu < 0 ∧ r ^ 2 * (1 - mu ^ 2) = s.bottom ^ 2

theorem Grazes.meetsGround (h : s.Grazes r mu) : s.meetsGround r mu = true :=
  (meetsGround_iff s r mu).mpr ⟨h.1, by linarith [h.2, mul_pow r mu 2]⟩

/-- A ray that grazes the ground reaches it at its lowest point. -/
theorem Grazes.distanceToBottom_eq (h : s.Grazes r mu) (hs : s.Proper) (hr : s.bottom ≤ r) :
    s.distanceToBottom r mu = -(r * mu) := by
  obtain ⟨-, hreach, -⟩ := distanceToBottom_reaches hs hr h.meetsGround
  rw [sq_radius_eq, h.2, add_eq_right, sq_eq_zero_iff] at hreach
  linarith

/-- A ray that grazes the ground stays in the shell for a while. -/
theorem Grazes.radiusAlong_mem (h : s.Grazes r mu) (hs : s.Proper) (hr : s.bottom ≤ r)
    (ht : t - s.distanceToBottom r mu ∈ Set.Icc 0 s.horizonLength) :
    radiusAlong r mu t ∈ Set.Icc s.bottom s.top := by
  rw [h.distanceToBottom_eq hs hr, sub_neg_eq_add] at ht
  have hsq : (t + r * mu) ^ 2 ≤ s.horizonLength ^ 2 := pow_le_pow_left₀ ht.1 ht.2 2
  rw [sq_horizonLength hs] at hsq
  rw [Set.mem_Icc, le_radiusAlong_iff hs.bottom_pos, radiusAlong_le_iff hs.top_pos.le,
    sq_radius_eq, h.2]
  exact ⟨by linarith [sq_nonneg (t + r * mu)], by linarith⟩

/-- A ray that meets the ground without grazing it is below the ground until it has come out on the
other side. -/
theorem radiusAlong_lt_bottom (hs : s.Proper) (hr : s.bottom ≤ r)
    (hmeets : s.meetsGround r mu = true)
    (ht : t ∈ Set.Ioo (s.distanceToBottom r mu) (-2 * (r * mu) - s.distanceToBottom r mu)) :
    radiusAlong r mu t < s.bottom := by
  obtain ⟨-, hreach, -⟩ := distanceToBottom_reaches hs hr hmeets
  rw [← not_le, le_radiusAlong_iff hs.bottom_pos, not_le, ← hreach, ← sub_neg, sq_radius_sub]
  exact mul_neg_of_pos_of_neg (by linarith [ht.1]) (by linarith [ht.2])

/-- Only rays that graze the ground reach it at their lowest point. -/
theorem distanceToBottom_add_neg (hs : s.Proper) (hr : s.bottom ≤ r)
    (hmeets : s.meetsGround r mu = true) (hgrazes : ¬ s.Grazes r mu) :
    s.distanceToBottom r mu + r * mu < 0 := by
  obtain ⟨-, hreach, hdown⟩ := distanceToBottom_reaches hs hr hmeets
  refine lt_of_le_of_ne hdown fun hlowest => hgrazes ?_
  rw [sq_radius_eq, hlowest] at hreach
  exact ⟨((meetsGround_iff s r mu).mp hmeets).1, by linarith⟩

/-- From above the ground, exactly the rays that meet the ground come down to it. -/
theorem meetsGround_iff_exists_radiusAlong (hs : s.Proper) (hr : s.bottom < r) :
    s.meetsGround r mu = true ↔ ∃ t, 0 ≤ t ∧ radiusAlong r mu t ≤ s.bottom := by
  constructor
  · intro hmeets
    exact ⟨_, (distanceToBottom_reaches hs hr.le hmeets).1,
      (radiusAlong_distanceToBottom hs hr.le hmeets).le⟩
  · rintro ⟨t, ht, hle⟩
    rw [radiusAlong_le_iff hs.bottom_pos.le] at hle
    have hr0 : 0 < r := hs.bottom_pos.trans hr
    rw [meetsGround_iff]
    constructor
    · by_contra! hmu
      have hout : r ^ 2 ≤ s.bottom ^ 2 := by
        linarith [mul_nonneg (mul_nonneg hr0.le hmu) ht, sq_nonneg t]
      exact absurd hr (not_lt.mpr (le_of_sq_le_sq hout hs.bottom_pos.le))
    · rw [sq_radius_eq] at hle
      linarith [sq_nonneg (t + r * mu), mul_pow r mu 2]

/-! ## The nearest boundary -/

section

variable (hs : s.Proper) (hr : r ∈ Set.Icc s.bottom s.top)

include hs hr

/-- A ray stays in the shell up to the boundary that its flag names. -/
theorem radiusAlong_mem (ht : t ∈ Set.Icc 0 (s.distanceToNearest r mu (s.meetsGround r mu))) :
    radiusAlong r mu t ∈ Set.Icc s.bottom s.top := by
  unfold distanceToNearest at ht
  split_ifs at ht with hmeets
  · exact radiusAlong_mem_of_meetsGround hs hr hmeets ht
  · exact radiusAlong_mem_of_flat hs hr (neg_horizonDistance_le hs hr.1 hmeets) ht

theorem radiusAlong_distanceToNearest :
    radiusAlong r mu (s.distanceToNearest r mu (s.meetsGround r mu)) =
      if s.meetsGround r mu then s.bottom else s.top := by
  unfold distanceToNearest
  split_ifs with hmeets
  · exact radiusAlong_distanceToBottom hs hr.1 hmeets
  · exact radiusAlong_distanceToTop hs hr mu

/-- Behind the nearest boundary a ray is outside of the shell, unless it grazes the ground. -/
theorem exists_forall_radiusAlong_notMem_iff :
    (∃ e > 0, ∀ t ∈ Set.Ioo (s.distanceToNearest r mu (s.meetsGround r mu))
        (s.distanceToNearest r mu (s.meetsGround r mu) + e),
      radiusAlong r mu t ∉ Set.Icc s.bottom s.top) ↔ ¬ s.Grazes r mu := by
  constructor
  · rintro ⟨e, he, houtside⟩ hgrazes
    simp only [hgrazes.meetsGround, distanceToNearest, if_true] at houtside
    have hstep : 0 < min (e / 2) s.horizonLength := lt_min (by linarith) (horizonLength_pos hs)
    refine houtside (s.distanceToBottom r mu + min (e / 2) s.horizonLength)
      ⟨by linarith, by linarith [min_le_left (e / 2) s.horizonLength]⟩
      (hgrazes.radiusAlong_mem hs hr.1 ?_)
    rw [add_sub_cancel_left]
    exact ⟨hstep.le, min_le_right _ _⟩
  · intro hgrazes
    unfold distanceToNearest
    split_ifs with hmeets
    · have hdown := distanceToBottom_add_neg hs hr.1 hmeets hgrazes
      refine ⟨-2 * (s.distanceToBottom r mu + r * mu), by linarith, fun t ht hmem => ?_⟩
      exact absurd hmem.1
        (radiusAlong_lt_bottom hs hr.1 hmeets ⟨ht.1, by linarith [ht.2]⟩).not_ge
    · exact ⟨1, one_pos, fun t ht hmem => absurd hmem.2 (top_lt_radiusAlong hs hr ht.1).not_ge⟩

end

end Shell

open Shell in
/-- The distance to the nearest boundary of a checked atmosphere is the distance at which the ray
leaves the shell for the first time, to the ground exactly if the ray comes down to it. -/
theorem Parameters.distanceToNearest_isFirstExit {p : Parameters ℝ} (hp : p.validate = .ok ())
    {r : ℝ} (hr : r ∈ Set.Icc p.bottom p.top) (mu : ℝ) :
    let ground := p.toShell.meetsGround r mu
    let d := p.toShell.distanceToNearest r mu ground
    0 ≤ d ∧
      (∀ t ∈ Set.Icc 0 d, radiusAlong r mu t ∈ Set.Icc p.bottom p.top) ∧
      radiusAlong r mu d = (if ground then p.bottom else p.top) ∧
      ((∃ e > 0, ∀ t ∈ Set.Ioo d (d + e), radiusAlong r mu t ∉ Set.Icc p.bottom p.top) ↔
        ¬ p.toShell.Grazes r mu) ∧
      (p.bottom < r → (ground = true ↔ ∃ t, 0 ≤ t ∧ radiusAlong r mu t ≤ p.bottom)) := by
  have hs : p.toShell.Proper := (proper_of_validate hp).shell
  exact ⟨distanceToNearest_nonneg _ r mu _, fun _ ht => radiusAlong_mem hs hr ht,
    radiusAlong_distanceToNearest hs hr, exists_forall_radiusAlong_notMem_iff hs hr,
    fun habove => meetsGround_iff_exists_radiusAlong hs habove⟩

open Shell in
/-- The ray that falls straight down from twenty kilometres above the ground of the Earth leaves the
shell at the ground. -/
theorem Parameters.radiusAlong_vertical_earth :
    let p : Parameters ℝ := earth
    let d := p.toShell.distanceToNearest 6380000 (-1) (p.toShell.meetsGround 6380000 (-1))
    0 ≤ d ∧ radiusAlong 6380000 (-1) d = p.bottom ∧
      ∃ e > 0, ∀ t ∈ Set.Ioo d (d + e), radiusAlong 6380000 (-1) t ∉ Set.Icc p.bottom p.top := by
  intro p d
  have hr : (6380000 : ℝ) ∈ Set.Icc p.bottom p.top := by
    norm_num [p, earth, Earth.radius, Earth.topRadius]
  have hmeets : p.toShell.meetsGround 6380000 (-1) = true := by
    norm_num [meetsGround_iff, p, earth, Earth.radius]
  have hgrazes : ¬ p.toShell.Grazes 6380000 (-1) := by
    norm_num [Grazes, p, earth, Earth.radius]
  obtain ⟨hd, -, hreach, hexit, -⟩ := distanceToNearest_isFirstExit validate_earth hr (-1)
  exact ⟨hd, hreach.trans (if_pos hmeets), hexit.mpr hgrazes⟩

end Airlight
