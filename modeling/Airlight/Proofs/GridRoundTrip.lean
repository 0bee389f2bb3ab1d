import Airlight.Proofs.Invariants
import Airlight.Proofs.Tensors
import Airlight.Grid.RayArrays

/-!
# Rays recovered from their coordinates

Over the real numbers the map from coordinates to rays undoes the map from rays to coordinates. Two
kinds of rays have no length and share one coordinate of the view cosine: those that fall from a
point on the ground and those that rise from a point at the top. They come back as vertical rays.
-/

namespace Airlight

open Scalar Texture Grid

namespace Shell

variable {s : Shell ℝ} {r mu uR half size : ℝ}

/-- A radius is recovered from its coordinate. -/
theorem radiusAt_radiusCoord (hs : s.Proper) (hr : r ∈ Set.Icc s.bottom s.top) (hsize : 1 < size) :
    s.radiusAt size (s.radiusCoord size r) = (r, s.horizonDistance r) := by
  refine radiusAt_eq hs hr ?_
  rw [radiusCoord_real, unitOfCoord_coordOfUnit hsize,
    mul_div_cancel₀ _ (horizonLength_pos hs).ne']

theorem radiusCoord_mem (hs : s.Proper) (hr : r ∈ Set.Icc s.bottom s.top) (hsize : 1 < size) :
    s.radiusCoord size r ∈ Set.Icc (1 / 2 / size) (1 - 1 / 2 / size) := by
  have hH := horizonLength_pos hs
  exact coordOfUnit_mem hsize (div_nonneg (horizonDistance_nonneg s r) hH.le)
    ((div_le_one hH).mpr (horizonDistance_le_horizonLength hs hr))

/-- A ray that meets the ground has a coordinate in the lower half, which gives its distance to the
ground back. -/
theorem viewDistanceAt_viewCoord_ground (hs : s.Proper) (hr : s.bottom ≤ r) (hmu : -1 ≤ mu)
    (hhalf : 1 < half) (hrad : s.radiusAt size uR = (r, s.horizonDistance r))
    (hmeets : s.meetsGround r mu = true) :
    s.viewCoord half r mu true < 1 / 2 ∧
      s.viewDistanceAt half size (s.viewCoord half r mu true) uR = s.distanceToBottom r mu := by
  have hd := distanceToBottom_mem hs hr hmu hmeets
  have hx := fraction_mem hd
  have hcoord := (coordOfUnit_mem hhalf hx.1 hx.2).1
  have hpos : 0 < 1 / 2 / half := by positivity
  have hlt : s.viewCoord half r mu true < 1 / 2 := by
    rw [viewCoord_ground hs hr hmeets]
    linarith
  refine ⟨hlt, ?_⟩
  rw [viewDistanceAt_ground hrad hlt, viewCoord_ground hs hr hmeets,
    show ∀ c : ℝ, 1 - 2 * (1 / 2 - 1 / 2 * c) = c from fun c => by ring,
    unitOfCoord_coordOfUnit hhalf, of_fraction hd]

/-- A ray that misses the ground has a coordinate in the upper half, which gives its distance to the
top back. -/
theorem viewDistanceAt_viewCoord_sky (hs : s.Proper) (hr : r ∈ Set.Icc s.bottom s.top)
    (hmu : mu ≤ 1) (hhalf : 1 < half) (hrad : s.radiusAt size uR = (r, s.horizonDistance r))
    (hmisses : ¬ s.meetsGround r mu = true) :
    1 / 2 ≤ s.viewCoord half r mu false ∧
      s.viewDistanceAt half size (s.viewCoord half r mu false) uR = s.distanceToTop r mu := by
  have hd := distanceToTop_mem hs hr hmu (neg_horizonDistance_le hs hr.1 hmisses)
  have hx := fraction_mem hd
  have hcoord := (coordOfUnit_mem hhalf hx.1 hx.2).1
  have hpos : 0 < 1 / 2 / half := by positivity
  have hle : 1 / 2 ≤ s.viewCoord half r mu false := by
    rw [viewCoord_sky hs hr]
    linarith
  refine ⟨hle, ?_⟩
  rw [viewDistanceAt_sky hrad hle, viewCoord_sky hs hr,
    show ∀ c : ℝ, 2 * (1 / 2 + 1 / 2 * c) - 1 = c from fun c => by ring,
    unitOfCoord_coordOfUnit hhalf, of_fraction hd]

theorem viewCoord_lt_half_iff (hs : s.Proper) (hr : r ∈ Set.Icc s.bottom s.top)
    (hmu : mu ∈ Set.Icc (-1) 1) (hhalf : 1 < half) :
    s.viewCoord half r mu (s.meetsGround r mu) < 1 / 2 ↔ s.meetsGround r mu = true := by
  have hrad := radiusAt_radiusCoord hs hr (by norm_num : (1 : ℝ) < 2)
  by_cases hmeets : s.meetsGround r mu = true
  · simpa [hmeets] using (viewDistanceAt_viewCoord_ground hs hr.1 hmu.1 hhalf hrad hmeets).1
  · simpa [hmeets] using (viewDistanceAt_viewCoord_sky hs hr hmu.2 hhalf hrad hmeets).1

/-- The view cosine that a ray comes back with. -/
noncomputable def recoveredCosine (s : Shell ℝ) (r mu : ℝ) : ℝ :=
  if s.meetsGround r mu = true ∧ r = s.bottom then -1
  else if r = s.top ∧ 0 ≤ mu then 1
  else mu

theorem recoveredCosine_of_misses (hmisses : ¬ s.meetsGround r mu = true) :
    s.recoveredCosine r mu = if r = s.top ∧ 0 ≤ mu then 1 else mu :=
  if_neg fun h => hmisses h.1

theorem viewCosineAt_viewCoord_ground (hs : s.Proper) (hr : r ∈ Set.Icc s.bottom s.top)
    (hmu : mu ∈ Set.Icc (-1) 1) (hhalf : 1 < half)
    (hrad : s.radiusAt size uR = (r, s.horizonDistance r)) (hmeets : s.meetsGround r mu = true) :
    s.viewCosineAt half size (s.viewCoord half r mu true) uR = s.recoveredCosine r mu := by
  obtain ⟨hlt, hdist⟩ := viewDistanceAt_viewCoord_ground hs hr.1 hmu.1 hhalf hrad hmeets
  have hneg := ((meetsGround_iff s r mu).mp hmeets).1
  have hd := distanceToBottom_mem hs hr.1 hmu.1 hmeets
  have hreach := (distanceToBottom_reaches hs hr.1 hmeets).2.1
  rw [viewCosineAt_ground hrad hlt hdist, recoveredCosine]
  rcases hr.1.eq_or_lt with hbottom | habove
  · subst hbottom
    rw [distanceToBottom_bottom hneg.le hs.bottom_pos.le, groundCosine_zero, if_pos ⟨hmeets, rfl⟩]
    norm_num
  · have hne : s.distanceToBottom r mu ≠ 0 := by
      have := hd.1
      linarith
    rw [if_neg fun h => habove.ne' h.2, if_neg fun h => absurd h.2 (not_le.mpr hneg),
      (groundCosine_eq_iff hs hr.1 hne).mpr hreach, clampCosine_eq_self hmu.1 hmu.2]

theorem viewCosineAt_viewCoord_sky (hs : s.Proper) (hr : r ∈ Set.Icc s.bottom s.top)
    (hmu : mu ∈ Set.Icc (-1) 1) (hhalf : 1 < half)
    (hrad : s.radiusAt size uR = (r, s.horizonDistance r))
    (hmisses : ¬ s.meetsGround r mu = true) :
    s.viewCosineAt half size (s.viewCoord half r mu false) uR = s.recoveredCosine r mu := by
  obtain ⟨hle, hdist⟩ := viewDistanceAt_viewCoord_sky hs hr hmu.2 hhalf hrad hmisses
  have hd := distanceToTop_mem hs hr hmu.2 (neg_horizonDistance_le hs hr.1 hmisses)
  obtain ⟨-, hreach, hup⟩ := distanceToTop_reaches (hs.bottom_pos.le.trans hr.1) hr.2 mu
  rw [viewCosineAt_sky hrad hle hdist, recoveredCosine_of_misses hmisses]
  by_cases hzero : s.distanceToTop r mu = 0
  · have htop : r = s.top := le_antisymm hr.2 (by linarith [hd.1])
    have hrise : 0 ≤ mu := by
      rw [hzero, zero_add, htop] at hup
      exact nonneg_of_mul_nonneg_right hup hs.top_pos
    rw [hzero, skyCosine_zero, if_pos ⟨htop, hrise⟩]
    norm_num
  · have hnot : ¬ (r = s.top ∧ 0 ≤ mu) := by
      rintro ⟨rfl, hrise⟩
      exact hzero (distanceToTop_top hrise hs.top_pos.le)
    rw [if_neg hnot, (skyCosine_eq_iff hs hr.1 hzero).mpr hreach,
      clampCosine_eq_self hmu.1 hmu.2]

/-- The view cosine is recovered from its coordinate, up to the rays without length. -/
theorem viewCosineAt_viewCoord (hs : s.Proper) (hr : r ∈ Set.Icc s.bottom s.top)
    (hmu : mu ∈ Set.Icc (-1) 1) (hhalf : 1 < half)
    (hrad : s.radiusAt size uR = (r, s.horizonDistance r)) :
    s.viewCosineAt half size (s.viewCoord half r mu (s.meetsGround r mu)) uR =
      s.recoveredCosine r mu := by
  cases hmeets : s.meetsGround r mu with
  | true => exact viewCosineAt_viewCoord_ground hs hr hmu hhalf hrad hmeets
  | false => exact viewCosineAt_viewCoord_sky hs hr hmu hhalf hrad (by simp [hmeets])

end Shell

namespace LitShell

variable {s : LitShell ℝ} {m size : ℝ}

/-- The value that is stored for a sun cosine in the range of the grid. -/
theorem sunCoord_eq (hs : s.Proper) (hm : m ∈ Set.Icc s.muSMin 1) (size : ℝ) :
    ∃ x ∈ Set.Icc (0 : ℝ) 1, s.sunCoord size m = coordOfUnit x size ∧
      min ((s.sunFraction s.muSMin - x * s.sunFraction s.muSMin) /
        (1 + x * s.sunFraction s.muSMin)) (s.sunFraction s.muSMin) = s.sunFraction m := by
  have ha := sunFraction_nonneg hs hm.2
  have hA := sunFraction_muSMin_pos hs
  have haA := (sunFraction_strictAnti hs).antitone hm.1
  exact ⟨_, sunUnit_mem ha haA hA, sunCoord_real s size m, fraction_of_sunUnit ha haA hA rfl⟩

/-- A sun cosine in the range of the grid is recovered from its coordinate. -/
theorem sunCosineAt_sunCoord (hs : s.Proper) (hm : m ∈ Set.Icc s.muSMin 1) (hsize : 1 < size) :
    s.sunCosineAt size (s.sunCoord size m) = m := by
  obtain ⟨x, -, hcoord, hfraction⟩ := sunCoord_eq hs hm size
  obtain ⟨hd, hreach⟩ := sunDistance_reaches hs m
  have hx : unitOfCoord (s.sunCoord size m) size = x := by
    rw [hcoord, unitOfCoord_coordOfUnit hsize]
  rw [sunCosineAt_real s hx hfraction (sunDistance_eq hs m).symm,
    (Shell.skyCosine_eq_iff hs.shell le_rfl hd.ne').mpr hreach,
    clampCosine_eq_self (hs.neg_one_le_muSMin.trans hm.1) hm.2]

theorem sunCoord_mem (hs : s.Proper) (hm : m ∈ Set.Icc s.muSMin 1) (hsize : 1 < size) :
    s.sunCoord size m ∈ Set.Icc (1 / 2 / size) (1 - 1 / 2 / size) := by
  obtain ⟨x, hx, hcoord, -⟩ := sunCoord_eq hs hm size
  rw [hcoord]
  exact coordOfUnit_mem hsize hx.1 hx.2

end LitShell

namespace Grid

variable {s : LitShell ℝ} {e : Extents} {ray : Ray ℝ}

theorem nuAt_nuCoord {nu : ℝ} (hnu : nu ∈ Set.Icc (-1) 1) : nuAt (nuCoord nu) = nu := by
  have h : nuCoord nu * 2.0 - 1.0 = nu := by
    unfold nuCoord
    norm_num
  rw [nuAt, h, clampCosine_eq_self hnu.1 hnu.2]

namespace GridSizes

/-- Sizes that have numbers enter the coordinates of a single ray by these. -/
theorem encodeArrays_single_of_number {α : Type} [Scalar α] [Inhabited α]
    (hnumber : ∀ n : ℕ, (Quantity.whole n : Quantity α).number = .ok (n : α)) (e : Extents)
    (s : LitShell α) (ray : Ray α) (ground : Bool) :
    (ofExtents e).encodeArrays s (.single ray.r) (.single ray.mu) (.single ray.muS)
        (.single ray.nu) (.single ground) =
      .ok [.single (e.scale.encode s ray ground).uNu, .single (e.scale.encode s ray ground).uMuS,
        .single (e.scale.encode s ray ground).uMu, .single (e.scale.encode s ray ground).uR] := by
  have hhalf : (Quantity.whole (e.muSize : ℤ) : Quantity α).half.number =
      .ok ((e.muSize / 2 : ℕ) : α) := hnumber (e.muSize / 2)
  simp only [encodeArrays, ofExtents, hhalf, hnumber, ok_bind, Tensor.map₃_single,
    Tensor.map_single, pure_eq_ok]
  rfl

/-- For single rays the arrays of coordinates hold the coordinates of the ray. -/
theorem encodeArrays_single (e : Extents) (s : LitShell ℝ) (ray : Ray ℝ) (ground : Bool) :
    (ofExtents e).encodeArrays s (.single ray.r) (.single ray.mu) (.single ray.muS)
        (.single ray.nu) (.single ground) =
      .ok [.single (e.scale.encode s ray ground).uNu, .single (e.scale.encode s ray ground).uMuS,
        .single (e.scale.encode s ray ground).uMu, .single (e.scale.encode s ray ground).uR] :=
  encodeArrays_single_of_number (fun _ => rfl) e s ray ground

/-- For single coordinates the arrays of rays hold the ray at the coordinates. -/
theorem decodeArrays_single (e : Extents) (s : LitShell ℝ) (u : Coords ℝ) :
    (ofExtents e).decodeArrays s (.single u.uNu) (.single u.uMuS) (.single u.uMu) (.single u.uR) =
      .ok ([.single (e.scale.decode s u).1.r, .single (e.scale.decode s u).1.mu,
        .single (e.scale.decode s u).1.muS, .single (e.scale.decode s u).1.nu],
        .single (e.scale.decode s u).2) := by
  simp only [decodeArrays, ofExtents, Quantity.half, Quantity.number_whole, ok_bind,
    Tensor.map₂_single,
    Tensor.map_single, pure_eq_ok]
  rfl

end GridSizes

namespace GridScale

/-- The ray at the coordinates of a ray. -/
theorem decode_encode (hs : s.Proper) (e : Extents)
    (hr : ray.r ∈ Set.Icc s.bottom s.top) (hmu : ray.mu ∈ Set.Icc (-1) 1)
    (hmuS : ray.muS ∈ Set.Icc s.muSMin 1) (hnu : ray.nu ∈ Set.Icc (-1) 1) :
    e.scale.decode s (e.scale.encode s ray (s.toShell.meetsGround ray.r ray.mu)) =
      ({ ray with mu := s.toShell.recoveredCosine ray.r ray.mu },
        s.toShell.meetsGround ray.r ray.mu) := by
  have hrad := Shell.radiusAt_radiusCoord hs.shell hr e.one_lt_rSize
  have hcos := Shell.viewCosineAt_viewCoord hs.shell hr hmu e.one_lt_halfMu hrad
  have hsun := LitShell.sunCosineAt_sunCoord hs hmuS e.one_lt_muSSize
  have hground := Shell.viewCoord_lt_half_iff hs.shell hr hmu e.one_lt_halfMu
  have hflag : decide (s.toShell.viewCoord (e.muSize / 2 : ℕ) ray.r ray.mu
      (s.toShell.meetsGround ray.r ray.mu) < 0.5) = s.toShell.meetsGround ray.r ray.mu := by
    norm_num [hground]
  simp only [decode, encode, Extents.scale_r, Extents.scale_muS, Extents.scale_halfMu, hrad, hcos,
    hsun, nuAt_nuCoord hnu]
  exact congrArg (Prod.mk _) hflag

/-- The rays that do not come back with their own view cosine have no length. -/
theorem distanceToNearest_eq_zero (hs : s.Proper)
    (h : s.toShell.meetsGround ray.r ray.mu = true ∧ ray.r = s.bottom ∨
      ray.r = s.top ∧ 0 ≤ ray.mu) :
    s.toShell.distanceToNearest ray.r ray.mu (s.toShell.meetsGround ray.r ray.mu) = 0 := by
  unfold Shell.distanceToNearest
  rcases h with ⟨hmeets, hbottom⟩ | ⟨htop, hrise⟩
  · have hneg := ((Shell.meetsGround_iff _ _ _).mp hmeets).1
    rw [if_pos hmeets, hbottom]
    exact Shell.distanceToBottom_bottom hneg.le hs.shell.bottom_pos.le
  · have hmisses : ¬ s.toShell.meetsGround ray.r ray.mu = true := fun hmeets =>
      absurd ((Shell.meetsGround_iff _ _ _).mp hmeets).1 (not_lt.mpr hrise)
    rw [if_neg hmisses, htop]
    exact Shell.distanceToTop_top hrise hs.shell.top_pos.le

end GridScale

namespace GridSizes

variable {p : Parameters ℝ}

/-- In checked parameters the maps from rays to coordinates and back recover every ray of the
physical domain, up to the view cosines of rays without length. The coordinates of radius and sun
lie between the centres of the outermost texels, and the coordinate of the view cosine tells whether
the ray hits the ground. -/
theorem decodeArrays_encodeArrays (hp : p.validate = .ok ()) (e : Extents) (ray : Ray ℝ)
    (hr : ray.r ∈ Set.Icc p.bottom p.top) (hmu : ray.mu ∈ Set.Icc (-1) 1)
    (hmuS : ray.muS ∈ Set.Icc p.muSMin 1) (hnu : ray.nu ∈ Set.Icc (-1) 1) :
    let ground := p.shell.meetsGround ray.r ray.mu
    ∃ u : Coords ℝ,
      (ofExtents e).encodeArrays p.toLitShell (.single ray.r) (.single ray.mu) (.single ray.muS)
          (.single ray.nu) (.single ground) =
        .ok [.single u.uNu, .single u.uMuS, .single u.uMu, .single u.uR] ∧
      (ofExtents e).decodeArrays p.toLitShell (.single u.uNu) (.single u.uMuS) (.single u.uMu)
          (.single u.uR) =
        .ok ([.single ray.r, .single (p.shell.recoveredCosine ray.r ray.mu), .single ray.muS,
          .single ray.nu], .single ground) ∧
      (ground = true ∧ ray.r = p.bottom ∨ ray.r = p.top ∧ 0 ≤ ray.mu →
        p.shell.distanceToNearest ray.r ray.mu ground = 0) ∧
      u.uR ∈ Set.Icc (1 / 2 / e.rSize : ℝ) (1 - 1 / 2 / e.rSize) ∧
      u.uMuS ∈ Set.Icc (1 / 2 / e.muSSize : ℝ) (1 - 1 / 2 / e.muSSize) ∧
      (u.uMu < 1 / 2 ↔ ground = true) := by
  intro ground
  have hs := Parameters.proper_of_validate hp
  refine ⟨e.scale.encode p.toLitShell ray ground, encodeArrays_single e _ ray ground, ?_,
    GridScale.distanceToNearest_eq_zero hs, Shell.radiusCoord_mem hs.shell hr e.one_lt_rSize,
    LitShell.sunCoord_mem hs hmuS e.one_lt_muSSize,
    Shell.viewCoord_lt_half_iff hs.shell hr hmu e.one_lt_halfMu⟩
  rw [decodeArrays_single, GridScale.decode_encode hs e hr hmu hmuS hnu]

/-- A level ray 40 km above the ground, under a sun in the zenith. -/
theorem decodeArrays_encodeArrays_level :
    ∃ u : Coords ℝ,
      (ofExtents .standard).encodeArrays (Parameters.earth : Parameters ℝ).toLitShell
          (.single 6400000) (.single 0) (.single 1) (.single 0) (.single false) =
        .ok [.single u.uNu, .single u.uMuS, .single u.uMu, .single u.uR] ∧
      (ofExtents .standard).decodeArrays (Parameters.earth : Parameters ℝ).toLitShell
          (.single u.uNu) (.single u.uMuS) (.single u.uMu) (.single u.uR) =
        .ok ([.single 6400000, .single 0, .single 1, .single 0], .single false) := by
  have hmisses : (Parameters.earth : Parameters ℝ).shell.meetsGround 6400000 0 = false := by
    norm_num [Shell.meetsGround]
  have hcosine : (Parameters.earth : Parameters ℝ).shell.recoveredCosine 6400000 0 = 0 := by
    norm_num [Shell.recoveredCosine, hmisses, Parameters.earth, Earth.topRadius, Earth.radius]
  obtain ⟨u, hencode, hdecode, -⟩ :=
    decodeArrays_encodeArrays Parameters.validate_earth .standard
      { r := 6400000, mu := 0, muS := 1, nu := 0 }
      ⟨by norm_num [Parameters.earth, Earth.radius],
        by norm_num [Parameters.earth, Earth.topRadius, Earth.radius]⟩
      ⟨by norm_num, by norm_num⟩ ⟨Parameters.muSMin_earth_lt_one.le, le_rfl⟩
      ⟨by norm_num, by norm_num⟩
  simp only [hmisses, hcosine] at hencode hdecode
  exact ⟨u, hencode, hdecode⟩

end GridSizes

end Grid

end Airlight
