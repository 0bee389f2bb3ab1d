import Airlight.Proofs.LayeredAir
import Airlight.Proofs.SingleLookups
import Airlight.Proofs.VoxelLight

/-!
# Lookups in the transmittance table

The table is written at the centres of its texels and read between them. Over the real numbers both
sides agree: the coordinates of the point and direction that a texel stands for are those of its
centre, and a lookup at a centre gives the texel. Below the top of the atmosphere the coordinates
also give back every direction that does not fall below the horizon.
-/

namespace Airlight

open Scalar Texture

namespace Shell

variable {s : Shell ℝ} {r mu u v width height : ℝ}

/-! ## Coordinates -/

/-- A row stands for a radius of the shell, with its distance to the horizon. -/
theorem tableRadius_spec (hs : s.Proper) (hv : unitOfCoord v height ∈ Set.Icc (0 : ℝ) 1) :
    s.tableRadius height v ∈ Set.Icc s.bottom s.top ∧
      s.horizonDistance (s.tableRadius height v) = s.tableRho height v := by
  obtain ⟨r, hr, hrho⟩ := exists_horizonDistance_eq hs hv
  have hr0 : 0 ≤ r := hs.bottom_pos.le.trans hr.1
  have hsq : s.tableRho height v * s.tableRho height v + s.bottom * s.bottom = r ^ 2 := by
    have hrho' : s.tableRho height v = s.horizonDistance r := hrho.symm
    rw [hrho']
    linear_combination sq_horizonDistance hs hr.1
  have hradius : s.tableRadius height v = r := by
    simp only [tableRadius, hsq, sqrt_real]
    exact Real.sqrt_sq hr0
  rw [hradius]
  exact ⟨hr, hrho⟩

/-- The distance to the top that a column of a row stands for. -/
noncomputable def tableDistance (s : Shell ℝ) (width height u v : ℝ) : ℝ :=
  s.top - s.tableRadius height v +
    (s.horizonDistance (s.tableRadius height v) + s.horizonLength -
      (s.top - s.tableRadius height v)) * unitOfCoord u width

theorem tableCosine_eq (hs : s.Proper) (hv : unitOfCoord v height ∈ Set.Icc (0 : ℝ) 1) :
    s.tableCosine width height u v =
      clampCosine (s.skyCosine (s.tableRadius height v) (s.tableDistance width height u v)) := by
  obtain ⟨-, hrho⟩ := tableRadius_spec hs hv
  have hd : s.top - s.tableRadius height v + unitOfCoord u width *
      (s.tableRho height v + s.horizonLength - (s.top - s.tableRadius height v)) =
        s.tableDistance width height u v := by
    rw [tableDistance, hrho, mul_comm (unitOfCoord u width)]
  simp only [tableCosine, skyCosine, hd, hrho]
  norm_num

/-- The direction of a texel reaches the top at the distance that its column stands for. -/
theorem tableCosine_spec (hs : s.Proper) (hu : unitOfCoord u width ∈ Set.Icc (0 : ℝ) 1)
    (hv : unitOfCoord v height ∈ Set.Icc (0 : ℝ) 1) :
    s.distanceToTop (s.tableRadius height v) (s.tableCosine width height u v) =
      s.tableDistance width height u v := by
  obtain ⟨hr, -⟩ := tableRadius_spec hs hv
  have hd : s.tableDistance width height u v ∈ Set.Icc (s.top - s.tableRadius height v)
      (s.horizonDistance (s.tableRadius height v) + s.horizonLength) := by
    have hspan := distanceToTop_span_pos hs hr.1
    exact between_of_fraction (by linarith) hu
  obtain ⟨hmu, -, hdist⟩ := skyCosine_spec hs hr hd
  rw [tableCosine_eq hs hv, clampCosine_eq_self hmu.1 hmu.2, hdist]

theorem tableV_real (s : Shell ℝ) (height r : ℝ) :
    s.tableV height r = coordOfUnit (s.horizonDistance r / s.horizonLength) height := rfl

theorem tableU_real (s : Shell ℝ) (width r mu : ℝ) :
    s.tableU width r mu = coordOfUnit ((s.distanceToTop r mu - (s.top - r)) /
      (s.horizonDistance r + s.horizonLength - (s.top - r))) width := rfl

/-- The radius of a row has the coordinate of the row. -/
theorem tableV_tableRadius (hs : s.Proper) (hheight : 1 < height)
    (hv : unitOfCoord v height ∈ Set.Icc (0 : ℝ) 1) :
    s.tableV height (s.tableRadius height v) = v := by
  rw [tableV_real, (tableRadius_spec hs hv).2, tableRho,
    mul_div_cancel_left₀ _ (horizonLength_pos hs).ne', coordOfUnit_unitOfCoord hheight]

/-- The direction of a texel has the coordinate of its column. -/
theorem tableU_tableCosine (hs : s.Proper) (hwidth : 1 < width)
    (hu : unitOfCoord u width ∈ Set.Icc (0 : ℝ) 1)
    (hv : unitOfCoord v height ∈ Set.Icc (0 : ℝ) 1) :
    s.tableU width (s.tableRadius height v) (s.tableCosine width height u v) = u := by
  obtain ⟨hr, -⟩ := tableRadius_spec hs hv
  rw [tableU_real, tableCosine_spec hs hu hv, tableDistance, add_sub_cancel_left,
    mul_div_cancel_left₀ _ (distanceToTop_span_pos hs hr.1).ne', coordOfUnit_unitOfCoord hwidth]

/-- A radius below or at the top is recovered from its coordinate. -/
theorem tableRadius_tableV (hs : s.Proper) (hheight : 1 < height)
    (hr : r ∈ Set.Icc s.bottom s.top) :
    s.tableV height r ∈ Set.Icc (1 / 2 / height) (1 - 1 / 2 / height) ∧
      unitOfCoord (s.tableV height r) height ∈ Set.Icc (0 : ℝ) 1 ∧
      s.tableRadius height (s.tableV height r) = r := by
  have hlen := horizonLength_pos hs
  have hunit : s.horizonDistance r / s.horizonLength ∈ Set.Icc (0 : ℝ) 1 :=
    ⟨div_nonneg (horizonDistance_nonneg s r) hlen.le,
      (div_le_one hlen).mpr (horizonDistance_le_horizonLength hs hr)⟩
  have hback : unitOfCoord (s.tableV height r) height = s.horizonDistance r / s.horizonLength := by
    rw [tableV_real, unitOfCoord_coordOfUnit hheight]
  refine ⟨coordOfUnit_mem hheight hunit.1 hunit.2, hback ▸ hunit, ?_⟩
  have hrho : s.tableRho height (s.tableV height r) = s.horizonDistance r := by
    rw [tableRho, hback, mul_div_cancel₀ _ hlen.ne']
  have hsq : s.horizonDistance r * s.horizonDistance r + s.bottom * s.bottom = r ^ 2 := by
    linear_combination sq_horizonDistance hs hr.1
  simp only [tableRadius, hrho, hsq, sqrt_real]
  exact Real.sqrt_sq (hs.bottom_pos.le.trans hr.1)

/-- Below the top a direction that does not fall below the horizon is recovered from its
coordinate. -/
theorem tableCosine_tableU (hs : s.Proper) (hwidth : 1 < width) (hheight : 1 < height)
    (hr : r ∈ Set.Ico s.bottom s.top) (hmu : mu ∈ Set.Icc (-s.horizonDistance r / r) 1) :
    s.tableU width r mu ∈ Set.Icc (1 / 2 / width) (1 - 1 / 2 / width) ∧
      s.tableCosine width height (s.tableU width r mu) (s.tableV height r) = mu := by
  have hb := hs.bottom_pos
  have hr0 : 0 < r := hb.trans_le hr.1
  have hflat : -s.horizonDistance r ≤ r * mu := by
    rw [mul_comm]
    exact (div_le_iff₀ hr0).mp hmu.1
  have hd := distanceToTop_mem hs (Set.Ico_subset_Icc_self hr) hmu.2 hflat
  have hunit := fraction_mem hd
  obtain ⟨-, hv, hradius⟩ := tableRadius_tableV hs hheight (Set.Ico_subset_Icc_self hr)
  obtain ⟨-, hreach, -⟩ := distanceToTop_reaches hr0.le hr.2.le mu
  have hdist : s.tableDistance width height (s.tableU width r mu) (s.tableV height r) =
      s.distanceToTop r mu := by
    rw [tableDistance, hradius, tableU_real, unitOfCoord_coordOfUnit hwidth]
    exact of_fraction hd
  have hne : s.distanceToTop r mu ≠ 0 := by
    have := hd.1
    have := hr.2
    linarith
  have hsteep : -1 ≤ mu := by nlinarith [horizonDistance_lt_self hs hr.1]
  refine ⟨coordOfUnit_mem hwidth hunit.1 hunit.2, ?_⟩
  rw [tableCosine_eq hs hv, hdist, hradius, (skyCosine_eq_iff hs hr.1 hne).mpr hreach,
    clampCosine_eq_self hsteep hmu.2]

end Shell

/-! ## Texels -/

namespace Texture.Table

variable {n height width : ℕ}

/-- A lookup at the centre of a texel gives the texel. -/
theorem sample_centre {t : Table ℝ n} {j i : ℕ} (hj : j < t.height) (hi : i < t.width) :
    ∃ texel, t.texel? j i = some texel ∧
      t.sample (((i : ℝ) + 1 / 2) / t.width) (((j : ℝ) + 1 / 2) / t.height) = .ok texel :=
  have hheight : 0 < t.height := by omega
  have hwidth : 0 < t.width := by omega
  ⟨_, texel?_eq_interpolation hheight hwidth hj hi, sample_eq hheight hwidth _ _⟩

theorem texel?_ofFn {α : Type} [Scalar α] {store : α → α} {f : ℕ → ℕ → Vector α n} {j i : ℕ}
    (hj : j < height) (hi : i < width) :
    (ofFn height width store f).texel? j i = some ((f j i).map store) := by
  rw [texel?, ofFn, if_pos hi, Vector.getElem?_eq_getElem (mul_add_lt hj hi), Vector.getElem_ofFn,
    mul_add_div hi, Nat.mul_add_mod_of_lt hi]

/-- At the point and direction that a texel stands for a lookup gives the texel. -/
theorem toTop_centre (t : Table ℝ 4) {s : Shell ℝ} (hs : s.Proper) (hheight : 2 ≤ t.height)
    (hwidth : 2 ≤ t.width) {j i : ℕ} (hj : j < t.height) (hi : i < t.width) :
    let u := ((i : ℝ) + 1 / 2) / t.width
    let v := ((j : ℝ) + 1 / 2) / t.height
    ∃ texel, t.texel? j i = some texel ∧
      t.toTop s (s.tableRadius t.height v) (s.tableCosine t.width t.height u v) = .ok texel := by
  intro u v
  have hwidth1 : (1 : ℝ) < t.width := by exact_mod_cast hwidth
  have hheight1 : (1 : ℝ) < t.height := by exact_mod_cast hheight
  have hu := Grid.fraction_of_index hwidth1 hi
  have hv := Grid.fraction_of_index hheight1 hj
  obtain ⟨texel, htexel, hsample⟩ := sample_centre hj hi
  refine ⟨texel, htexel, ?_⟩
  rw [toTop, Shell.tableU_tableCosine hs hwidth1 hu hv, Shell.tableV_tableRadius hs hheight1 hv]
  exact hsample

end Texture.Table

namespace Parameters

variable {p : Parameters ℝ} {height width : ℕ} {n : ℤ}

/-- The transmittance at the point and direction that a texel stands for is that of the texel. -/
theorem texelTransmittance_eq (p : Parameters ℝ) (air : Constituents ℝ) (width height : ℝ) (n : ℤ)
    (j i : ℕ) :
    p.texelTransmittance air width height n j i =
      p.transmittanceToTop air n (p.shell.tableRadius height (((j : ℝ) + 1 / 2) / height))
        (p.shell.tableCosine width height (((i : ℝ) + 1 / 2) / width)
          (((j : ℝ) + 1 / 2) / height)) := by
  have hhalf : (0.5 : ℝ) = 1 / 2 := by norm_num
  simp only [Atmosphere.texelTransmittance, hhalf]

/-- A table that has been computed had room. -/
theorem room_of_transmittanceTable {store : ℝ → ℝ} {table : Table ℝ 4}
    (h : p.transmittanceTable store (.integer width) (.integer height) (.integer n) = .ok table) :
    Tensor.checkRoom [height, width] 8 = (.ok () : Except (Failure ℝ) Unit) := by
  obtain ⟨_, h, -⟩ := bind_eq_ok_iff.mp h
  -- the sizes are checked, then both are read and checked one by one
  obtain ⟨_, -, h⟩ := bind_eq_ok_iff.mp h
  obtain ⟨_, hrows, h⟩ := bind_eq_ok_iff.mp h
  cases hrows
  obtain ⟨_, hrows, h⟩ := bind_eq_ok_iff.mp h
  cases hrows
  obtain ⟨_, -, h⟩ := bind_eq_ok_iff.mp h
  obtain ⟨_, hcolumns, h⟩ := bind_eq_ok_iff.mp h
  cases hcolumns
  obtain ⟨_, hcolumns, h⟩ := bind_eq_ok_iff.mp h
  cases hcolumns
  obtain ⟨_, -, h⟩ := bind_eq_ok_iff.mp h
  obtain ⟨_, hroom, -⟩ := bind_eq_ok_iff.mp h
  exact hroom

/-- A transmittance table and the lookups in it agree. A table of checked parameters is computed if
there is room for it. At the point and direction that a texel stands for, the lookup gives that
texel: the transmittance there, as it is stored. Below the top, directions that do not fall below
the horizon have coordinates between the centres of the outermost texels, which give radius and
direction back. -/
theorem toTop_transmittanceTable (hp : p.validate = .ok ()) (hlayers : p.Layered)
    (hheight : 2 ≤ height) (hwidth : 2 ≤ width) (hn : 1 ≤ n) (store : ℝ → ℝ) :
    (Tensor.checkRoom [height, width] 8 = (.ok () : Except (Failure ℝ) Unit) → ∃ table,
      p.transmittanceTable store (.integer width) (.integer height) (.integer n) = .ok table) ∧
    (∀ table,
      p.transmittanceTable store (.integer width) (.integer height) (.integer n) = .ok table →
      table.height = height ∧ table.width = width ∧
      ∀ j < height, ∀ i < width,
        let u := ((i : ℝ) + 1 / 2) / width
        let v := ((j : ℝ) + 1 / 2) / height
        let r := p.shell.tableRadius height v
        let mu := p.shell.tableCosine width height u v
        ∃ texel transmittance : Spectrum ℝ, table.texel? j i = some texel ∧
          (Transmittance.ofTable p table).toTopAll (.single r) (.single mu) =
            .ok (.single texel) ∧
          p.transmittances (.integer n) (.single r) (.single mu) = .ok (.single transmittance) ∧
          texel = transmittance.map store) ∧
    ∀ r ∈ Set.Ico p.bottom p.top, ∀ mu ∈ Set.Icc (-√(r ^ 2 - p.bottom ^ 2) / r) 1,
      let u := p.shell.tableU width r mu
      let v := p.shell.tableV height r
      u ∈ Set.Icc (1 / 2 / width : ℝ) (1 - 1 / 2 / width) ∧
        v ∈ Set.Icc (1 / 2 / height : ℝ) (1 - 1 / 2 / height) ∧
        p.shell.tableRadius height v = r ∧ p.shell.tableCosine width height u v = mu := by
  have hs := (proper_of_validate hp).shell
  obtain ⟨air, hair⟩ := hlayers.exists_hasAir
  refine ⟨fun hroom => ⟨_, hair.transmittanceTable_eq_ok hheight hwidth hn hroom store⟩, ?_, ?_⟩
  · intro table htable
    have hroom := room_of_transmittanceTable htable
    obtain rfl := Except.ok.inj
      ((hair.transmittanceTable_eq_ok hheight hwidth hn hroom store).symm.trans htable)
    refine ⟨rfl, rfl, fun j hj i hi => ?_⟩
    obtain ⟨texel, htexel, hlookup⟩ := Table.toTop_centre (Table.ofFn height width store _) hs
      hheight hwidth hj hi
    refine ⟨texel, _, htexel, Table.toTopAll_single_iff.mpr ⟨texel, hlookup, rfl⟩,
      hair.transmittances_single hn _ _, ?_⟩
    rw [Table.texel?_ofFn hj hi, texelTransmittance_eq] at htexel
    exact (Option.some.inj htexel).symm
  · intro r hr mu hmu
    have hwidth1 : (1 : ℝ) < width := by exact_mod_cast hwidth
    have hheight1 : (1 : ℝ) < height := by exact_mod_cast hheight
    rw [← p.shell.horizonDistance_real r] at hmu
    obtain ⟨hv, -, hradius⟩ := Shell.tableRadius_tableV hs hheight1 (Set.Ico_subset_Icc_self hr)
    obtain ⟨hu, hcosine⟩ := Shell.tableCosine_tableU hs hwidth1 hheight1 hr hmu
    exact ⟨hu, hv, hradius, hcosine⟩

/-- The texel of the standard table for the vertical ray from the top. -/
theorem toTop_transmittanceTable_top :
    ∃ table, (earth : Parameters ℝ).transmittanceTable id (.integer 256) (.integer 64)
        (.integer 500) = .ok table ∧
      ∃ texel, table.texel? 63 0 = some texel ∧
        ∃ r mu, (Transmittance.ofTable (earth : Parameters ℝ) table).toTopAll (.single r)
          (.single mu) = .ok (.single texel) := by
  obtain ⟨hexists, htexels, -⟩ := toTop_transmittanceTable validate_earth
    regular_earth.layered (by decide : 2 ≤ 64) (by decide : 2 ≤ 256) (by decide : (1 : ℤ) ≤ 500) id
  obtain ⟨table, htable⟩ := hexists ((Tensor.checkRoom_eq_ok_iff (by decide)).mpr (by decide))
  obtain ⟨-, -, hcentres⟩ := htexels table htable
  obtain ⟨texel, _, htexel, hlookup, -⟩ := hcentres 63 (by decide) 0 (by decide)
  exact ⟨table, htable, texel, htexel, _, _, hlookup⟩

end Parameters

end Airlight
