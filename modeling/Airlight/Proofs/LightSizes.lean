import Airlight.Proofs.NumberLayers
import Airlight.Scattering.Kernel

/-!
# Sizes of scattered light

What is computed for an array of rays has the sizes of that array, since all that is combined with
it has the same sizes or is a single value. Only a list among the coefficients of a layer brings in
other sizes. Where there is none, each ray gets one spectrum.
-/

namespace Airlight

namespace Tensor

variable {α β γ δ φ : Type} {s : List Nat}

/-- Arrays of given sizes and single values can be combined. -/
theorem exists_map₂ [Inhabited α] [Inhabited β] (f : α → β → γ) {a : Tensor α} {b : Tensor β}
    (ha : a.shape = s ∨ a.shape = []) (hb : b.shape = s ∨ b.shape = [])
    (hs : a.shape = s ∨ b.shape = s) :
    ∃ t, (map₂ f a b : Except (Failure φ) (Tensor γ)) = .ok t ∧ t.shape = s := by
  have hjoin : (joinAll [a.shape, b.shape] : Except (Failure φ) _) = .ok s :=
    joinAll_sizes (by simp [ha, hb]) (by simpa [eq_comm] using hs)
  simp only [map₂, hjoin, ok_bind]
  exact ⟨_, rfl, rfl⟩

theorem shape_of_map₂ [Inhabited α] [Inhabited β] {f : α → β → γ} {a : Tensor α} {b : Tensor β}
    {t : Tensor γ} (h : (map₂ f a b : Except (Failure φ) (Tensor γ)) = .ok t)
    (ha : a.shape = s ∨ a.shape = []) (hb : b.shape = s) : t.shape = s := by
  obtain ⟨u, hu, hshape⟩ := exists_map₂ f ha (.inl hb) (.inr hb)
  cases h.symm.trans hu
  exact hshape

theorem shape_of_map₃ [Inhabited α] [Inhabited β] [Inhabited γ] {f : α → β → γ → δ}
    {a : Tensor α} {b : Tensor β} {c : Tensor γ} {t : Tensor δ}
    (h : (map₃ f a b c : Except (Failure φ) (Tensor δ)) = .ok t) (ha : a.shape = s)
    (hb : b.shape = s) (hc : c.shape = s) : t.shape = s := by
  have hjoin : (joinAll [a.shape, b.shape, c.shape] : Except (Failure φ) _) = .ok s :=
    joinAll_sizes (by simp [ha, hb, hc]) (by simp [ha])
  obtain ⟨common, hcommon, h⟩ := bind_eq_ok_iff.mp h
  cases hjoin.symm.trans hcommon
  cases h
  rfl

theorem shape_of_tryMap₂ [Inhabited α] [Inhabited β] {f : α → β → Except (Failure φ) γ}
    {a : Tensor α} {b : Tensor β} {t : Tensor γ} (h : tryMap₂ f a b = .ok t) (ha : a.shape = s)
    (hb : b.shape = s) : t.shape = s := by
  obtain ⟨u, hu, h⟩ := bind_eq_ok_iff.mp h
  rw [shape_of_mapM h]
  exact shape_of_map₂ hu (.inl ha) hb

end Tensor

variable {α : Type} [Scalar α] [Inhabited α] {s : List Nat}

/-! ## Transmittances -/

namespace Texture.Table

variable {t : Table α 4} {shell : Shell α}

theorem shape_of_toTopAll {r mu : Tensor α} {found : Tensor (Spectrum α)}
    (h : t.toTopAll shell r mu = .ok found) (hr : r.shape = s) (hmu : mu.shape = s) :
    found.shape = s := by
  obtain ⟨_, -, h⟩ := bind_eq_ok_iff.mp h
  obtain ⟨_, -, h⟩ := bind_eq_ok_iff.mp h
  exact Tensor.shape_of_tryMap₂ h hr hmu

theorem shape_of_ratios {a b found : Tensor (Spectrum α)} (h : ratios a b = .ok found)
    (ha : a.shape = s) (hb : b.shape = s) : found.shape = s := by
  obtain ⟨_, -, h⟩ := bind_eq_ok_iff.mp h
  obtain ⟨_, -, h⟩ := bind_eq_ok_iff.mp h
  exact Tensor.shape_of_map₂ h (.inl ha) hb

theorem shape_of_betweenAll {r mu d : Tensor α} {ground : Tensor Bool}
    {found : Tensor (Spectrum α)} (h : t.betweenAll shell r mu d ground = .ok found)
    (hr : r.shape = s) (hmu : mu.shape = s) (hd : d.shape = s) (hground : ground.shape = s) :
    found.shape = s := by
  obtain ⟨rD, hrD, h⟩ := bind_eq_ok_iff.mp h
  obtain ⟨along, halong, h⟩ := bind_eq_ok_iff.mp h
  obtain ⟨muD, hmuD, h⟩ := bind_eq_ok_iff.mp h
  obtain ⟨top₁, htop₁, h⟩ := bind_eq_ok_iff.mp h
  obtain ⟨top₂, htop₂, h⟩ := bind_eq_ok_iff.mp h
  obtain ⟨back, hback, h⟩ := bind_eq_ok_iff.mp h
  obtain ⟨top₃, htop₃, h⟩ := bind_eq_ok_iff.mp h
  obtain ⟨top₄, htop₄, h⟩ := bind_eq_ok_iff.mp h
  obtain ⟨ahead, hahead, h⟩ := bind_eq_ok_iff.mp h
  obtain ⟨_, -, h⟩ := bind_eq_ok_iff.mp h
  have hrD := Tensor.shape_of_map₃ hrD hr hmu hd
  have hmuD := Tensor.shape_of_map₂ hmuD (.inl (Tensor.shape_of_map₃ halong hr hmu hd)) hrD
  have hback := shape_of_ratios hback (shape_of_toTopAll htop₁ hrD hmuD)
    (shape_of_toTopAll htop₂ hr hmu)
  have hahead := shape_of_ratios hahead (shape_of_toTopAll htop₃ hr hmu)
    (shape_of_toTopAll htop₄ hrD hmuD)
  exact Tensor.shape_of_map₃ h hground hback hahead

theorem shape_of_toSunAll {shell : SunlitShell α} {r muS : Tensor α} {found : Tensor (Spectrum α)}
    (h : t.toSunAll shell r muS = .ok found) (hr : r.shape = s) (hmuS : muS.shape = s) :
    found.shape = s := by
  obtain ⟨visible, hvisible, h⟩ := bind_eq_ok_iff.mp h
  obtain ⟨top, htop, h⟩ := bind_eq_ok_iff.mp h
  exact Tensor.shape_of_map₂ h (.inl (shape_of_toTopAll htop hr hmuS))
    (Tensor.shape_of_map₂ hvisible (.inl hr) hmuS)

end Texture.Table

namespace Transmittance

variable {x : Transmittance α}

omit [Scalar α] [Inhabited α] in
theorem shape_of_everywhere {value : Spectrum α} {shapes : List (List Nat)}
    {found : Tensor (Spectrum α)} (h : everywhere value shapes = .ok found)
    (hall : ∀ t ∈ shapes, t = s) (hne : shapes ≠ []) : found.shape = s := by
  obtain ⟨_, -, h⟩ := bind_eq_ok_iff.mp h
  obtain ⟨common, hcommon, h⟩ := bind_eq_ok_iff.mp h
  obtain ⟨first, hfirst⟩ := List.exists_mem_of_ne_nil shapes hne
  have hjoin : (Tensor.joinAll shapes : Except (Failure α) _) = .ok s :=
    Tensor.joinAll_sizes (fun t ht => .inl (hall t ht)) (hall first hfirst ▸ hfirst)
  cases hjoin.symm.trans hcommon
  cases h
  rfl

theorem shape_of_betweenAll {r mu d : Tensor α} {ground : Tensor Bool}
    {found : Tensor (Spectrum α)} (h : x.betweenAll r mu d ground = .ok found)
    (hr : r.shape = s) (hmu : mu.shape = s) (hd : d.shape = s) (hground : ground.shape = s) :
    found.shape = s := by
  cases x with
  | table shell t => exact Texture.Table.shape_of_betweenAll h hr hmu hd hground
  | constant value => exact shape_of_everywhere h (by simp [hr, hmu, hd, hground]) (by simp)

theorem shape_of_toSunAll {r muS : Tensor α} {found : Tensor (Spectrum α)}
    (h : x.toSunAll r muS = .ok found) (hr : r.shape = s) (hmuS : muS.shape = s) :
    found.shape = s := by
  cases x with
  | table shell t => exact Texture.Table.shape_of_toSunAll h hr hmuS
  | constant value => exact shape_of_everywhere h (by simp [hr, hmuS]) (by simp)

end Transmittance

/-! ## Batches -/

namespace RayBatch

variable {b : RayBatch α} {p : Parameters α} {x : Transmittance α}

/-- All arrays of the batch have the given sizes. -/
structure Sized (b : RayBatch α) (s : List Nat) : Prop where
  r : b.r.shape = s
  mu : b.mu.shape = s
  muS : b.muS.shape = s
  nu : b.nu.shape = s
  ground : b.ground.shape = s

omit [Scalar α] [Inhabited α] in
theorem sized_ofRays (rays : Tensor (Ray α × Bool)) : (ofRays rays).Sized rays.shape :=
  ⟨rfl, rfl, rfl, rfl, rfl⟩

theorem shape_of_weighed {transmittance t : Tensor (Spectrum α)} {layers : Profile (Value α)}
    {altitudes : Tensor α} (h : weighed transmittance layers altitudes = .ok t)
    (hlayers : ∀ layer ∈ layers, layer.NumberCoefficients)
    (htransmittance : transmittance.shape = s) (haltitudes : altitudes.shape = s) :
    t.shape = s := by
  obtain ⟨columns, hcolumns, h⟩ := bind_eq_ok_iff.mp h
  obtain ⟨densities, hdensities, h⟩ := bind_eq_ok_iff.mp h
  exact Tensor.shape_of_map₂ h (.inl htransmittance)
    (Tensor.shape_of_map₂ hdensities (.inr (Profile.shape_of_stacksAt hcolumns hlayers)) haltitudes)

/-- The light of the aerosols has the sizes of the rays if no coefficient of their layers is a
list. -/
theorem shape_of_integrands {d : Tensor α} {found : ScatteredArrays α}
    (h : b.integrands p x d = .ok found) (hb : b.Sized s) (hd : d.shape = s)
    (hlayers : ∀ layer ∈ p.mieDensity, layer.NumberCoefficients) : found.mie.shape = s := by
  obtain ⟨rD, hrD, h⟩ := bind_eq_ok_iff.mp h
  obtain ⟨views, hviews, h⟩ := bind_eq_ok_iff.mp h
  obtain ⟨steps, hsteps, h⟩ := bind_eq_ok_iff.mp h
  obtain ⟨muSD, hmuSD, h⟩ := bind_eq_ok_iff.mp h
  obtain ⟨back, hback, h⟩ := bind_eq_ok_iff.mp h
  obtain ⟨sun, hsun, h⟩ := bind_eq_ok_iff.mp h
  obtain ⟨transmittance, htransmittance, h⟩ := bind_eq_ok_iff.mp h
  obtain ⟨rayleigh, -, h⟩ := bind_eq_ok_iff.mp h
  obtain ⟨mie, hmie, h⟩ := bind_eq_ok_iff.mp h
  cases h
  have hrD := Tensor.shape_of_map₃ hrD hb.r hb.mu hd
  have hviews := Tensor.shape_of_map₂ hviews (.inl hb.r) hb.muS
  have hsteps := Tensor.shape_of_map₂ hsteps (.inl hd) hb.nu
  have hmuSD := Tensor.shape_of_map₃ hmuSD hviews hsteps hrD
  have hback := Transmittance.shape_of_betweenAll hback hb.r hb.mu hd hb.ground
  have hsun := Transmittance.shape_of_toSunAll hsun hrD hmuSD
  exact shape_of_weighed hmie hlayers (Tensor.shape_of_map₂ htransmittance (.inl hback) hsun) hrD

theorem shape_of_sumSamples {dx : Tensor α} {n i remaining : Nat} {sum found : ScatteredArrays α}
    (h : b.sumSamples p x dx n i remaining sum = .ok found) (hb : b.Sized s) (hdx : dx.shape = s)
    (hlayers : ∀ layer ∈ p.mieDensity, layer.NumberCoefficients)
    (hsum : sum.mie.shape = s ∨ sum.mie.shape = []) :
    found.mie.shape = s ∨ found.mie.shape = [] := by
  induction remaining generalizing i sum with
  | zero =>
    cases h
    exact hsum
  | succ remaining ih =>
    obtain ⟨term, hterm, h⟩ := bind_eq_ok_iff.mp h
    obtain ⟨rayleigh, -, h⟩ := bind_eq_ok_iff.mp h
    obtain ⟨mie, hmie, h⟩ := bind_eq_ok_iff.mp h
    have hterm := shape_of_integrands hterm hb (by simpa using hdx) hlayers
    exact ih h (.inl (Tensor.shape_of_map₂ hmie hsum hterm))

theorem shape_of_scattered {count : Value α} {found : ScatteredArrays α}
    (h : b.scattered p x count = .ok found) (hb : b.Sized s)
    (hlayers : ∀ layer ∈ p.mieDensity, layer.NumberCoefficients) : found.mie.shape = s := by
  obtain ⟨below, -, h⟩ := bind_eq_ok_iff.mp h
  dsimp only at h
  split_ifs at h
  · cases h
  · obtain ⟨_, -, h⟩ := bind_eq_ok_iff.mp h
    obtain ⟨lengths, hlengths, h⟩ := bind_eq_ok_iff.mp h
    obtain ⟨n, -, h⟩ := bind_eq_ok_iff.mp h
    obtain ⟨k, -, h⟩ := bind_eq_ok_iff.mp h
    have hdx : (lengths.map (· / n)).shape = s :=
      (Tensor.shape_map _ _).trans (Tensor.shape_of_map₃ hlengths hb.r hb.mu hb.ground)
    obtain ⟨sums, hsums, h⟩ := bind_eq_ok_iff.mp h
    obtain ⟨rayleigh, -, h⟩ := bind_eq_ok_iff.mp h
    obtain ⟨mie, hmie, h⟩ := bind_eq_ok_iff.mp h
    cases h
    exact Tensor.shape_of_map₂ hmie (shape_of_sumSamples hsums hb hdx hlayers (.inr rfl)) hdx

end RayBatch

/-! ## Voxels -/

theorem Parameters.shape_of_scatterInto {p : Parameters α} {x : Transmittance α} {count : Value α}
    {rays : Tensor (Ray α × Bool)} {found : ScatteredArrays α}
    (h : p.scatterInto x count rays = .ok found)
    (hlayers : ∀ layer ∈ p.mieDensity, layer.NumberCoefficients) :
    found.mie.shape = rays.shape := by
  unfold scatterInto at h
  split at h
  · exact RayBatch.shape_of_scattered h (RayBatch.sized_ofRays rays) hlayers
  · obtain ⟨below, -, h⟩ := bind_eq_ok_iff.mp h
    dsimp only at h
    split_ifs at h
    · cases h
    · obtain ⟨_, -, h⟩ := bind_eq_ok_iff.mp h
      obtain ⟨n, -, h⟩ := bind_eq_ok_iff.mp h
      obtain ⟨light, hlight, h⟩ := bind_eq_ok_iff.mp h
      cases h
      exact (Tensor.shape_map _ _).trans (Tensor.shape_of_mapM hlight)

/-- Aerosols whose layers have numbers as coefficients give one spectrum for each voxel. -/
theorem Kernel.size_mie_of_evaluate {k : Kernel α} {voxels : Tensor Texture.Voxel}
    {scattered : ScatteredArrays α} (h : k.evaluate voxels = .ok scattered)
    (hlayers : ∀ layer ∈ k.atmosphere.mieDensity, layer.NumberCoefficients) :
    scattered.mie.data.size = voxels.data.size := by
  have hshape := Parameters.shape_of_scatterInto h hlayers
  rw [scattered.mie.size_eq, voxels.size_eq, hshape, Tensor.shape_map]

end Airlight
