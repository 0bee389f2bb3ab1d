import Airlight.Proofs.ModelHistory
import Airlight.Proofs.SuccessfulPass

/-!
# The sizes of the textures of a model

Textures that a model has computed have the sizes of its grid. Of an archive that it loads, only the
grid of all scattered light is compared with the model, and of this grid only its depth, height and
width. The other grids of the archive may have any sizes, and so may the channels; and since the
width is a product of two numbers of grid points, it does not tell which numbers they were.

## Main definitions

* `TextureSet.Spans` — the grids of textures have the sizes of extents.
* `GridSizes.Fits` — the sizes that a model compares with its own are the same.
-/

namespace Airlight

open Colour Grid Storage Texture

/-- The grids have the sizes of extents, two of them with four channels and two with three
components at each voxel. -/
structure TextureSet.Spans {α : Type} (t : TextureSet α) (e : Extents) : Prop where
  deltaRayleigh : t.deltaRayleigh.shape = e.shape.sizes ++ [4]
  deltaMie : t.deltaMie.shape = e.shape.sizes ++ [4]
  scattering : t.scattering.shape = e.shape.sizes ++ [3]
  singleMie : t.singleMie.shape = e.shape.sizes ++ [3]

variable {α : Type} [Scalar α]

namespace Grid.GridSizes

variable {s : GridSizes α} {e : Extents}

/-- The sizes that were found are those of the grid. -/
def Fits (s : GridSizes α) (found : List Nat) : Prop :=
  ∃ expected, s.shape = .ok expected ∧ found.length = 3 ∧
    ∀ pair ∈ found.zip expected, pair.2.equals pair.1 = true

omit [Scalar α] in
/-- Sizes that have extents are whole, and the extents have these sizes. -/
theorem eq_ofExtents (h : s.extents = .ok e) : s = .ofExtents e := by
  have hwhole : ∀ {q : Quantity α} {n : Int}, q.toInt = .ok n → q = .whole n := by
    rintro (m | x) n hn
    · cases hn
      rfl
    · cases hn
  obtain ⟨nu, hnu, h⟩ := bind_eq_ok_iff.mp h
  obtain ⟨muS, hmuS, h⟩ := bind_eq_ok_iff.mp h
  obtain ⟨mu, hmu, h⟩ := bind_eq_ok_iff.mp h
  obtain ⟨r, hr, h⟩ := bind_eq_ok_iff.mp h
  unfold Extents.ofSizes at h
  split_ifs at h with hsmall heven
  cases h
  obtain ⟨qnu, qmuS, qmu, qr⟩ := s
  cases hwhole hnu
  cases hwhole hmuS
  cases hwhole hmu
  cases hwhole hr
  simp only [ofExtents, GridSizes.mk.injEq, Quantity.whole.injEq]
  omega

theorem shape_ofExtents (e : Extents) : (ofExtents e : GridSizes α).shape =
    .ok [.whole e.rSize, .whole e.muSize, .whole ((e.nuSize : Int) * e.muSSize)] := rfl

/-- Extents are compared by their depth, height and width. -/
theorem fits_ofExtents_iff {found : List Nat} :
    (ofExtents e : GridSizes α).Fits found ↔ found = e.shape.sizes := by
  have hsizes : e.shape.sizes = [e.rSize, e.muSize, e.nuSize * e.muSSize] := rfl
  rw [Fits, shape_ofExtents, hsizes]
  constructor
  · rintro ⟨expected, hexpected, hlength, hequal⟩
    cases hexpected
    obtain ⟨a, b, c, rfl⟩ := List.length_eq_three.mp hlength
    simp only [List.zip_cons_cons, List.zip_nil_right, List.mem_cons, List.not_mem_nil, or_false,
      forall_eq_or_imp, forall_eq, Quantity.equals, decide_eq_true_eq] at hequal
    obtain ⟨ha, hb, hc⟩ := hequal
    norm_cast at ha hb hc
    rw [ha, hb, hc]
  · rintro rfl
    refine ⟨_, rfl, rfl, ?_⟩
    simp [Quantity.equals]

end Grid.GridSizes

/-! ## Textures that are computed -/

/-- The textures of a pass have the sizes of its grid. -/
theorem PassPlan.spans_textures [Inhabited α] (p : PassPlan α) (store : α → α)
    (projection : Projection α) (light : Voxel → Scattered α) (x : Transmittance α)
    (sums : p.Sums) : (p.textures store projection light x sums).Spans p.extents :=
  ⟨rfl, rfl, rfl, rfl⟩

/-- The extents of a plan are those of the sizes that it was made for. -/
theorem PassPlan.extents_of_make {atmosphere : Parameters α} {sizes : GridSizes α}
    {workers blockSize count : Value α} {p : PassPlan α}
    (h : make atmosphere sizes workers blockSize count = .ok p) :
    sizes.extents = .ok p.extents := by
  unfold make at h
  obtain ⟨below, -, h⟩ := bind_eq_ok_iff.mp h
  cases below with
  | true => cases h
  | false =>
    obtain ⟨below, -, h⟩ := bind_eq_ok_iff.mp h
    cases below with
    | true => cases h
    | false =>
      obtain ⟨extents, hextents, h⟩ := bind_eq_ok_iff.mp h
      obtain ⟨_, -, h⟩ := bind_eq_ok_iff.mp h
      cases h
      exact hextents

variable [Inhabited α]

/-- Textures that have been computed have the sizes of the grid. -/
theorem Parameters.ensures_precompute (p : Parameters α) (sizes : GridSizes α) (effort : Effort α)
    (matrix : Option (Tensor α)) (store : α → α) (observer : Option (Observer α)) :
    (p.precompute sizes effort matrix store observer).Ensures () fun textures _ =>
      ∃ e, sizes.extents = .ok e ∧ textures.Spans e := by
  unfold precompute
  refine (Run.ensures_tell _ _ _).bind fun _ _ _ => ?_
  refine (Run.ensures_note _ _).bind fun _ _ _ => ?_
  refine (Run.ensures_lift _ _).bind fun table _ _ => ?_
  refine (Run.ensures_note _ _).bind fun _ _ _ => ?_
  refine (Run.ensures_lift _ _).bind ?_
  rintro plan _ ⟨hplan, -⟩
  refine ((PassPlan.ensures_run plan store _ _ _ _).within _).bind ?_
  rintro ⟨textures, _⟩ _ ⟨⟨projection, light, -, -, rfl, -⟩, -⟩
  refine (Run.ensures_pure _ _).mono ?_
  rintro _ _ ⟨rfl, -⟩
  exact ⟨plan.extents, PassPlan.extents_of_make hplan, plan.spans_textures _ _ _ _ _⟩

namespace Model

variable {m : Model α} {files : FileStore α} {path : Text} {textures : TextureSet α}

theorem ensures_precompute (m : Model α) (effort : Effort α) (store : α → α)
    (observer : Option (Observer α)) :
    (m.precompute effort store observer).Ensures () fun textures _ =>
      ∃ e, m.sizes.extents = .ok e ∧ textures.Spans e := by
  unfold precompute
  refine (Run.ensures_tell _ _ _).bind fun _ _ _ => ?_
  refine (Run.ensures_lift _ _).bind fun p _ _ => ?_
  refine (Run.ensures_lift _ _).bind fun unit _ _ => ?_
  refine (Run.ensures_lift _ _).bind fun shape _ _ => ?_
  dsimp only
  split
  · exact (Run.ensures_throw _ _ fun _ _ => False).bind fun _ _ => False.elim
  · exact (Run.ensures_note _ _).bind fun _ _ _ => p.ensures_precompute _ _ _ _ _

omit [Inhabited α] in
/-- An archive with all grids is taken if the scattered light has the depth, height and width of the
model, whatever the other grids are, and refused otherwise. -/
theorem load_cases (hload : loadArchive files path = .ok textures) :
    m.sizes.Fits (textures.scattering.shape.take 3) ∧
        m.load files path = .ok (m.withTextures textures) ∨
      ¬ m.sizes.Fits (textures.scattering.shape.take 3) ∧
        ∃ failure, m.load files path = .error failure ∧
          ∀ expected, m.sizes.shape = .ok expected → failure = .argument (.gridMismatch
            (textures.scattering.shape.take 3) (expected.map Quantity.toValue)) := by
  unfold load
  rw [hload, ok_bind]
  cases hsizes : m.sizes.shape with
  | error failure =>
    refine .inr ⟨?_, failure, rfl, nofun⟩
    rintro ⟨_, hexpected, -⟩
    cases hsizes.symm.trans hexpected
  | ok expected =>
    have hfits : m.sizes.Fits (textures.scattering.shape.take 3) ↔
        (textures.scattering.shape.take 3).length = 3 ∧
          ((textures.scattering.shape.take 3).zip expected).all
            (fun pair => pair.2.equals pair.1) = true := by
      rw [List.all_eq_true]
      constructor
      · rintro ⟨_, hexpected, hequal⟩
        cases hsizes.symm.trans hexpected
        exact hequal
      · exact fun hequal => ⟨expected, hsizes, hequal⟩
    rw [hfits, ok_bind]
    dsimp only
    split
    · next hrefused =>
      rw [Bool.or_eq_true, decide_eq_true_eq, Bool.not_eq_true'] at hrefused
      refine .inr ⟨fun hequal => ?_, _, rfl, ?_⟩
      · obtain hlength | hdifferent := hrefused
        · exact hlength hequal.1
        · exact absurd hequal.2 (by rw [hdifferent]; decide)
      · rintro _ ⟨⟩
        rfl
    · next htaken =>
      rw [Bool.or_eq_true, decide_eq_true_eq, Bool.not_eq_true', not_or, not_not,
        Bool.not_eq_false] at htaken
      exact .inl ⟨htaken, rfl⟩

end Model

namespace Session

variable {store : α → α} {images : ImageSupport α} {s : Session α} {call : ModelCall α}
  {textures : TextureSet α}

theorem sizes_next (store : α → α) (images : ImageSupport α) (s : Session α) (call : ModelCall α) :
    (s.next store images call).model.sizes = s.model.sizes := by
  obtain ⟨textures, -, -, hmodel, -⟩ | ⟨-, hmodel⟩ := s.next_model_cases store images call <;>
    rw [hmodel]
  rfl

theorem sizes_after (store : α → α) (images : ImageSupport α) (s : Session α)
    (calls : List (ModelCall α)) :
    (s.after store images calls).model.sizes = s.model.sizes := by
  induction calls generalizing s with
  | nil => rfl
  | cons call rest ih => exact (ih _).trans (sizes_next store images s call)

/-- A call that loads replaces the textures if the scattered light of the archive has the depth,
height and width of the model, and fails with the sizes that it has found otherwise. -/
theorem next_load_cases (store : α → α) (images : ImageSupport α) {path : Text}
    (hload : loadArchive s.files path = .ok textures) :
    s.model.sizes.Fits (textures.scattering.shape.take 3) ∧
        s.outcome store images (.load path) = .ok () ∧
        (s.next store images (.load path)).model = s.model.withTextures textures ∨
      ¬ s.model.sizes.Fits (textures.scattering.shape.take 3) ∧
        (s.next store images (.load path)).model = s.model ∧
        ∃ failure, s.outcome store images (.load path) = .error failure ∧
          ∀ expected, s.model.sizes.shape = .ok expected → failure = .argument (.gridMismatch
            (textures.scattering.shape.take 3) (expected.map Quantity.toValue)) := by
  have hrun := s.start_load store images path
  obtain ⟨hfits, htaken⟩ | ⟨hmisfit, failure, hrefused, hcause⟩ := Model.load_cases hload
  · rw [htaken] at hrun
    rw [outcome, next, hrun]
    exact .inl ⟨hfits, rfl, rfl⟩
  · rw [hrefused] at hrun
    rw [outcome, next, hrun]
    exact .inr ⟨hmisfit, rfl, failure, rfl, hcause⟩

/-- Textures that a model has been given fit it, and they have all its sizes unless they come from
an archive. -/
theorem fits_of_supplies (hsupplies : s.Supplies store call textures)
    (hdone : s.outcome store images call = .ok () ∨ s.Interrupted store images call) :
    s.model.sizes.Fits (textures.scattering.shape.take 3) ∧
      ((∃ e, s.model.sizes.extents = .ok e ∧ textures.Spans e) ∨
        ∃ path, call = .load path ∧ loadArchive s.files path = .ok textures) := by
  cases hsupplies with
  | init hcomputed =>
    obtain ⟨e, hextents, hspans⟩ := (s.model.ensures_precompute _ _ _).start hcomputed
    refine ⟨?_, .inl ⟨e, hextents, hspans⟩⟩
    rw [GridSizes.eq_ofExtents hextents, GridSizes.fits_ofExtents_iff, hspans.scattering]
    rfl
  | @load path _ hload =>
    refine ⟨?_, .inr ⟨path, rfl, hload⟩⟩
    have hok : s.outcome store images (.load path) = .ok () := hdone.resolve_right id
    obtain ⟨hfits, -⟩ | ⟨-, -, failure, hfailed, -⟩ := s.next_load_cases store images hload
    · exact hfits
    · cases hok.symm.trans hfailed

/-- The textures of a model in the middle of a sequence of calls. -/
theorem textures_after_take (store : α → α) (images : ImageSupport α) {sizes : GridSizes α}
    (hsizes : s.model.sizes = sizes) (hnew : s.model.isInitialized = false)
    {calls : List (ModelCall α)} {n : Nat} (hn : n ≤ calls.length)
    (hflag : (s.after store images (calls.take n)).model.isInitialized = true) :
    ∃ textures, (s.after store images (calls.take n)).model.textures = some textures ∧
      sizes.Fits (textures.scattering.shape.take 3) ∧
      ((∃ e, sizes.extents = .ok e ∧ textures.Spans e) ∨ ∃ k path, calls[k]? = some (.load path) ∧
        loadArchive (s.after store images (calls.take k)).files path = .ok textures) := by
  induction n with
  | zero => cases hnew.symm.trans hflag
  | succ n ih =>
    have hcall : calls[n]? = some calls[n] := List.getElem?_eq_getElem hn
    rw [after_take_succ hcall] at hflag ⊢
    obtain ⟨textures, hsupplies, -, hmodel, hdone⟩ | ⟨-, hmodel⟩ :=
      (s.after store images (calls.take n)).next_model_cases store images calls[n]
    · obtain ⟨hfits, hsource⟩ := fits_of_supplies hsupplies hdone
      rw [sizes_after, hsizes] at hfits hsource
      rw [hmodel]
      refine ⟨textures, rfl, hfits, hsource.imp_right ?_⟩
      rintro ⟨path, hload, harchive⟩
      exact ⟨n, path, hload ▸ hcall, harchive⟩
    · rw [hmodel] at hflag ⊢
      exact ih (Nat.le_of_succ_le hn) hflag

/-- What is sure about the sizes of textures. Those of an initialized model have the depth, height
and width of its grid in the array of all scattered light, and all four grids have the sizes of the
model's extents unless an archive was loaded. An archive with all grids is taken if it has that
depth, height and width, and refused with the model unchanged otherwise. -/
theorem sizes_of_textures (parameters : Parameters α) (sizes : GridSizes α) (unit : Value α)
    (files : FileStore α) (store : α → α) (images : ImageSupport α) (calls : List (ModelCall α)) :
    let start : Session α := ⟨.new parameters sizes unit, files⟩
    let now := start.after store images calls
    (now.model.isInitialized = true → ∃ textures, now.model.textures = some textures ∧
      sizes.Fits (textures.scattering.shape.take 3) ∧
      ((∃ e, sizes.extents = .ok e ∧ textures.Spans e) ∨ ∃ k path, calls[k]? = some (.load path) ∧
        loadArchive (start.after store images (calls.take k)).files path = .ok textures)) ∧
    (∀ path textures, loadArchive now.files path = .ok textures →
      (sizes.Fits (textures.scattering.shape.take 3) →
        now.outcome store images (.load path) = .ok () ∧
        (now.next store images (.load path)).model = now.model.withTextures textures) ∧
      (¬ sizes.Fits (textures.scattering.shape.take 3) →
        (now.next store images (.load path)).model = now.model ∧
        ∃ failure, now.outcome store images (.load path) = .error failure ∧
          ∀ expected, sizes.shape = .ok expected → failure = .argument (.gridMismatch
            (textures.scattering.shape.take 3) (expected.map Quantity.toValue)))) ∧
    ∀ e, sizes.extents = .ok e → ∀ found, sizes.Fits found ↔ found = e.shape.sizes := by
  intro start now
  have hsizes : now.model.sizes = sizes := sizes_after store images start calls
  refine ⟨fun hflag => ?_, fun path textures hload => ?_, fun e hextents found => ?_⟩
  · have htextures := start.textures_after_take store images rfl rfl (Nat.le_refl calls.length)
    rw [List.take_length] at htextures
    exact htextures hflag
  · have hcases := now.next_load_cases store images hload
    rw [hsizes] at hcases
    obtain ⟨hfits, htaken⟩ | ⟨hmisfit, hrefused⟩ := hcases
    · exact ⟨fun _ => htaken, fun hmisfit => absurd hfits hmisfit⟩
    · exact ⟨fun hfits => absurd hfits hmisfit, fun _ => hrefused⟩
  · rw [GridSizes.eq_ofExtents hextents]
    exact GridSizes.fits_ofExtents_iff

/-- An archive of another height is refused. -/
theorem misfit_refused :
    let extents : Extents := { nuSize := 2, muSSize := 2, muSize := 4, rSize := 2 }
    let textures : TextureSet Float := ⟨none, .single 1, .single 2, .ofFn [2, 6, 4, 3] fun _ => 3,
      .single 4⟩
    let files : FileStore Float := ⟨[(["other.npz"], .file (.archive textures.named))]⟩
    let start : Session Float := ⟨.new .earth (.ofExtents extents) .null, files⟩
    let images : ImageSupport Float := ⟨true, fun _ => id⟩
    (start.next id images (.load "other.npz")).model = start.model ∧
      start.outcome id images (.load "other.npz") =
        .error (.argument (.gridMismatch [2, 6, 4] [.integer 2, .integer 4, .integer 4])) := by
  intro extents textures files start images
  obtain ⟨-, hloads, hextents⟩ :=
    sizes_of_textures .earth (.ofExtents extents) .null files id images []
  have hmisfit : ¬ (GridSizes.ofExtents extents : GridSizes Float).Fits [2, 6, 4] := by
    rw [hextents extents (PassPlan.extents_ofExtents extents)]
    decide
  obtain ⟨hsame, failure, hfailed, hcause⟩ := (hloads "other.npz" textures rfl).2 hmisfit
  exact ⟨hsame, hfailed.trans (congrArg Except.error (hcause _ rfl))⟩

/-- A model takes the textures of a grid with other numbers of points along its width, and an
archive one of whose grids has no likeness with its own. -/
theorem foreign_textures_loaded :
    let extents : Extents := { nuSize := 4, muSSize := 2, muSize := 4, rSize := 2 }
    let other : Extents := { nuSize := 2, muSSize := 4, muSize := 4, rSize := 2 }
    let computed : TextureSet Float := ⟨none, .ofFn [2, 4, 8, 4] fun _ => 1,
      .ofFn [2, 4, 8, 4] fun _ => 2, .ofFn [2, 4, 8, 3] fun _ => 3, .ofFn [2, 4, 8, 3] fun _ => 4⟩
    let mixed : TextureSet Float := { computed with deltaRayleigh := .row [1, 2] }
    let files : FileStore Float := ⟨[(["other.npz"], .file (.archive computed.named)),
      (["mixed.npz"], .file (.archive mixed.named))]⟩
    let start : Session Float := ⟨.new .earth (.ofExtents extents) .null, files⟩
    let images : ImageSupport Float := ⟨true, fun _ => id⟩
    (computed.Spans other ∧ other ≠ extents ∧
      start.outcome id images (.load "other.npz") = .ok () ∧
      (start.next id images (.load "other.npz")).model.textures = some computed) ∧
    start.outcome id images (.load "mixed.npz") = .ok () ∧
      (start.next id images (.load "mixed.npz")).model.isInitialized = true ∧
      (start.next id images (.load "mixed.npz")).model.textures = some mixed ∧
      mixed.deltaRayleigh.shape ≠ extents.shape.sizes ++ [4] :=
  ⟨⟨⟨rfl, rfl, rfl, rfl⟩, by decide, rfl, rfl⟩, rfl, rfl, rfl, by decide⟩

end Session

end Airlight
