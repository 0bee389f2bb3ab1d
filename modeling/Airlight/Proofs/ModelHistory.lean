import Airlight.Model
import Airlight.Proofs.Outcomes
import Airlight.Proofs.RunSteps
import Airlight.Scalar.Float

/-!
# The history of a model

A model is precomputed, loaded and saved any number of times, and some of these calls fail. It has
the textures of the latest call that has precomputed or loaded them successfully, and none before
there is such a call. Nothing else changes it: neither a call that fails nor one that saves.

An observer that interrupts a precomputation at its very end finds the textures already there, so
calls that are interrupted by their observer are left out.

## Main definitions

* `Session` — a model with the files around it.
* `ModelCall` — a call on a model, or a change of the files from outside.
* `Session.Filled` — a call of a sequence that has precomputed or loaded textures successfully.
-/

namespace Airlight

open Colour Grid Storage

/-- A model with the files around it. -/
structure Session (α : Type) where
  model : Model α
  files : FileStore α

/-- A call on a model. A call that saves tells a console what it has written. Between the calls
others may change the files. -/
inductive ModelCall (α : Type) where
  | init (effort : Effort α) (observer : Option (Observer α))
  | load (path : Text)
  | save (path : Text) (console : Console)
  | saveImages (directory : Text) (half : Bool) (console : Console)
  | changeFiles (files : FileStore α)

namespace ModelCall

variable {α : Type}

/-- The call is there to give the model textures. -/
def fills : ModelCall α → Bool
  | init _ _ | load _ => true
  | _ => false

/-- The call saves the textures of the model. -/
def saves : ModelCall α → Bool
  | save _ _ | saveImages _ _ _ => true
  | _ => false

theorem fills_of_saves {call : ModelCall α} (h : call.saves = true) : call.fills = false := by
  cases call <;> first | rfl | cases h

/-- Runs steps on the files with the model at hand. -/
def onFiles (steps : Model α → Run α (FileStore α) Unit) : Run α (Session α) Unit := do
  let s ← Run.state
  Run.focus Session.files (fun files s => { s with files }) (steps s.model)

variable [Scalar α] [Inhabited α]

/-- Makes a call. -/
def run (store : α → α) (images : ImageSupport α) : ModelCall α → Run α (Session α) Unit
  | init effort observer =>
    Run.focus Session.model (fun model s => { s with model }) (Model.init effort store observer)
  | load path => do
    let s ← Run.state
    let model ← Run.lift (s.model.load s.files path)
    Run.change fun s => { s with model }
  | save path console => onFiles (·.save path console)
  | saveImages directory half console => onFiles (·.saveImages images directory half console)
  | changeFiles files => Run.change fun s => { s with files }

end ModelCall

namespace Model

variable {α : Type} [Scalar α] [Inhabited α]

/-- A precomputation that fails leaves the model as it was. One that succeeds has changed it, also
if the observer does not like to hear that it is done. -/
theorem init_cases (m : Model α) (effort : Effort α) (store : α → α)
    (observer : Option (Observer α)) :
    (∃ failure, (Run.start () (m.precompute effort store observer)).1 = .error failure ∧
        (Run.start m (init effort store observer)).1 = .error failure ∧
        (Run.start m (init effort store observer)).2.state = m) ∨
      ∃ textures, (Run.start () (m.precompute effort store observer)).1 = .ok textures ∧
        (Run.start m (init effort store observer)).2.state = m.withTextures textures ∧
        ((Run.start m (init effort store observer)).1 = .ok () ∨
          ∃ o ∈ observer, ∃ heard,
            .progress heard ∈ (Run.start m (init effort store observer)).2.events ∧
              (o.answer heard).isSome = true) := by
  have hstate : (Run.state : Run α (Model α) (Model α)).run ⟨m, #[]⟩ = (.ok m, ⟨m, #[]⟩) := rfl
  rcases hpre : Run.start () (m.precompute effort store observer) with ⟨failure | textures, i⟩
  · rw [Run.start_eq_run] at hpre
    have hinit : Run.start m (init effort store observer) = (.error failure, ⟨m, i.events⟩) := by
      rw [Run.start_eq_run, init, run_bind_of_ok hstate,
        run_bind_of_error (Run.within_of_error hpre m)]
    exact .inl ⟨failure, rfl, congrArg Prod.fst hinit, congrArg (·.2.state) hinit⟩
  · rw [Run.start_eq_run] at hpre
    have hchange : (Run.change (·.withTextures textures) : Run α (Model α) Unit).run ⟨m, i.events⟩ =
        (.ok (), ⟨m.withTextures textures, i.events⟩) := rfl
    have hinit : Run.start m (init effort store observer) =
        (Run.tell observer ⟨1.0, .complete⟩).run ⟨m.withTextures textures, i.events⟩ := by
      rw [Run.start_eq_run, init, run_bind_of_ok hstate,
        run_bind_of_ok (Run.within_of_ok hpre m), run_bind_of_ok hchange]
    refine .inr ⟨textures, rfl, ?_⟩
    rw [hinit]
    cases observer with
    | none => exact ⟨rfl, .inl rfl⟩
    | some o =>
      cases hanswer : o.answer (o.hears ⟨1.0, .complete⟩) with
      | none =>
        simp only [Run.tell, hanswer]
        exact ⟨rfl, .inl rfl⟩
      | some failure =>
        simp only [Run.tell, hanswer]
        refine ⟨rfl, .inr ⟨o, rfl, _, Array.mem_push_self, ?_⟩⟩
        rw [hanswer, Option.isSome_some]

omit [Inhabited α] in
/-- A model that has been loaded has the textures of the archive. -/
theorem exists_of_load {m m' : Model α} {files : FileStore α} {path : Text}
    (h : m.load files path = .ok m') :
    ∃ textures, loadArchive files path = .ok textures ∧ m' = m.withTextures textures := by
  obtain ⟨textures, htextures, h⟩ := bind_eq_ok_iff.mp h
  obtain ⟨expected, -, h⟩ := bind_eq_ok_iff.mp h
  dsimp only at h
  split at h
  · cases h
  · cases h
    exact ⟨textures, htextures, rfl⟩

end Model

namespace Session

variable {α : Type} [Scalar α] [Inhabited α] (store : α → α) (images : ImageSupport α)

/-- What a call returns. -/
def outcome (s : Session α) (call : ModelCall α) : Except (Failure α) Unit :=
  (Run.start s (call.run store images)).1

/-- The session after a call. -/
def next (s : Session α) (call : ModelCall α) : Session α :=
  (Run.start s (call.run store images)).2.state

/-- The session after some calls. -/
def after (s : Session α) (calls : List (ModelCall α)) : Session α :=
  calls.foldl (next store images) s

/-- The textures that a call computes or reads. -/
inductive Supplies (s : Session α) : ModelCall α → TextureSet α → Prop
  | init {effort : Effort α} {observer : Option (Observer α)} {textures : TextureSet α}
      (h : (Run.start () (s.model.precompute effort store observer)).1 = .ok textures) :
      Supplies s (.init effort observer) textures
  | load {path : Text} {textures : TextureSet α} (h : loadArchive s.files path = .ok textures) :
      Supplies s (.load path) textures

/-- The observer of a call has answered progress that it heard with a failure. -/
def Interrupted (s : Session α) : ModelCall α → Prop
  | .init effort observer => ∃ o ∈ observer, ∃ heard,
      .progress heard ∈ (Run.start s ((ModelCall.init effort observer).run store images)).2.events ∧
        (o.answer heard).isSome = true
  | _ => False

/-- The call at a place of a sequence was there to give the model textures and has succeeded. -/
def Filled (s : Session α) (calls : List (ModelCall α)) (k : Nat) (call : ModelCall α) : Prop :=
  calls[k]? = some call ∧ call.fills = true ∧
    (s.after store images (calls.take k)).outcome store images call = .ok ()

/-- A call that loads replaces the model if the archive can be used. -/
theorem start_load (s : Session α) (path : Text) :
    Run.start s ((ModelCall.load path).run store images) =
      match s.model.load s.files path with
      | .ok model => (.ok (), ⟨{ s with model }, #[]⟩)
      | .error failure => (.error failure, ⟨s, #[]⟩) := by
  have hstate : (Run.state : Run α (Session α) (Session α)).run ⟨s, #[]⟩ = (.ok s, ⟨s, #[]⟩) := rfl
  rw [Run.start_eq_run, ModelCall.run, run_bind_of_ok hstate]
  cases s.model.load s.files path <;> rfl

/-- What one call does to the model: it gives it the textures that it supplies, and then it has
succeeded or was interrupted by its observer, or it leaves it as it is, and then it has failed if it
was there to give it textures. -/
theorem next_model_cases (s : Session α) (call : ModelCall α) :
    (∃ textures, s.Supplies store call textures ∧ call.fills = true ∧
        (s.next store images call).model = s.model.withTextures textures ∧
        (s.outcome store images call = .ok () ∨ s.Interrupted store images call)) ∨
      (call.fills = true → s.outcome store images call ≠ .ok ()) ∧
        (s.next store images call).model = s.model := by
  cases call with
  | init effort observer =>
    obtain ⟨failure, -, hfailed, hsame⟩ | ⟨textures, hcomputed, hmodel, hdone⟩ :=
      s.model.init_cases effort store observer
    · refine .inr ⟨fun _ hok => ?_, hsame⟩
      cases hfailed.symm.trans hok
    · exact .inl ⟨textures, .init hcomputed, rfl, hmodel, hdone⟩
  | load path =>
    have hrun := s.start_load store images path
    unfold outcome next
    cases hload : s.model.load s.files path with
    | error failure =>
      rw [hload] at hrun
      rw [hrun]
      exact .inr ⟨fun _ hok => (nomatch hok), rfl⟩
    | ok m =>
      rw [hload] at hrun
      rw [hrun]
      obtain ⟨textures, htextures, rfl⟩ := Model.exists_of_load hload
      exact .inl ⟨textures, .load htextures, rfl, rfl, .inl rfl⟩
  | save path console => exact .inr ⟨nofun, rfl⟩
  | saveImages directory half console => exact .inr ⟨nofun, rfl⟩
  | changeFiles files => exact .inr ⟨nofun, rfl⟩

variable {store images} {s : Session α} {call : ModelCall α}

/-- A call supplies only one set of textures. -/
theorem Supplies.unique {textures textures' : TextureSet α} (h : s.Supplies store call textures)
    (h' : s.Supplies store call textures') : textures = textures' := by
  cases h with
  | init h =>
    cases h' with
    | init h' => exact Except.ok.inj (h.symm.trans h')
  | load h =>
    cases h' with
    | load h' => exact Except.ok.inj (h.symm.trans h')

omit [Scalar α] [Inhabited α] in
theorem start_onFiles_of_refused (steps : Model α → Run α (FileStore α) Unit)
    {failure : Failure α} (h : steps s.model = Run.lift (.error failure)) :
    Run.start s (ModelCall.onFiles steps) = (.error failure, ⟨s, #[]⟩) := by
  have hstate : (Run.state : Run α (Session α) (Session α)).run ⟨s, #[]⟩ = (.ok s, ⟨s, #[]⟩) := rfl
  rw [Run.start_eq_run, ModelCall.onFiles, run_bind_of_ok hstate, h]
  rfl

/-- A model without textures refuses to save them, and the files stay as they are. -/
theorem next_of_saves (hsaves : call.saves = true) (h : s.model.isInitialized = false) :
    s.outcome store images call = .error .notInitialized ∧
      (s.next store images call).files = s.files := by
  have hrefused : s.model.texturesOrFail = .error .notInitialized := by
    rw [Model.texturesOrFail, h]
    rfl
  have hrun : Run.start s (call.run store images) = (.error .notInitialized, ⟨s, #[]⟩) := by
    cases call with
    | save path console =>
      have hsave : s.model.save path console = Run.lift (.error .notInitialized) := by
        rw [Model.save, hrefused, Run.lift_error_bind]
      exact start_onFiles_of_refused (·.save path console) hsave
    | saveImages directory half console =>
      have hsave : s.model.saveImages images directory half console =
          Run.lift (.error .notInitialized) := by
        rw [Model.saveImages, hrefused, Run.lift_error_bind]
      exact start_onFiles_of_refused (·.saveImages images directory half console) hsave
    | init effort observer => cases hsaves
    | load path => cases hsaves
    | changeFiles files => cases hsaves
  rw [outcome, next, hrun]
  exact ⟨rfl, rfl⟩

/-- A call that fails leaves the model as it was, unless its observer has made it fail. -/
theorem next_model_of_failed {failure : Failure α} (hpatient : ¬ s.Interrupted store images call)
    (hfailed : s.outcome store images call = .error failure) :
    (s.next store images call).model = s.model := by
  obtain ⟨-, -, -, -, hdone⟩ | ⟨-, hsame⟩ := s.next_model_cases store images call
  · cases (hdone.resolve_right hpatient).symm.trans hfailed
  · exact hsame

theorem next_model_of_saves (hsaves : call.saves = true) :
    (s.next store images call).model = s.model := by
  obtain ⟨-, -, hfills, -⟩ | ⟨-, hsame⟩ := s.next_model_cases store images call
  · cases hfills.symm.trans (ModelCall.fills_of_saves hsaves)
  · exact hsame

theorem after_take_succ {calls : List (ModelCall α)} {k : Nat} (h : calls[k]? = some call) :
    s.after store images (calls.take (k + 1)) =
      (s.after store images (calls.take k)).next store images call := by
  rw [List.take_add_one, h, after, List.foldl_append]
  rfl

/-- A model is marked as initialized exactly as long as it has textures. -/
theorem isInitialized_after (hs : s.model.isInitialized = s.model.textures.isSome)
    (calls : List (ModelCall α)) : (s.after store images calls).model.isInitialized =
      (s.after store images calls).model.textures.isSome := by
  induction calls generalizing s with
  | nil => exact hs
  | cons call rest ih =>
    refine ih ?_
    obtain ⟨textures, -, -, hmodel, -⟩ | ⟨-, hmodel⟩ := s.next_model_cases store images call
    · rw [hmodel]
      rfl
    · rw [hmodel, hs]

section

variable {calls : List (ModelCall α)}

theorem Filled.lt_length {k : Nat} (h : s.Filled store images calls k call) : k < calls.length :=
  (List.getElem?_eq_some_iff.mp h.1).1

/-- Only one call of a sequence is the last one that has filled the model. -/
theorem Filled.eq_of_last {k k' : Nat} {call' : ModelCall α}
    (h : s.Filled store images calls k call) (h' : s.Filled store images calls k' call')
    (hlast : ∀ j other, k < j → ¬ s.Filled store images calls j other)
    (hlast' : ∀ j other, k' < j → ¬ s.Filled store images calls j other) :
    k = k' ∧ call = call' := by
  obtain hlt | rfl | hlt := Nat.lt_trichotomy k k'
  · exact absurd h' (hlast k' call' hlt)
  · exact ⟨rfl, Option.some.inj (h.1.symm.trans h'.1)⟩
  · exact absurd h (hlast' k call hlt)

variable (h : ∀ k call, calls[k]? = some call →
  ¬ (s.after store images (calls.take k)).Interrupted store images call)

include h

/-- After any number of calls the model is as it was before them if no call has filled it, and else
it has the textures of the last call that has. -/
theorem model_after_take {n : Nat} (hn : n ≤ calls.length) :
    (s.after store images (calls.take n)).model = s.model ∧
        (∀ k < n, ∀ call, ¬ s.Filled store images calls k call) ∨
      ∃ k < n, ∃ call textures, s.Filled store images calls k call ∧
        (s.after store images (calls.take k)).Supplies store call textures ∧
        (∀ j < n, k < j → ∀ other, ¬ s.Filled store images calls j other) ∧
        (s.after store images (calls.take n)).model =
          (s.after store images (calls.take k)).model.withTextures textures := by
  induction n with
  | zero => exact .inl ⟨rfl, nofun⟩
  | succ n ih =>
    have hcall : calls[n]? = some calls[n] := List.getElem?_eq_getElem hn
    rw [after_take_succ hcall]
    obtain ⟨textures, hsupplies, hfills, hmodel, hdone⟩ | ⟨hfails, hmodel⟩ :=
      next_model_cases store images _ calls[n]
    · have hok := hdone.resolve_right (h n _ hcall)
      refine .inr ⟨n, Nat.lt_succ_self n, _, textures, ⟨hcall, hfills, hok⟩, hsupplies, ?_, hmodel⟩
      intro j hj hnj
      omega
    · have hnot : ∀ call, ¬ s.Filled store images calls n call := by
        rintro call ⟨hsame, hfills, hok⟩
        cases hcall.symm.trans hsame
        exact hfails hfills hok
      rw [hmodel]
      obtain ⟨hsame, hnone⟩ | ⟨k, hk, call, textures, hfilled, hsupplies, hlast, hsame⟩ :=
        ih (Nat.le_of_succ_le hn)
      · refine .inl ⟨hsame, fun k hk call => ?_⟩
        obtain hk | rfl := Nat.lt_succ_iff_lt_or_eq.mp hk
        · exact hnone k hk call
        · exact hnot call
      · refine .inr ⟨k, Nat.lt_succ_of_lt hk, call, textures, hfilled, hsupplies, ?_, hsame⟩
        intro j hj hkj other
        obtain hj | rfl := Nat.lt_succ_iff_lt_or_eq.mp hj
        · exact hlast j hj hkj other
        · exact hnot other

/-- A model that no call has filled is as it was. -/
theorem model_of_unfilled {n : Nat} (hn : n ≤ calls.length)
    (hnone : ∀ k < n, ∀ call, ¬ s.Filled store images calls k call) :
    (s.after store images (calls.take n)).model = s.model := by
  obtain ⟨hsame, -⟩ | ⟨k, hk, call, -, hfilled, -⟩ := model_after_take h hn
  · exact hsame
  · exact absurd hfilled (hnone k hk call)

/-- After all calls the model is as it was before them if no call has filled it, and else it has the
textures of the last call that has. -/
theorem model_after_cases :
    (s.after store images calls).model = s.model ∧
        (∀ k call, ¬ s.Filled store images calls k call) ∨
      ∃ k call textures, s.Filled store images calls k call ∧
        (s.after store images (calls.take k)).Supplies store call textures ∧
        (∀ j other, k < j → ¬ s.Filled store images calls j other) ∧
        (s.after store images calls).model =
          (s.after store images (calls.take k)).model.withTextures textures := by
  have hmodel := model_after_take h (Nat.le_refl calls.length)
  rw [List.take_length] at hmodel
  obtain ⟨hsame, hnone⟩ | ⟨k, -, call, textures, hfilled, hsupplies, hlast, hmodel⟩ := hmodel
  · exact .inl ⟨hsame, fun k call hfilled => hnone k hfilled.lt_length call hfilled⟩
  · exact .inr ⟨k, call, textures, hfilled, hsupplies,
      fun j other hkj hother => hlast j hother.lt_length hkj other hother, hmodel⟩

theorem isInitialized_iff (hnew : s.model.isInitialized = false) :
    (s.after store images calls).model.isInitialized = true ↔
      ∃ k call, s.Filled store images calls k call := by
  obtain ⟨hsame, hnone⟩ | ⟨k, call, textures, hfilled, -, -, hmodel⟩ := model_after_cases h
  · rw [hsame, hnew]
    exact ⟨nofun, fun ⟨k, call, hfilled⟩ => absurd hfilled (hnone k call)⟩
  · rw [hmodel]
    exact ⟨fun _ => ⟨k, call, hfilled⟩, fun _ => rfl⟩

theorem textures_iff (hnew : s.model.textures = none) {textures : TextureSet α} :
    (s.after store images calls).model.textures = some textures ↔ ∃ k call,
      s.Filled store images calls k call ∧
      (s.after store images (calls.take k)).Supplies store call textures ∧
      ∀ j other, k < j → ¬ s.Filled store images calls j other := by
  obtain ⟨hsame, hnone⟩ | ⟨k, call, found, hfilled, hsupplies, hlast, hmodel⟩ :=
    model_after_cases h
  · rw [hsame, hnew]
    exact ⟨nofun, fun ⟨k, call, hfilled, _⟩ => absurd hfilled (hnone k call)⟩
  · have hfound : (s.after store images calls).model.textures = some found :=
      congrArg Model.textures hmodel
    rw [hfound]
    constructor
    · rintro ⟨⟩
      exact ⟨k, call, hfilled, hsupplies, hlast⟩
    · rintro ⟨k', call', hfilled', hsupplies', hlast'⟩
      obtain ⟨rfl, rfl⟩ := hfilled.eq_of_last hfilled' hlast hlast'
      rw [hsupplies.unique hsupplies']

end

/-- The history of a new model. It is initialized, and has textures, when a call has precomputed or
loaded them successfully, and they are those of the last such call. A call that is there to give it
textures and fails leaves the model as it was, a call that saves never changes it, and before it has
textures such a call is refused and does not touch the files. No observer may have interrupted a
precomputation. -/
theorem history (parameters : Parameters α) (sizes : GridSizes α) (unit : Value α)
    (files : FileStore α) (store : α → α) (images : ImageSupport α) (calls : List (ModelCall α))
    (h : ∀ k call, calls[k]? = some call →
      ¬ (after store images ⟨.new parameters sizes unit, files⟩ (calls.take k)).Interrupted store
        images call) :
    let start : Session α := ⟨.new parameters sizes unit, files⟩
    let model := (start.after store images calls).model
    (model.isInitialized = true ↔ model.textures.isSome = true) ∧
    (model.isInitialized = true ↔ ∃ k call, start.Filled store images calls k call) ∧
    (∀ textures, model.textures = some textures ↔ ∃ k call,
      start.Filled store images calls k call ∧
      (start.after store images (calls.take k)).Supplies store call textures ∧
      ∀ j other, k < j → ¬ start.Filled store images calls j other) ∧
    (∀ k call, calls[k]? = some call →
      let now := start.after store images (calls.take k)
      (call.fills = true → ∀ failure, now.outcome store images call = .error failure →
        (now.next store images call).model = now.model) ∧
      (call.saves = true → (now.next store images call).model = now.model ∧
        ((∀ j < k, ∀ other, ¬ start.Filled store images calls j other) →
          now.outcome store images call = .error .notInitialized ∧
          (now.next store images call).files = now.files))) ∧
    (Failure.notInitialized : Failure α).kind = .runtime := by
  intro start model
  have hflag : model.isInitialized = model.textures.isSome := isInitialized_after rfl calls
  refine ⟨by rw [hflag], isInitialized_iff h rfl, fun textures => textures_iff h rfl, ?_, rfl⟩
  intro k call hcall now
  have hk : k ≤ calls.length := Nat.le_of_lt (List.getElem?_eq_some_iff.mp hcall).1
  refine ⟨fun _ failure hfailed => next_model_of_failed (h k call hcall) hfailed,
    fun hsaves => ⟨next_model_of_saves hsaves, fun hnone => next_of_saves hsaves ?_⟩⟩
  exact congrArg Model.isInitialized (model_of_unfilled h hk hnone)

/-- A new model refuses to be saved, has no textures after a precomputation in an impossible unit
and after an archive that is not there, and then has those of an archive that fits. -/
theorem history_of_loading :
    let textures : TextureSet Float :=
      ⟨none, .ofFn [2, 4, 4, 4] fun _ => 1, .ofFn [2, 4, 4, 4] fun _ => 2,
        .ofFn [2, 4, 4, 3] fun _ => 3, .ofFn [2, 4, 4, 3] fun _ => 4⟩
    let files : FileStore Float := ⟨[(["luts.npz"], .file (.archive textures.named))]⟩
    let extents : Extents := { nuSize := 2, muSSize := 2, muSize := 4, rSize := 2 }
    let start : Session Float := ⟨.new .earth (.ofExtents extents) (.integer 0), files⟩
    let images : ImageSupport Float := ⟨true, fun _ => id⟩
    let calls : List (ModelCall Float) :=
      [.save "luts.npz" .complete, .init .standard none, .load "lost.npz", .load "luts.npz"]
    (∀ k call, calls[k]? = some call →
      ¬ (start.after id images (calls.take k)).Interrupted id images call) ∧
    start.outcome id images (.save "luts.npz" .complete) = .error .notInitialized ∧
    (start.after id images calls).model.isInitialized = true ∧
    (start.after id images calls).model.textures = some textures := by
  intro textures files extents start images calls
  have hpatient : ∀ k call, calls[k]? = some call →
      ¬ (start.after id images (calls.take k)).Interrupted id images call := by
    intro k call hcall
    have hmem := List.mem_of_getElem? hcall
    simp only [calls, List.mem_cons, List.not_mem_nil, or_false] at hmem
    obtain rfl | rfl | rfl | rfl := hmem
    · exact id
    · rintro ⟨o, ho, -⟩
      cases ho
    · exact id
    · exact id
  obtain ⟨-, hflag, htextures, hcalls, -⟩ :=
    history .earth (.ofExtents extents) (.integer 0) files id images calls hpatient
  have hfilled : start.Filled id images calls 3 (.load "luts.npz") := ⟨rfl, rfl, rfl⟩
  refine ⟨hpatient, ?_, hflag.mpr ⟨3, _, hfilled⟩, (htextures textures).mpr
    ⟨3, _, hfilled, .load rfl, fun j other hj hother => ?_⟩⟩
  · exact (((hcalls 0 (.save "luts.npz" .complete) rfl).2 rfl).2 nofun).1
  · have hlast := (List.getElem?_eq_some_iff.mp hother.1).1
    simp only [calls, List.length_cons, List.length_nil] at hlast
    omega

end Session

end Airlight
