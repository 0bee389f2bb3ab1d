import Airlight.Journal.Console
import Airlight.Proofs.Outcomes

/-!
# Results of runs

A run that succeeds yields a result and leaves a state, whatever has been noted before. What a
sequence of steps yields follows from what each step does. A run that fails leaves a state, too: the
one in which the step that failed has left it.

## Main definitions

* `Run.Yields` — a run succeeds, with a result and the state that it leaves.
* `Run.Fails` — a run fails, with a failure and the state that it leaves.
* `Run.Leaves` — a run has an outcome, a result or a failure, and leaves a state, that go together.
* `Run.Ensures` — whenever a run succeeds, its result and the state that it leaves have a property.
* `Run.Repeats` — whenever a run succeeds, another one has its result and leaves its state.
* `Run.Corresponds` — two runs fail alike, or succeed with results that go together.
* `Run.Steady` — what a run gives does not depend on the state in which it begins.
* `Observer.Silent` — an observer that never interrupts.
-/

namespace Airlight

variable {α σ τ β γ : Type}

/-- Steps after one that succeeds go on from its result and state. -/
theorem run_bind_of_ok {ε : Type} {first : ExceptT ε (StateM σ) β}
    {next : β → ExceptT ε (StateM σ) γ} {s s' : σ} {b : β} (h : first.run s = (.ok b, s')) :
    (first >>= next).run s = (next b).run s' := by
  change ExceptT.bindCont next (first.run s).1 (first.run s).2 = _
  rw [h]
  rfl

/-- A step that fails ends the sequence. -/
theorem run_bind_of_error {ε : Type} {first : ExceptT ε (StateM σ) β}
    {next : β → ExceptT ε (StateM σ) γ} {s s' : σ} {e : ε} (h : first.run s = (.error e, s')) :
    (first >>= next).run s = (.error e, s') := by
  change ExceptT.bindCont next (first.run s).1 (first.run s).2 = _
  rw [h]
  rfl

/-- A sequence of steps succeeds only if each step does. -/
theorem run_bind_eq_ok {ε : Type} {first : ExceptT ε (StateM σ) β}
    {next : β → ExceptT ε (StateM σ) γ} {s s' : σ} {c : γ}
    (h : (first >>= next).run s = (.ok c, s')) :
    ∃ b t, first.run s = (.ok b, t) ∧ (next b).run t = (.ok c, s') := by
  rcases hfirst : first.run s with ⟨e | b, t⟩
  · rw [run_bind_of_error hfirst] at h
    cases h
  · rw [run_bind_of_ok hfirst] at h
    exact ⟨b, t, rfl, h⟩

/-- The observer answers no report with a failure. -/
def Observer.Silent (o : Observer α) : Prop := ∀ heard, o.answer heard = none

/-- A silent observer is silent about the parts of a run. -/
theorem Observer.silent_map_ofPart {observer : Option (Observer α)} (h : ∀ o ∈ observer, o.Silent)
    (convert : α → α) : ∀ o ∈ observer.map (Observer.ofPart convert), o.Silent := by
  cases observer with
  | none => exact nofun
  | some inner =>
    rintro _ ⟨⟩
    exact h inner rfl

namespace Run

theorem lift_ok_bind (b : β) (next : β → Run α σ γ) : (lift (.ok b) >>= next) = next b := rfl

theorem lift_error_bind (failure : Failure α) (next : β → Run α σ γ) :
    (lift (.error failure) >>= next) = lift (.error failure) := rfl

/-- From the state `s` the steps succeed with result `b` and leave the state `s'`. -/
def Yields (steps : Run α σ β) (s : σ) (b : β) (s' : σ) : Prop :=
  ∀ events, ∃ events', steps ⟨s, events⟩ = (.ok b, ⟨s', events'⟩)

variable {s s' s'' : σ} {b : β} {c : γ} {steps : Run α σ β}

theorem Yields.bind {next : β → Run α σ γ} (h : steps.Yields s b s')
    (hnext : (next b).Yields s' c s'') : (steps >>= next).Yields s c s'' := by
  intro events
  obtain ⟨events', hsteps⟩ := h events
  obtain ⟨events'', hrest⟩ := hnext events'
  exact ⟨events'', (run_bind_of_ok hsteps).trans hrest⟩

theorem yields_pure (b : β) (s : σ) : (pure b : Run α σ β).Yields s b s :=
  fun events => ⟨events, rfl⟩

theorem yields_lift {r : Except (Failure α) β} (h : r = .ok b) (s : σ) : (lift r).Yields s b s := by
  subst h
  exact fun events => ⟨events, rfl⟩

theorem yields_state (s : σ) : (state : Run α σ σ).Yields s s s := fun events => ⟨events, rfl⟩

theorem yields_change (f : σ → σ) (s : σ) : (change f : Run α σ Unit).Yields s () (f s) :=
  fun events => ⟨events, rfl⟩

theorem yields_note (n : Notice α) (s : σ) : (note n : Run α σ Unit).Yields s () s :=
  fun _ => ⟨_, rfl⟩

/-- A line that the console does not refuse is shown. -/
theorem yields_announce {console : Console} {n : FileNotice}
    (h : console.refusal n.message = none) (s : σ) :
    (announce console n : Run α σ Unit).Yields s () s := by
  unfold announce
  rw [h]
  exact yields_note _ s

/-- A silent observer hears of the progress and changes nothing. -/
theorem yields_tell {observer : Option (Observer α)} (h : ∀ o ∈ observer, o.Silent)
    (p : Progress α) (s : σ) : (tell observer p).Yields s () s := by
  cases observer with
  | none => exact yields_pure () s
  | some o =>
    intro events
    refine ⟨events.push (.progress (o.hears p)), ?_⟩
    have hanswer := h o rfl (o.hears p)
    simp only [tell, hanswer]
    rfl

/-- The outcome of a run that is started on its own, and the state that it leaves. -/
theorem Yields.start (h : steps.Yields s b s') :
    ∃ j, start s steps = (.ok b, j) ∧ j.state = s' := by
  obtain ⟨events, hsteps⟩ := h #[]
  exact ⟨_, hsteps, rfl⟩

theorem Yields.start_eq (h : steps.Yields s b s') : (Run.start s steps).1 = .ok b := by
  obtain ⟨_, hstart, -⟩ := h.start
  rw [hstart]

theorem start_eq_run (s : σ) (steps : Run α σ β) : start s steps = steps.run ⟨s, #[]⟩ := rfl

/-- Steps on a state of their own give their result together with that state. -/
theorem within_of_ok {t t' : τ} {inner : Run α τ β} {events events' : Array (Event α)}
    (h : inner.run ⟨t, events⟩ = (.ok b, ⟨t', events'⟩)) (s : σ) :
    (within t inner : Run α σ (β × τ)).run ⟨s, events⟩ = (.ok (b, t'), ⟨s, events'⟩) := by
  change ((inner.run ⟨t, events⟩).1.map (·, (inner.run ⟨t, events⟩).2.state),
    (⟨s, (inner.run ⟨t, events⟩).2.events⟩ : Journal α σ)) = _
  rw [h]
  rfl

/-- What steps on a state of their own have done to it is lost when they fail. -/
theorem within_of_error {t : τ} {inner : Run α τ β} {events : Array (Event α)}
    {failure : Failure α} {j : Journal α τ} (h : inner.run ⟨t, events⟩ = (.error failure, j))
    (s : σ) :
    (within t inner : Run α σ (β × τ)).run ⟨s, events⟩ = (.error failure, ⟨s, j.events⟩) := by
  change ((inner.run ⟨t, events⟩).1.map (·, (inner.run ⟨t, events⟩).2.state),
    (⟨s, (inner.run ⟨t, events⟩).2.events⟩ : Journal α σ)) = _
  rw [h]
  rfl

theorem Yields.within {t t' : τ} {inner : Run α τ β} (h : inner.Yields t b t') (s : σ) :
    (within t inner : Run α σ (β × τ)).Yields s (b, t') s := by
  intro events
  obtain ⟨events', hinner⟩ := h events
  exact ⟨events', within_of_ok hinner s⟩

/-! ## Runs that may fail -/

/-- From the state `s` the steps fail and leave the state `s'`. -/
def Fails (steps : Run α σ β) (s : σ) (failure : Failure α) (s' : σ) : Prop :=
  ∀ events, ∃ events', steps ⟨s, events⟩ = (.error failure, ⟨s', events'⟩)

variable {failure : Failure α}

theorem Fails.bind (h : steps.Fails s failure s') (next : β → Run α σ γ) :
    (steps >>= next).Fails s failure s' := by
  intro events
  obtain ⟨events', hsteps⟩ := h events
  exact ⟨events', run_bind_of_error hsteps⟩

theorem Yields.bind_fails {next : β → Run α σ γ} (h : steps.Yields s b s')
    (hnext : (next b).Fails s' failure s'') : (steps >>= next).Fails s failure s'' := by
  intro events
  obtain ⟨events', hsteps⟩ := h events
  obtain ⟨events'', hrest⟩ := hnext events'
  exact ⟨events'', (run_bind_of_ok hsteps).trans hrest⟩

/-- An observer that interrupts a run leaves the state as it is. -/
theorem fails_tell {o : Observer α} (h : ∀ heard, o.answer heard = some failure) (p : Progress α)
    (s : σ) : (tell (some o) p).Fails s failure s := by
  intro events
  refine ⟨events.push (.progress (o.hears p)), ?_⟩
  have hanswer := h (o.hears p)
  simp only [tell, hanswer]
  rfl

/-- A line that the console refuses leaves the state as it is. -/
theorem fails_announce {console : Console} {n : FileNotice} {reason : Text}
    (h : console.refusal n.message = some reason) (s : σ) :
    (announce console n : Run α σ Unit).Fails s (.encoding reason) s := by
  unfold announce
  rw [h]
  exact fun events => ⟨events, rfl⟩

/-- The outcome and state of a failed run that was started on its own. -/
theorem Fails.start_eq (h : steps.Fails s failure s') :
    (start s steps).1 = .error failure ∧ (start s steps).2.state = s' := by
  obtain ⟨events, hsteps⟩ := h #[]
  rw [start, hsteps]
  exact ⟨rfl, rfl⟩

/-- From the state `s` the steps have an outcome and leave a state for which `post` holds, whether
they succeed or not. -/
def Leaves (steps : Run α σ β) (s : σ) (post : Except (Failure α) β → σ → Prop) : Prop :=
  ∀ events, post (steps ⟨s, events⟩).1 (steps ⟨s, events⟩).2.state

variable {post post' : Except (Failure α) β → σ → Prop}

theorem Leaves.mono (h : steps.Leaves s post) (himp : ∀ r t, post r t → post' r t) :
    steps.Leaves s post' :=
  fun events => himp _ _ (h events)

/-- The outcome and state of a run that was started on its own. -/
theorem Leaves.start (h : steps.Leaves s post) : post (start s steps).1 (start s steps).2.state :=
  h #[]

/-- A failure ends the sequence; after a success the next steps go on. -/
theorem Leaves.bind {next : β → Run α σ γ} {post : Except (Failure α) γ → σ → Prop}
    (h : steps.Leaves s fun r t => match r with
      | .ok b => (next b).Leaves t post
      | .error failure => post (.error failure) t) : (steps >>= next).Leaves s post := by
  intro events
  have hsteps := h events
  rcases hrun : steps ⟨s, events⟩ with ⟨failure | b, j⟩
  · have hbind : (steps >>= next) ⟨s, events⟩ = (.error failure, j) := run_bind_of_error hrun
    rw [hbind]
    rwa [hrun] at hsteps
  · have hbind : (steps >>= next) ⟨s, events⟩ = next b j := run_bind_of_ok hrun
    rw [hbind]
    rw [hrun] at hsteps
    exact hsteps j.events

theorem leaves_pure {b : β} (h : post (.ok b) s) : (pure b : Run α σ β).Leaves s post := fun _ => h

theorem leaves_lift {r : Except (Failure α) β} (h : post r s) : (lift r).Leaves s post := fun _ => h

theorem leaves_throw {failure : Failure α} (h : post (.error failure) s) :
    (throw failure : Run α σ β).Leaves s post := fun _ => h

theorem leaves_state {post : Except (Failure α) σ → σ → Prop} (h : post (.ok s) s) :
    (state : Run α σ σ).Leaves s post := fun _ => h

section

variable {post : Except (Failure α) Unit → σ → Prop}

theorem leaves_change {f : σ → σ} (h : post (.ok ()) (f s)) :
    (change f : Run α σ Unit).Leaves s post := fun _ => h

theorem leaves_note {n : Notice α} (h : post (.ok ()) s) : (note n : Run α σ Unit).Leaves s post :=
  fun _ => h

/-- A console may refuse a line, but changes nothing. -/
theorem leaves_announce {console : Console} {n : FileNotice}
    (hshown : console.refusal n.message = none → post (.ok ()) s)
    (hrefused : ∀ failure, console.refusal n.message ≠ none → post (.error failure) s) :
    (announce console n : Run α σ Unit).Leaves s post := by
  unfold announce
  cases hrefusal : console.refusal n.message with
  | none => exact leaves_note (hshown hrefusal)
  | some reason => exact leaves_throw (hrefused _ (by rw [hrefusal]; exact nofun))

/-- An observer may interrupt a run, but changes nothing. -/
theorem leaves_tell {observer : Option (Observer α)} {p : Progress α} (h : ∀ r, post r s) :
    (tell observer p).Leaves s post := by
  cases observer with
  | none => exact leaves_pure (h _)
  | some o =>
    intro events
    cases hanswer : o.answer (o.hears p) <;> simp only [tell, hanswer] <;> exact h _

end

/-- Steps on a state of their own leave the state around them as it is. -/
theorem Leaves.within {t : τ} {inner : Run α τ β} {post : Except (Failure α) (β × τ) → σ → Prop}
    (h : inner.Leaves t fun r t' => post (r.map (·, t')) s) :
    (within t inner : Run α σ (β × τ)).Leaves s post := fun events => h events

/-! ## Runs that have succeeded -/

/-- If the steps succeed from the state `s`, then `post` holds of the result and the state that they
leave. -/
def Ensures (steps : Run α σ β) (s : σ) (post : β → σ → Prop) : Prop :=
  ∀ events b j, steps ⟨s, events⟩ = (.ok b, j) → post b j.state

section

variable {post post' : β → σ → Prop}

theorem Ensures.mono (h : steps.Ensures s post) (himp : ∀ b t, post b t → post' b t) :
    steps.Ensures s post' := fun events b j hrun => himp b _ (h events b j hrun)

/-- Both parts of a sequence that has succeeded have. -/
theorem Ensures.bind {next : β → Run α σ γ} {last : γ → σ → Prop} (h : steps.Ensures s post)
    (hnext : ∀ b t, post b t → (next b).Ensures t last) : (steps >>= next).Ensures s last := by
  intro events c j hrun
  obtain ⟨b, i, hsteps, hrest⟩ := run_bind_eq_ok hrun
  exact hnext b i.state (h events b i hsteps) i.events c j hrest

/-- The result of a run that was started on its own. -/
theorem Ensures.start (h : steps.Ensures s post) (hrun : (start s steps).1 = .ok b) :
    post b (start s steps).2.state := h #[] b _ (Prod.ext hrun rfl)

theorem Ensures.leaves (h : steps.Ensures s post) :
    steps.Leaves s fun r t => ∀ b, r = .ok b → post b t :=
  fun events b hresult => h events b _ (Prod.ext hresult rfl)

theorem Leaves.ensures {post : Except (Failure α) β → σ → Prop} (h : steps.Leaves s post) :
    steps.Ensures s fun b t => post (.ok b) t := by
  intro events b j hrun
  have hpost := h events
  rwa [hrun] at hpost

theorem ensures_pure (b : β) (s : σ) : (pure b : Run α σ β).Ensures s fun c t => c = b ∧ t = s := by
  intro events c j hrun
  cases hrun
  exact ⟨rfl, rfl⟩

theorem ensures_lift (r : Except (Failure α) β) (s : σ) :
    (lift r).Ensures s fun b t => r = .ok b ∧ t = s := by
  intro events b j hrun
  cases hrun
  exact ⟨rfl, rfl⟩

theorem ensures_throw (failure : Failure α) (s : σ) (post : β → σ → Prop) :
    (throw failure : Run α σ β).Ensures s post := fun _ _ _ hrun => nomatch hrun

theorem ensures_state (s : σ) : (state : Run α σ σ).Ensures s fun b t => b = s ∧ t = s := by
  intro events b j hrun
  cases hrun
  exact ⟨rfl, rfl⟩

theorem ensures_note (n : Notice α) (s : σ) :
    (note n : Run α σ Unit).Ensures s fun _ t => t = s := by
  intro events b j hrun
  cases hrun
  rfl

theorem Ensures.within {t : τ} {inner : Run α τ β} {post : β → τ → Prop}
    (h : inner.Ensures t post) (s : σ) :
    (within t inner : Run α σ (β × τ)).Ensures s fun r s' => post r.1 r.2 ∧ s' = s := by
  intro events r j hrun
  rcases hinner : inner.run ⟨t, events⟩ with ⟨failure | b, i⟩
  · cases (within_of_error hinner s).symm.trans hrun
  · cases (within_of_ok hinner s).symm.trans hrun
    exact ⟨h events b i hinner, rfl⟩

theorem ensures_tell (observer : Option (Observer α)) (p : Progress α) (s : σ) :
    (tell observer p).Ensures s fun _ t => t = s := by
  have hleaves : (tell observer p).Leaves s fun _ t => t = s := leaves_tell fun _ => rfl
  exact hleaves.ensures

end

/-! ## Runs that are repeated -/

/-- Whenever the first run succeeds, the second one succeeds from the same state, with the same
result, and leaves the same state, whatever has been noted before. -/
def Repeats (steps steps' : Run α σ β) : Prop := ∀ s, steps.Ensures s (steps'.Yields s)

section

variable {steps steps' : Run α σ β}

theorem Repeats.bind {next next' : β → Run α σ γ} (h : Repeats steps steps')
    (hnext : ∀ b, Repeats (next b) (next' b)) : Repeats (steps >>= next) (steps' >>= next') :=
  fun s => (h s).bind fun b t hfirst => (hnext b t).mono fun _ _ hrest => hfirst.bind hrest

theorem repeats_pure (b : β) : Repeats (pure b : Run α σ β) (pure b) := fun s =>
  (ensures_pure b s).mono <| by
    rintro _ _ ⟨rfl, rfl⟩
    exact yields_pure _ _

/-- Steps after a computation without steps are repeated after another one that succeeds with it. -/
theorem repeats_lift_bind {r : Except (Failure α) β} {r' : Except (Failure α) γ} {δ : Type}
    {next : β → Run α σ δ} {next' : γ → Run α σ δ}
    (h : ∀ b, r = .ok b → ∃ c, r' = .ok c ∧ Repeats (next b) (next' c)) :
    Repeats (lift r >>= next) (lift r' >>= next') := by
  cases r with
  | error failure => exact fun s => ensures_throw failure s _
  | ok b =>
    obtain ⟨c, rfl, hnext⟩ := h b rfl
    exact hnext

theorem repeats_lift (r : Except (Failure α) β) : Repeats (lift r : Run α σ β) (lift r) := fun s =>
  (ensures_lift r s).mono <| by
    rintro _ _ ⟨hr, rfl⟩
    exact yields_lift hr _

theorem repeats_throw (failure : Failure α) (steps' : Run α σ β) :
    Repeats (throw failure) steps' := fun s => ensures_throw failure s _

theorem repeats_state : Repeats (state : Run α σ σ) state := fun s =>
  (ensures_state s).mono <| by
    rintro _ _ ⟨rfl, rfl⟩
    exact yields_state _

theorem repeats_change (f : σ → σ) : Repeats (change f : Run α σ Unit) (change f) := by
  intro s events b j hrun
  cases hrun
  exact yields_change f s

theorem repeats_note (n n' : Notice α) : Repeats (note n : Run α σ Unit) (note n') := fun s =>
  (ensures_note n s).mono <| by
    rintro ⟨⟩ _ rfl
    exact yields_note n' _

/-- What an observer has not interrupted, a silent one does not interrupt either. -/
theorem repeats_tell (observer : Option (Observer α)) {observer' : Option (Observer α)}
    (h : ∀ o ∈ observer', o.Silent) (p : Progress α) :
    Repeats (tell observer p : Run α σ Unit) (tell observer' p) := fun s =>
  (ensures_tell observer p s).mono <| by
    rintro ⟨⟩ _ rfl
    exact yields_tell h p _

theorem Repeats.within {inner inner' : Run α τ β} (h : Repeats inner inner') (t : τ) :
    Repeats (within t inner : Run α σ (β × τ)) (within t inner') := fun s =>
  ((h t).within s).mono <| by
    rintro ⟨b, t'⟩ _ ⟨hinner, rfl⟩
    exact hinner.within _

end

/-! ## Runs side by side -/

/-- From whatever states two runs begin, they fail with the same failure, or both succeed with
results that are related. -/
def Corresponds (R : β → γ → Prop) (steps : Run α σ β) (steps' : Run α τ γ) : Prop :=
  ∀ j j', Airlight.Corresponds R (steps j).1 (steps' j').1

section

variable {δ ζ : Type} {R : β → γ → Prop} {S : δ → ζ → Prop} {steps : Run α σ β}
  {steps' : Run α τ γ}

theorem Corresponds.mono {R' : β → γ → Prop} (h : Corresponds R steps steps')
    (himp : ∀ b c, R b c → R' b c) : Corresponds R' steps steps' :=
  fun j j' => (h j j').mono himp

/-- Runs go on side by side as long as both succeed. -/
theorem Corresponds.bind {next : β → Run α σ δ} {next' : γ → Run α τ ζ}
    (h : Corresponds R steps steps') (hnext : ∀ b c, R b c → Corresponds S (next b) (next' c)) :
    Corresponds S (steps >>= next) (steps' >>= next') := by
  intro j j'
  have hboth := h j j'
  rcases hrun : steps j with ⟨failure | b, i⟩ <;>
    rcases hrun' : steps' j' with ⟨failure' | c, i'⟩ <;>
    rw [hrun, hrun'] at hboth <;> cases hboth
  · have hbind : (steps >>= next) j = (.error failure, i) := run_bind_of_error hrun
    have hbind' : (steps' >>= next') j' = (.error failure, i') := run_bind_of_error hrun'
    rw [hbind, hbind']
    exact .error failure
  · next hbc =>
    have hbind : (steps >>= next) j = next b i := run_bind_of_ok hrun
    have hbind' : (steps' >>= next') j' = next' c i' := run_bind_of_ok hrun'
    rw [hbind, hbind']
    exact hnext b c hbc i i'

theorem corresponds_pure {b : β} {c : γ} (h : R b c) :
    Corresponds R (pure b : Run α σ β) (pure c : Run α τ γ) := fun _ _ => .ok h

theorem corresponds_lift {r : Except (Failure α) β} {r' : Except (Failure α) γ}
    (h : Airlight.Corresponds R r r') :
    Corresponds R (lift r : Run α σ β) (lift r' : Run α τ γ) := fun _ _ => h

theorem corresponds_throw (failure : Failure α) :
    Corresponds R (throw failure : Run α σ β) (throw failure : Run α τ γ) :=
  fun _ _ => .error failure

theorem corresponds_state {R : σ → τ → Prop} (h : ∀ s t, R s t) :
    Corresponds R (state : Run α σ σ) (state : Run α τ τ) := fun j j' => .ok (h j.state j'.state)

theorem corresponds_change (f : σ → σ) (g : τ → τ) :
    Corresponds Eq (change f : Run α σ Unit) (change g : Run α τ Unit) := fun _ _ => .ok rfl

theorem corresponds_note (n n' : Notice α) :
    Corresponds Eq (note n : Run α σ Unit) (note n' : Run α τ Unit) := fun _ _ => .ok rfl

/-- Whether an observer interrupts depends on the progress only. -/
theorem corresponds_tell (observer : Option (Observer α)) (p : Progress α) :
    Corresponds Eq (tell observer p : Run α σ Unit) (tell observer p : Run α τ Unit) := by
  cases observer with
  | none => exact corresponds_pure rfl
  | some o =>
    intro j j'
    cases hanswer : o.answer (o.hears p) <;> simp only [tell, hanswer]
    · exact .ok rfl
    · exact .error _

/-- Runs on states of their own correspond as they do alone. -/
theorem Corresponds.within {σ' τ' : Type} {t : σ'} {t' : τ'} {inner : Run α σ' β}
    {inner' : Run α τ' γ} (h : Corresponds R inner inner') :
    Corresponds (fun r r' => R r.1 r'.1) (within t inner : Run α σ (β × σ'))
      (within t' inner' : Run α τ (γ × τ')) := by
  intro j j'
  exact (h ⟨t, j.events⟩ ⟨t', j'.events⟩).map fun _ _ hbc => hbc

/-- The results of runs that are started on their own. -/
theorem Corresponds.start (h : Corresponds R steps steps') (s : σ) (t : τ) :
    Airlight.Corresponds R (start s steps).1 (start t steps').1 := h ⟨s, #[]⟩ ⟨t, #[]⟩

end

/-! ## Runs that do not look at the state -/

/-- What the steps give, as far as `view` shows it, is the same from every state and whatever has
been noted before. -/
def Steady (steps : Run α σ β) (view : β → γ) : Prop :=
  ∀ j j', (steps j).1.map view = (steps j').1.map view

/-- A run that goes along with itself is steady. -/
theorem Corresponds.steady {steps : Run α σ β} {view : β → γ}
    (h : Corresponds (fun b b' => view b = view b') steps steps) : steps.Steady view :=
  fun j j' => corresponds_iff_map_eq.mp (h j j')

end Run

end Airlight
