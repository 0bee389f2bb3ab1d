import Airlight.Journal.Event

/-!
# Runs

A `Run` is a sequence of steps that note events, change a state and may fail. What was noted and
changed before a failure stays.
-/

namespace Airlight

/-- A state and what has been noted so far. -/
structure Journal (α σ : Type) where
  state : σ
  events : Array (Event α)

/-- Steps that note events and change a state. -/
abbrev Run (α σ β : Type) := ExceptT (Failure α) (StateM (Journal α σ)) β

namespace Run

variable {α σ τ β : Type}

/-- Adds an event to the journal. -/
def record (e : Event α) : Run α σ Unit :=
  modify fun j => { j with events := j.events.push e }

/-- Notes that something has begun or is finished. -/
def note (n : Notice α) : Run α σ Unit := record (.notice n)

/-- Tells the observer, if there is one, how far the run has come. -/
def tell (observer : Option (Observer α)) (p : Progress α) : Run α σ Unit :=
  match observer with
  | none => pure ()
  | some o => do
    let heard := o.hears p
    record (.progress heard)
    match o.answer heard with
    | none => pure ()
    | some failure => throw failure

/-- The current state. -/
def state : Run α σ σ := return (← get).state

/-- Changes the state. -/
@[inline] def change (f : σ → σ) : Run α σ Unit :=
  modify fun j => { j with state := f j.state }

/-- The result of a computation without steps. -/
@[inline] def lift (r : Except (Failure α) β) : Run α σ β := ExceptT.mk (pure r)

/-- Runs steps on a state of their own, which is lost if they fail. -/
@[inline] def within (s : τ) (inner : Run α τ β) : Run α σ (β × τ) := ExceptT.mk fun j =>
  let (result, i) := inner ⟨s, j.events⟩
  (result.map (·, i.state), { j with events := i.events })

/-- Runs steps on a part of the state. -/
@[inline] def focus (get : σ → τ) (set : τ → σ → σ) (inner : Run α τ β) : Run α σ β :=
  ExceptT.mk fun j =>
    let (result, i) := inner ⟨get j.state, j.events⟩
    (result, ⟨set i.state j.state, i.events⟩)

/-- The result of a run that begins with an empty journal, with the journal it leaves. -/
@[inline] def start (s : σ) (steps : Run α σ β) : Except (Failure α) β × Journal α σ :=
  steps ⟨s, #[]⟩

end Run

end Airlight
