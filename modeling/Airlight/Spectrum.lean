import Airlight.Scalar.Basic

/-!
# Spectra

Spectral quantities carry one value for each of four channels. Every operation acts channel by
channel.
-/

namespace Airlight

/-- One value for each spectral channel. -/
abbrev Spectrum (α : Type) := Vector α 4

namespace Spectrum

variable {α : Type}

/-- The same value in every channel. -/
@[inline] def constant (x : α) : Spectrum α := Vector.ofFn fun _ => x

/-- Applies a function in every channel. -/
@[inline] def each (f : α → α) (a : Spectrum α) : Spectrum α := Vector.ofFn fun c => f a[c]

/-- Combines two spectra channel by channel. -/
@[inline] def combine (f : α → α → α) (a b : Spectrum α) : Spectrum α :=
  Vector.ofFn fun c => f a[c] b[c]

@[simp] theorem getElem_constant (x : α) (c : Nat) (h : c < 4) : (constant x)[c] = x := by
  simp [constant]

@[simp] theorem getElem_each (f : α → α) (a : Spectrum α) (c : Nat) (h : c < 4) :
    (each f a)[c] = f a[c] := by
  simp [each]

@[simp] theorem getElem_combine (f : α → α → α) (a b : Spectrum α) (c : Nat) (h : c < 4) :
    (combine f a b)[c] = f a[c] b[c] := by
  simp [combine]

theorem get_map {β : Type} (f : α → β) (a : Spectrum α) (c : Fin 4) :
    Vector.get (a.map f) c = f (a.get c) := by
  simp [Vector.get]

end Spectrum

end Airlight
