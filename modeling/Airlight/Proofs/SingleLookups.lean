import Airlight.Proofs.Tensors
import Airlight.Transmittance.Lookup

/-!
# Lookups for single rays

Transmittances can be asked for arrays of rays, or through an oracle for one ray at a time. Arrays
without axes get what the oracle answers.
-/

namespace Airlight

open Scalar Texture

variable {α : Type} [Scalar α] [Inhabited α]

namespace Texture.Table

/-- A lookup of the transmittance to the top, as an array without axes. -/
theorem toTopAll_single_iff {t : Table α 4} {s : Shell α} {r mu : α} {found : Tensor (Spectrum α)} :
    t.toTopAll s (.single r) (.single mu) = .ok found ↔
      ∃ value, t.toTop s r mu = .ok value ∧ found = .single value := by
  have hjoin : (Tensor.joinShapes [] [] : Except (Failure α) (List ℕ)) = .ok [] := rfl
  have haxes : (Tensor.checkLookupAxes [] : Except (Failure α) Unit) = .ok () := rfl
  simp only [toTopAll, Tensor.shape_single, hjoin, haxes, ok_bind, Tensor.tryMap₂,
    Tensor.map₂_single]
  exact Tensor.mapM_single_eq_ok_iff

end Texture.Table

namespace Transmittance

variable {x : Transmittance α} {r mu d : α} {ground : Bool} {found : Tensor (Spectrum α)}

/-- The transmittance along a single ray, as an array without axes. -/
theorem betweenAll_single_iff :
    x.betweenAll (.single r) (.single mu) (.single d) (.single ground) = .ok found ↔
      ∃ value, x.oracle.between r mu d ground = .ok value ∧ found = .single value := by
  cases x with
  | constant value =>
    have h : (constant value).betweenAll (.single r) (.single mu) (.single d) (.single ground) =
        .ok (.single value) := rfl
    rw [h]
    simp [oracle, Oracle.constant, eq_comm]
  | table s t =>
    have hratios : ∀ a b : Spectrum α, Table.ratios (.single a) (.single b) =
        .ok (.single (Spectrum.combine ratioOrZero a b)) := fun _ _ => rfl
    have haxis : (Tensor.checkNewAxis [] : Except (Failure α) Unit) = .ok () := rfl
    have hcut : ∀ a b : Spectrum α, (Spectrum.combine ratioOrZero a b).each (smaller · 1.0) =
        Spectrum.combine (fun a b => smaller (ratioOrZero a b) 1.0) a b := fun a b => by
      simp [Spectrum.each, Spectrum.combine]
    simp only [betweenAll, Table.betweenAll, Tensor.map₃_single, Tensor.map₂_single,
      Tensor.map_single, ok_bind, bind_eq_ok_iff, Table.toTopAll_single_iff, Tensor.shape_single,
      haxis, oracle, Oracle.ofTable, Table.between]
    constructor
    · rintro ⟨_, ⟨farBack, hfarBack, rfl⟩, _, ⟨nearBack, hnearBack, rfl⟩, _, hback, _,
        ⟨near, hnear, rfl⟩, _, ⟨far, hfar, rfl⟩, _, hahead, h⟩
      cases hback
      cases hahead
      cases h
      refine ⟨_, ⟨farBack, hfarBack, nearBack, hnearBack, near, hnear, far, hfar, rfl⟩, ?_⟩
      cases ground <;> exact congrArg Tensor.single (hcut _ _)
    · rintro ⟨_, ⟨farBack, hfarBack, nearBack, hnearBack, near, hnear, far, hfar, h⟩, rfl⟩
      cases h
      refine ⟨_, ⟨farBack, hfarBack, rfl⟩, _, ⟨nearBack, hnearBack, rfl⟩, _, hratios _ _, _,
        ⟨near, hnear, rfl⟩, _, ⟨far, hfar, rfl⟩, _, hratios _ _, ?_⟩
      cases ground <;> exact congrArg (fun a => Except.ok (Tensor.single a)) (hcut _ _)

/-- The transmittance from a single point to the sun, as an array without axes. -/
theorem toSunAll_single_iff :
    x.toSunAll (.single r) (.single mu) = .ok found ↔
      ∃ value, x.oracle.toSun r mu = .ok value ∧ found = .single value := by
  cases x with
  | constant value =>
    have h : (constant value).toSunAll (.single r) (.single mu) = .ok (.single value) := rfl
    rw [h]
    simp [oracle, Oracle.constant, eq_comm]
  | table s t =>
    simp only [toSunAll, Table.toSunAll, Tensor.map₂_single, ok_bind, bind_eq_ok_iff,
      Table.toTopAll_single_iff, oracle, Oracle.ofTable, Table.toSun]
    constructor
    · rintro ⟨_, ⟨top, htop, rfl⟩, h⟩
      cases h
      exact ⟨_, ⟨top, htop, rfl⟩, rfl⟩
    · rintro ⟨_, ⟨top, htop, h⟩, rfl⟩
      cases h
      exact ⟨_, ⟨top, htop, rfl⟩, rfl⟩

end Transmittance

end Airlight
