import Mathlib.Algebra.BigOperators.Group.List.Basic

/-! A fallible fold that meters: each item has a cost, the costs add up in a commutative
monoid, and a step goes through exactly when its item is sound and the total still fits. -/
namespace AnselmGateway.Foundation

/-- `step` meters: a state stands for a total, and a step from a total that fits adds the
cost of a sound item, if the sum fits too. -/
structure Meters [AddCommMonoid M] (stateOf : M → σ) (fits : M → Prop) (sound : α → Prop)
    (cost : α → M) (step : σ → α → Except ε σ) : Prop where
  step_iff : ∀ {total item after}, fits total → (step (stateOf total) item = .ok after ↔
    sound item ∧ fits (total + cost item) ∧ after = stateOf (total + cost item))
  /-- What is part of a fitting total fits. -/
  fits_left : ∀ {total more}, fits (total + more) → fits total

namespace Meters
variable [AddCommMonoid M] {stateOf : M → σ} {fits : M → Prop} {sound : α → Prop} {cost : α → M}
  {step : σ → α → Except ε σ} {total : M} {items items' : List α} {after : σ}

/-- A whole run goes through exactly when every item is sound and the sum of all fits. -/
theorem fold_iff (meters : Meters stateOf fits sound cost step) (room : fits total) :
    items.foldlM step (stateOf total) = .ok after ↔ (∀ item ∈ items, sound item) ∧
      fits (total + (items.map cost).sum) ∧ after = stateOf (total + (items.map cost).sum) := by
  induction items generalizing total with
  | nil =>
    simp only [List.foldlM_nil, List.map_nil, List.sum_nil, add_zero]
    constructor
    · intro done
      cases done
      exact ⟨by simp, room, rfl⟩
    · rintro ⟨_, _, rfl⟩
      rfl
  | cons item rest ih =>
    rw [List.foldlM_cons, List.map_cons, List.sum_cons, ← add_assoc, List.forall_mem_cons]
    constructor
    · intro ran
      cases first : step (stateOf total) item with
      | error failure =>
        rw [first] at ran
        cases ran
      | ok middle =>
        rw [first] at ran
        obtain ⟨here, fits', rfl⟩ := (meters.step_iff room).mp first
        obtain ⟨others, whole, same⟩ := (ih fits').mp ran
        exact ⟨⟨here, others⟩, whole, same⟩
    · rintro ⟨⟨here, others⟩, whole, same⟩
      have fits' : fits (total + cost item) := meters.fits_left whole
      have first := (meters.step_iff room).mpr ⟨here, fits', rfl⟩
      rw [first]
      exact (ih fits').mpr ⟨others, whole, same⟩

/-- A run of runs meters as well. -/
theorem nested (meters : Meters stateOf fits sound cost step) {proper : β → Prop} {itemsOf : β → List α}
    {outer : σ → β → Except ε σ}
    (runs : ∀ state group after, outer state group = .ok after ↔
      proper group ∧ (itemsOf group).foldlM step state = .ok after) :
    Meters stateOf fits (fun group => proper group ∧ ∀ item ∈ itemsOf group, sound item)
      (fun group => ((itemsOf group).map cost).sum) outer where
  step_iff := by
    intro total group after room
    rw [runs, meters.fold_iff room, and_assoc]
  fits_left := meters.fits_left

end Meters

end AnselmGateway.Foundation
