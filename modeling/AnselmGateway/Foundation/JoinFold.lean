import Mathlib.Order.Bounds.Basic
import Mathlib.Order.MinMax

/-! Folds that only ever join. A merge need not be commutative, or even symmetric
in its arguments, for the order and the repetition of what is folded in not to
matter: it is enough that some reading of the accumulator takes the greater of
what it was and what the next value contributes. -/
namespace AnselmGateway.Foundation

variable {α β : Type*} [LinearOrder β]

/-- Read through `view`, merging a value in takes the greater of what was there
and what the value contributes. -/
def Joins (merge : α → α → α) (view contribution : α → β) : Prop :=
  ∀ u v, view (merge u v) = max (view u) (contribution v)

namespace Joins

variable {merge : α → α → α} {view contribution : α → β}

/-- What a fold comes to is the greatest contribution, or what it started from. -/
theorem isGreatest (joins : Joins merge view contribution) (values : List α) (u : α) :
    IsGreatest (insert (view u) {b | ∃ v ∈ values, contribution v = b})
      (view (values.foldl merge u)) := by
  induction values generalizing u with
  | nil => simp [isGreatest_singleton]
  | cons v values ih =>
    obtain ⟨attained, bounded⟩ := ih (merge u v)
    rw [List.foldl_cons]
    have start : view (merge u v) ≤ view (values.foldl merge (merge u v)) :=
      bounded (Set.mem_insert _ _)
    rw [joins u v] at start
    constructor
    · rcases attained with kept | ⟨w, mem, value⟩
      · rw [kept, joins u v]
        rcases max_choice (view u) (contribution v) with first | second
        · exact .inl first
        · exact .inr ⟨v, List.mem_cons_self, second.symm⟩
      · exact .inr ⟨w, List.mem_cons_of_mem _ mem, value⟩
    · rintro b (rfl | ⟨w, mem, rfl⟩)
      · exact (le_max_left _ _).trans start
      · rcases List.mem_cons.mp mem with rfl | mem
        · exact (le_max_right _ _).trans start
        · exact bounded (.inr ⟨w, mem, rfl⟩)

/-- Only what was folded in matters, not in which order or how often. -/
theorem foldl_congr (joins : Joins merge view contribution) {values others : List α}
    (same : ∀ v, v ∈ others ↔ v ∈ values) (u : α) :
    view (others.foldl merge u) = view (values.foldl merge u) := by
  have greatest := joins.isGreatest others u
  simp only [same] at greatest
  exact greatest.unique (joins.isGreatest values u)

/-- A fold never loses what it has. -/
theorem le_foldl (joins : Joins merge view contribution) (values : List α) (u : α) :
    view u ≤ view (values.foldl merge u) :=
  (joins.isGreatest values u).2 (Set.mem_insert _ _)

end Joins

end AnselmGateway.Foundation
