import Mathlib.Logic.Basic

/-! Fallible statement sequences over one store. A sequence that fails leaves
its earlier writes in view; only the transaction around it decides whether
those writes are kept. Nothing here depends on what the store holds. -/
namespace AnselmGateway.Foundation

/-- A statement sequence over the store `σ`: its outcome, and the store as the
sequence has left it, whether or not it succeeded. -/
def Tx (σ ε α : Type) : Type := σ → Except ε α × σ

namespace Tx
variable {σ ε α β : Type}

instance : Monad (Tx σ ε) where
  pure value := fun store => (.ok value, store)
  bind first next := fun store =>
    match first store with
    | (.ok value, middle) => next value middle
    | (.error failure, middle) => (.error failure, middle)

/-- Abort the sequence, keeping what it wrote so far in view. -/
def fail (failure : ε) : Tx σ ε α := fun store => (.error failure, store)

/-- A check that reads and writes nothing. -/
def ofExcept (outcome : Except ε α) : Tx σ ε α := fun store => (outcome, store)

/-- Replace one failure by another, as a caller that inspects an error does. -/
def mapFailure (change : ε → ε) (body : Tx σ ε α) : Tx σ ε α := fun store =>
  match body store with
  | (.ok value, middle) => (.ok value, middle)
  | (.error failure, middle) => (.error (change failure), middle)

/-- Commit on success, restore the store the sequence started from otherwise. -/
def transaction (body : Tx σ ε α) : Tx σ ε α := fun store =>
  match body store with
  | (.ok value, after) => (.ok value, after)
  | (.error failure, _) => (.error failure, store)

@[simp] theorem pure_apply (value : α) (store : σ) :
    (pure value : Tx σ ε α) store = (.ok value, store) := rfl

@[simp] theorem fail_apply (failure : ε) (store : σ) :
    (fail failure : Tx σ ε α) store = (.error failure, store) := rfl

/-- A sequence succeeds exactly when both of its halves do, the second from
where the first stopped. -/
theorem bind_ok {first : Tx σ ε α} {next : α → Tx σ ε β} {store after : σ} {result : β} :
    (first >>= next) store = (.ok result, after) ↔
      ∃ value middle, first store = (.ok value, middle) ∧ next value middle = (.ok result, after) := by
  change (match first store with
    | (.ok value, middle) => next value middle
    | (.error failure, middle) => (.error failure, middle)) = _ ↔ _
  rcases first store with ⟨failure | value, middle⟩
  · simp
  · constructor
    · exact fun ran => ⟨value, middle, rfl, ran⟩
    · rintro ⟨_, _, same, ran⟩
      cases same
      exact ran

/-- Running past a half that succeeded continues from where it stopped. -/
theorem bind_of_ok {first : Tx σ ε α} {next : α → Tx σ ε β} {store middle : σ} {value : α}
    (ran : first store = (.ok value, middle)) : (first >>= next) store = next value middle := by
  change (match first store with
    | (.ok value, middle) => next value middle
    | (.error failure, middle) => (.error failure, middle)) = _
  rw [ran]

/-- A sequence fails either in its first half or, after a successful first
half, in its second. -/
theorem bind_failure {first : Tx σ ε α} {next : α → Tx σ ε β} {store after : σ} {failure : ε} :
    (first >>= next) store = (.error failure, after) ↔
      first store = (.error failure, after) ∨
        ∃ value middle, first store = (.ok value, middle) ∧ next value middle = (.error failure, after) := by
  change (match first store with
    | (.ok value, middle) => next value middle
    | (.error failure, middle) => (.error failure, middle)) = _ ↔ _
  rcases first store with ⟨reason | value, middle⟩
  · simp
  · constructor
    · exact fun ran => .inr ⟨value, middle, rfl, ran⟩
    · rintro (impossible | ⟨_, _, same, ran⟩)
      · cases impossible
      · cases same
        exact ran

theorem ofExcept_ok {outcome : Except ε α} {store after : σ} {value : α} :
    (ofExcept outcome : Tx σ ε α) store = (.ok value, after) ↔ outcome = .ok value ∧ after = store := by
  simp only [ofExcept, Prod.mk.injEq, eq_comm (a := store)]

theorem mapFailure_ok {change : ε → ε} {body : Tx σ ε α} {store after : σ} {value : α} :
    mapFailure change body store = (.ok value, after) ↔ body store = (.ok value, after) := by
  unfold mapFailure
  rcases body store with ⟨failure | value, middle⟩ <;> simp

theorem transaction_ok {body : Tx σ ε α} {store after : σ} {value : α} :
    transaction body store = (.ok value, after) ↔ body store = (.ok value, after) := by
  unfold transaction
  rcases body store with ⟨failure | value, middle⟩ <;> simp

/-- A transaction that reports a failure has written nothing, however far its
body got. -/
theorem transaction_failure {body : Tx σ ε α} {store after : σ} {failure : ε}
    (failed : transaction body store = (.error failure, after)) : after = store := by
  unfold transaction at failed
  rcases ran : body store with ⟨reason | value, middle⟩ <;> simp_all

/-- A sequence leaves one view of the store as it finds it, even if it fails. -/
def Keeps {τ : Type} (view : σ → τ) (body : Tx σ ε α) : Prop :=
  ∀ store, view (body store).2 = view store

section Keeps
variable {τ : Type} {view : σ → τ}

theorem keeps_pure (value : α) : Keeps view (pure value : Tx σ ε α) := fun _ => rfl

theorem keeps_fail (failure : ε) : Keeps view (fail failure : Tx σ ε α) := fun _ => rfl

theorem Keeps.bind {first : Tx σ ε α} {next : α → Tx σ ε β} (kept : Keeps view first)
    (keeps : ∀ value, Keeps view (next value)) : Keeps view (first >>= next) := by
  intro store
  change view (match first store with
    | (.ok value, middle) => next value middle
    | (.error failure, middle) => (.error failure, middle)).2 = _
  have before := kept store
  rcases ran : first store with ⟨failure | value, middle⟩
  · rw [ran] at before
    exact before
  · rw [ran] at before
    exact (keeps value middle).trans before

end Keeps

end Tx

/-- One part of a larger store, with the laws that make reading and writing it
independent of everything else. -/
structure Part (σ τ : Type) where
  get : σ → τ
  set : τ → σ → σ
  get_set : ∀ value store, get (set value store) = value

end AnselmGateway.Foundation
