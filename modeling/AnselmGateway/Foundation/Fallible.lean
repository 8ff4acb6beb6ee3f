import Mathlib.Logic.Basic

/-! Computations that may fail: one goes through exactly when each of its steps does. -/
namespace AnselmGateway.Foundation.Fallible
variable {ε α β : Type}

theorem bind_ok {first : Except ε α} {next : α → Except ε β} {result : β} :
    (first >>= next) = .ok result ↔ ∃ middle, first = .ok middle ∧ next middle = .ok result := by
  cases first with
  | error failure => exact ⟨nofun, fun ⟨_, refused, _⟩ => nomatch refused⟩
  | ok middle =>
    exact ⟨fun ran => ⟨middle, rfl, ran⟩, fun ⟨_, same, ran⟩ => by cases same; exact ran⟩

theorem map_ok {taken : Except ε α} {f : α → β} {result : β} :
    taken.map f = .ok result ↔ ∃ a, taken = .ok a ∧ f a = result := by
  cases taken with
  | error failure => exact ⟨nofun, nofun⟩
  | ok a => exact ⟨fun same => ⟨a, rfl, Except.ok.inj same⟩, fun ⟨_, same, stored⟩ => by cases same; rw [← stored]; rfl⟩

theorem ok_iff_toOption {outcome : Except ε α} {a : α} : outcome = .ok a ↔ outcome.toOption = some a := by
  cases outcome <;> simp [Except.toOption]

end AnselmGateway.Foundation.Fallible
