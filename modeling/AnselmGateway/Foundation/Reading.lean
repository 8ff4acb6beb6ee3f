import Mathlib.Data.List.Basic

/-! Reading many settings by name in one go: every reading gives a value, and what was wrong
with the settings is kept beside it, in order. A reading passes if nothing was. -/
namespace AnselmGateway.Foundation
variable {κ ρ ε α β : Type}

/-- A value and the failures on the way to it, over settings by name. -/
def Reading (κ ρ ε α : Type) := (κ → ρ) → α × List ε

namespace Reading

instance : Monad (Reading κ ρ ε) where
  pure a := fun _ => (a, [])
  bind m f := fun settings =>
    ((f (m settings).1 settings).1, (m settings).2 ++ (f (m settings).1 settings).2)

/-- A failure noted, and nothing else. -/
def report (failures : List ε) : Reading κ ρ ε Unit := fun _ => ((), failures)

def value (m : Reading κ ρ ε α) (settings : κ → ρ) : α := (m settings).1

def failures (m : Reading κ ρ ε α) (settings : κ → ρ) : List ε := (m settings).2

def Passes (m : Reading κ ρ ε α) (settings : κ → ρ) : Prop := m.failures settings = []

variable (settings : κ → ρ)

@[simp] theorem value_pure (a : α) : value (pure a : Reading κ ρ ε α) settings = a := (rfl)

@[simp] theorem value_bind (m : Reading κ ρ ε α) (f : α → Reading κ ρ ε β) :
    value (m >>= f) settings = value (f (value m settings)) settings := (rfl)

@[simp] theorem passes_pure (a : α) : Passes (pure a : Reading κ ρ ε α) settings := rfl

@[simp] theorem passes_bind (m : Reading κ ρ ε α) (f : α → Reading κ ρ ε β) :
    Passes (m >>= f) settings ↔ Passes m settings ∧ Passes (f (value m settings)) settings :=
  List.append_eq_nil_iff

@[simp] theorem passes_report (failures : List ε) :
    Passes (report failures : Reading κ ρ ε Unit) settings ↔ failures = [] := Iff.rfl

/-- Settings that the parts of a reading do not tell apart are not told apart by the whole. -/
theorem bind_same {settings settings' : κ → ρ} {m : Reading κ ρ ε α} {f : α → Reading κ ρ ε β}
    (first : m settings' = m settings) (next : ∀ a, f a settings' = f a settings) :
    (m >>= f) settings' = (m >>= f) settings := by
  change ((f (m settings').1 settings').1, _) = ((f (m settings).1 settings).1, _)
  rw [first, next]

end Reading
end AnselmGateway.Foundation
