import Mathlib.Algebra.Order.Group.Int
import Mathlib.Data.List.Count

/-! Counters kept by window, and pruned. A key names a subject in a window; the
store drops a key once its window is over, and windows never run backwards. So
what is stored of a key counts everything that was ever charged to it. -/
namespace AnselmGateway.Foundation
variable {κ ω : Type} [DecidableEq κ] [LT ω]

/-- How often a key was charged. -/
def charges (log : List (κ × ℤ)) (key : κ) : ℤ := (log.countP fun entry => entry.1 = key : ℕ)

/-- The cap a key was last charged under. -/
def lastCap (log : List (κ × ℤ)) (key : κ) : Option ℤ :=
  ((log.filter fun entry => entry.1 = key).getLast?).map Prod.snd

variable {log : List (κ × ℤ)} {key other : κ} {cap : ℤ}

theorem charges_own : charges (log ++ [(key, cap)]) key = charges log key + 1 := by
  simp [charges, List.countP_append]

theorem charges_other (apart : other ≠ key) :
    charges (log ++ [(key, cap)]) other = charges log other := by
  simp [charges, List.countP_append, apart.symm]

theorem charges_none (absent : ∀ entry ∈ log, entry.1 ≠ key) : charges log key = 0 := by
  simpa [charges, List.countP_eq_zero] using absent

theorem lastCap_own : lastCap (log ++ [(key, cap)]) key = some cap := by
  simp [lastCap, List.filter_append]

theorem lastCap_other (apart : other ≠ key) :
    lastCap (log ++ [(key, cap)]) other = lastCap log other := by
  simp [lastCap, List.filter_append, apart.symm]

/-- One charge: the key's count goes up by one and stays under the cap; other
keys keep their counts, or are pruned when their window is over. -/
structure Charged (window : κ → ω) (before after : κ → Option ℤ) (key : κ) (cap : ℤ) : Prop where
  own : after key = some ((before key).getD 0 + 1)
  capped : (before key).getD 0 + 1 ≤ cap
  others : ∀ other, other ≠ key →
    after other = before other ∨ (after other = none ∧ window other < window key)

/-- What is stored is the tally of the log, and what is not stored any more lies
in a window before one that was charged later. -/
structure Tallied (window : κ → ω) (stored : κ → Option ℤ) (log : List (κ × ℤ)) : Prop where
  exact : ∀ key count, stored key = some count →
    count = charges log key ∧ ∃ cap, lastCap log key = some cap ∧ count ≤ cap
  gone : ∀ entry ∈ log, stored entry.1 = none → ∃ later ∈ log, window entry.1 < window later.1

variable {window : κ → ω} {stored after : κ → Option ℤ}

theorem tallied_nil (unused : ∀ key, stored key = none) : Tallied window stored [] where
  exact key count held := by
    rw [unused key] at held
    cases held
  gone entry member := absurd member List.not_mem_nil

/-- A key that is not stored was never charged, if no charge came from a window
after its own. -/
theorem Tallied.fresh (tallied : Tallied window stored log) (absent : stored key = none)
    (current : ∀ entry ∈ log, ¬window key < window entry.1) :
    ∀ entry ∈ log, entry.1 ≠ key := by
  rintro entry member rfl
  obtain ⟨later, held, before⟩ := tallied.gone entry member absent
  exact current later held before

/-- A charge from a window that is not before any charged one keeps the tally. -/
theorem Tallied.charge (tallied : Tallied window stored log)
    (charged : Charged window stored after key cap)
    (current : ∀ entry ∈ log, ¬window key < window entry.1) :
    Tallied window after (log ++ [(key, cap)]) where
  exact other count held := by
    by_cases same : other = key
    · subst same
      rw [charged.own] at held
      obtain rfl := Option.some.inj held
      refine ⟨?_, cap, lastCap_own, charged.capped⟩
      rw [charges_own]
      cases known : stored other with
      | none => rw [charges_none (tallied.fresh known current)]; rfl
      | some count => rw [(tallied.exact other count known).1]; rfl
    · rcases charged.others other same with kept | ⟨pruned, _⟩
      · rw [kept] at held
        rw [charges_other same, lastCap_other same]
        exact tallied.exact other count held
      · rw [pruned] at held
        cases held
  gone entry member absent := by
    have held (early : entry ∈ log) :
        ∃ later ∈ log ++ [(key, cap)], window entry.1 < window later.1 := by
      by_cases same : entry.1 = key
      · rw [same, charged.own] at absent
        cases absent
      · rcases charged.others entry.1 same with kept | ⟨_, before⟩
        · rw [kept] at absent
          obtain ⟨later, inside, after⟩ := tallied.gone entry early absent
          exact ⟨later, List.mem_append_left _ inside, after⟩
        · exact ⟨(key, cap), by simp, before⟩
    rcases List.mem_append.mp member with early | last
    · exact held early
    · obtain rfl := List.mem_singleton.mp last
      rw [charged.own] at absent
      cases absent

end AnselmGateway.Foundation
