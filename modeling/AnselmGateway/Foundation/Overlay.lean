import Mathlib.Data.List.Nodup

/-! Writes by key over a state, each of which may be refused. Where writes at different
keys go past one another, a later write at a key hides the earlier one and no write
decides about another, a replay depends only on the last value at each key. -/
namespace AnselmGateway.Foundation
variable {κ ρ σ ε : Type}

/-- All writes in order, up to the first that is refused. -/
def replayLog (write : κ → ρ → σ → Except ε σ) : List (κ × ρ) → σ → Except ε σ
  | [], state => .ok state
  | (key, value) :: rest, state =>
    match write key value state with
    | .error failure => .error failure
    | .ok next => replayLog write rest next

structure Keyed (write : κ → ρ → σ → Except ε σ) : Prop where
  /-- An accepted write leaves every other write accepted or refused as it was. -/
  steady : ∀ {key other value value' state next}, write key value state = .ok next →
    ((∃ after, write other value' next = .ok after) ↔ ∃ after, write other value' state = .ok after)
  past : ∀ {key other value value' state left right}, key ≠ other → write key value state = .ok left →
    write other value' state = .ok right → write other value' left = write key value right
  hides : ∀ {key value value' state next}, write key value state = .ok next →
    write key value' next = write key value' state

section Replay
variable {write : κ → ρ → σ → Except ε σ} {state last final : σ} {writes batch : List (κ × ρ)}

theorem replayLog_cons {key : κ} {value : ρ} : replayLog write ((key, value) :: writes) state = .ok final ↔
    ∃ next, write key value state = .ok next ∧ replayLog write writes next = .ok final := by
  rw [replayLog]
  cases write key value state <;> simp

theorem replayLog_append : replayLog write (writes ++ batch) state = .ok final ↔
    ∃ middle, replayLog write writes state = .ok middle ∧ replayLog write batch middle = .ok final := by
  induction writes generalizing state with
  | nil => simp [replayLog]
  | cons entry rest ih =>
    obtain ⟨key, value⟩ := entry
    simp only [List.cons_append, replayLog_cons, ih]
    constructor
    · rintro ⟨next, wrote, middle, before, behind⟩
      exact ⟨middle, ⟨next, wrote, before⟩, behind⟩
    · rintro ⟨middle, ⟨next, wrote, before⟩, behind⟩
      exact ⟨next, wrote, middle, before, behind⟩

/-- Two accepted writes at different keys are accepted the other way round too. -/
theorem Keyed.swap (keyed : Keyed write) {key other : κ} {value value' : ρ} {middle : σ}
    (apart : key ≠ other) (first : write key value state = .ok middle)
    (second : write other value' middle = .ok last) :
    ∃ between, write other value' state = .ok between ∧ write key value between = .ok last := by
  obtain ⟨between, early⟩ := (keyed.steady first).mp ⟨last, second⟩
  exact ⟨between, early, (keyed.past apart first early).symm.trans second⟩

/-- The order of writes at different keys does not matter. -/
theorem Keyed.replayLog_perm (keyed : Keyed write) {other : List (κ × ρ)} (perm : writes.Perm other)
    (apart : (writes.map Prod.fst).Nodup) (ran : replayLog write writes state = .ok final) :
    replayLog write other state = .ok final := by
  induction perm generalizing state with
  | nil => exact ran
  | cons entry _ ih =>
    obtain ⟨next, wrote, rest⟩ := replayLog_cons.mp ran
    exact replayLog_cons.mpr ⟨next, wrote, ih (List.nodup_cons.mp apart).2 rest⟩
  | swap first second rest =>
    obtain ⟨middle, wrote, more⟩ := replayLog_cons.mp ran
    obtain ⟨next, wrote', onward⟩ := replayLog_cons.mp more
    have differ : second.1 ≠ first.1 := by
      intro same
      simp [same] at apart
    obtain ⟨between, early, late⟩ := keyed.swap differ wrote wrote'
    exact replayLog_cons.mpr ⟨between, early, replayLog_cons.mpr ⟨next, late, onward⟩⟩
  | trans perm _ first second => exact second ((perm.map Prod.fst).nodup_iff.mp apart) (first apart ran)

/-- A write at a key that is written again later leaves nothing behind. -/
theorem Keyed.hidden (keyed : Keyed write) {key : κ} {value : ρ} {next : σ}
    (wrote : write key value state = .ok next) (again : key ∈ writes.map Prod.fst)
    (ran : replayLog write writes next = .ok final) : replayLog write writes state = .ok final := by
  induction writes generalizing state next with
  | nil => cases again
  | cons entry rest ih =>
    obtain ⟨other, value'⟩ := entry
    obtain ⟨after, wrote', onward⟩ := replayLog_cons.mp ran
    by_cases same : other = key
    · subst same
      exact replayLog_cons.mpr ⟨after, (keyed.hides wrote).symm.trans wrote', onward⟩
    · obtain ⟨between, early, late⟩ := keyed.swap (Ne.symm same) wrote wrote'
      have later : key ∈ rest.map Prod.fst := by
        rcases List.mem_cons.mp again with now | later
        · exact absurd now.symm same
        · exact later
      exact replayLog_cons.mpr ⟨between, early, ih late later onward⟩

/-- What a batch does not write, and behind it the batch. -/
def overwrite [DecidableEq κ] (writes batch : List (κ × ρ)) : List (κ × ρ) :=
  writes.filter (fun entry => entry.1 ∉ batch.map Prod.fst) ++ batch

theorem mem_overwrite [DecidableEq κ] {entry : κ × ρ} : entry ∈ overwrite writes batch ↔
    entry ∈ batch ∨ entry ∈ writes ∧ entry.1 ∉ batch.map Prod.fst := by
  rw [overwrite, List.mem_append, List.mem_filter, decide_eq_true_iff]
  exact or_comm

theorem nodup_overwrite [DecidableEq κ] (unique : writes.Nodup) (unique' : batch.Nodup) :
    (overwrite writes batch).Nodup := by
  refine List.nodup_append.mpr ⟨unique.filter _, unique', fun entry kept other fresh same => ?_⟩
  rw [List.mem_filter, decide_eq_true_iff] at kept
  exact kept.2 (List.mem_map.mpr ⟨other, fresh, congrArg Prod.fst same.symm⟩)

/-- A batch on top of a replay is one replay of the last values. -/
theorem Keyed.replayLog_overwrite [DecidableEq κ] (keyed : Keyed write)
    (ran : replayLog write writes state = .ok last) (batched : replayLog write batch last = .ok final) :
    replayLog write (overwrite writes batch) state = .ok final := by
  have whole : replayLog write (writes ++ batch) state = .ok final := replayLog_append.mpr ⟨last, ran, batched⟩
  clear ran batched
  induction writes generalizing state with
  | nil => exact whole
  | cons entry rest ih =>
    obtain ⟨next, wrote, onward⟩ := replayLog_cons.mp whole
    unfold overwrite at ih ⊢
    by_cases again : entry.1 ∈ batch.map Prod.fst
    · rw [List.filter_cons_of_neg (by simpa using again)]
      refine keyed.hidden wrote ?_ (ih onward)
      rw [List.map_append]
      exact List.mem_append_right _ again
    · rw [List.filter_cons_of_pos (by simpa using again)]
      exact replayLog_cons.mpr ⟨next, wrote, ih onward⟩

end Replay
end AnselmGateway.Foundation
