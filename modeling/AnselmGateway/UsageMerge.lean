import AnselmGateway.ChatSaga
import AnselmGateway.Foundation.JoinFold

/-! Snapshots of usage merge like a join. Each counter of a merged vector is the
greatest one reported, and evidence that a vector cannot be trusted is never
merged away. -/
namespace AnselmGateway.UsageMerge
open Foundation Billing ChatUsage ChatSaga

/-- The counters of a usage vector. -/
inductive Counter where
  | prompt
  | completion
  | total
  | cachedPrompt
  | reasoning
  deriving DecidableEq

/-- What a vector reports for a counter. -/
def count (u : Usage) : Counter → Int64
  | .prompt => u.promptTokens
  | .completion => u.completionTokens
  | .total => u.totalTokens
  | .cachedPrompt => u.cachedPromptTokens
  | .reasoning => u.reasoningTokens

/-- The merge of some snapshots, from the zero vector on. -/
def snapshot (snapshots : List Usage) : Usage := snapshots.foldl Usage.mergeSnapshot {}

theorem ext_count {u v : Usage} (present : u.present = v.present)
    (malformed : u.malformed = v.malformed) (counts : ∀ counter, count u counter = count v counter) :
    u = v := by
  cases u
  cases v
  simp only [Usage.mk.injEq]
  exact ⟨present, malformed, counts .prompt, counts .completion, counts .total,
    counts .cachedPrompt, counts .reasoning⟩

theorem usageHasNegative_iff (u : Usage) :
    usageHasNegative u = true ↔ ∃ counter, count u counter < 0 := by
  simp only [usageHasNegative, Bool.or_eq_true, decide_eq_true_eq]
  constructor
  · rintro ((((negative | negative) | negative) | negative) | negative)
    exacts [⟨.prompt, negative⟩, ⟨.completion, negative⟩, ⟨.total, negative⟩,
      ⟨.cachedPrompt, negative⟩, ⟨.reasoning, negative⟩]
  · rintro ⟨counter, negative⟩
    cases counter <;> simp only [count] at negative <;> simp [negative]

theorem toInt_nonNegative (v : Int64) : (nonNegative v).toInt = max 0 v.toInt := by
  unfold nonNegative
  split
  · rename_i negative
    rw [Int64.lt_iff_toInt_lt, zero_toInt] at negative
    rw [zero_toInt, max_eq_left negative.le]
  · rename_i nonneg
    rw [Int64.lt_iff_toInt_lt, zero_toInt] at nonneg
    rw [max_eq_right (not_lt.mp nonneg)]

/-! ## A merge joins -/

theorem count_joins (counter : Counter) :
    Joins Usage.mergeSnapshot (fun u => (count u counter).toInt)
      (fun v => max 0 (count v counter).toInt) := by
  intro u v
  have greater (a b : Int64) : (max a (nonNegative b)).toInt = max a.toInt (max 0 b.toInt) := by
    rw [toInt_max, toInt_nonNegative]
  cases counter <;> exact greater _ _

theorem present_joins : Joins Usage.mergeSnapshot Usage.present Usage.present :=
  fun _ _ => rfl

theorem malformed_joins :
    Joins Usage.mergeSnapshot Usage.malformed (fun v => v.malformed || usageHasNegative v) :=
  fun u v => Bool.or_assoc u.malformed v.malformed (usageHasNegative v)

/-- A flag of a fold is up exactly if something raised it. -/
theorem flag_iff {merge : Usage → Usage → Usage} {flag raised : Usage → Bool}
    (joins : Joins merge flag raised) (snapshots : List Usage) {start : Usage}
    (down : flag start = false) :
    flag (snapshots.foldl merge start) = true ↔ ∃ v ∈ snapshots, raised v = true := by
  obtain ⟨attained, bounded⟩ := joins.isGreatest snapshots start
  constructor
  · intro up
    rcases attained with kept | ⟨v, mem, value⟩
    · rw [up, down] at kept
      cases kept
    · exact ⟨v, mem, value.trans up⟩
  · rintro ⟨v, mem, up⟩
    have bound : raised v ≤ flag (snapshots.foldl merge start) := bounded (.inr ⟨v, mem, rfl⟩)
    rw [up] at bound
    exact Bool.eq_true_of_true_le bound

/-! ## Folds of snapshots -/

theorem snapshot_congr {snapshots other : List Usage} (same : ∀ v, v ∈ other ↔ v ∈ snapshots) :
    snapshot other = snapshot snapshots :=
  ext_count (present_joins.foldl_congr same {}) (malformed_joins.foldl_congr same {})
    fun counter => Int64.toInt_inj.mp ((count_joins counter).foldl_congr same {})

theorem snapshot_count (snapshots : List Usage) (counter : Counter) :
    IsGreatest (insert 0 {n | 0 ≤ n ∧ ∃ v ∈ snapshots, (count v counter).toInt = n})
      (count (snapshot snapshots) counter).toInt := by
  have start : (count {} counter).toInt = 0 := by cases counter <;> rfl
  obtain ⟨attained, bounded⟩ := (count_joins counter).isGreatest snapshots {}
  rw [start] at attained bounded
  constructor
  · rcases attained with zero | ⟨v, mem, value⟩
    · exact .inl zero
    · rcases max_choice 0 (count v counter).toInt with clamped | kept
      · exact .inl (value.symm.trans clamped)
      · refine .inr ⟨?_, v, mem, kept.symm.trans value⟩
        exact (le_max_left _ _).trans value.le
  · rintro n (rfl | ⟨nonneg, v, mem, rfl⟩)
    · exact bounded (Set.mem_insert _ _)
    · exact bounded (.inr ⟨v, mem, max_eq_right nonneg⟩)

theorem snapshot_malformed (snapshots : List Usage) :
    (snapshot snapshots).malformed = true ↔
      ∃ v ∈ snapshots, v.malformed = true ∨ ∃ counter, count v counter < 0 := by
  rw [snapshot, flag_iff malformed_joins snapshots rfl]
  simp only [Bool.or_eq_true, usageHasNegative_iff]

/-- Evidence against a vector outlives every further merge. -/
theorem foldl_malformed {u : Usage} (malformed : u.malformed = true) (further : List Usage) :
    (further.foldl Usage.mergeSnapshot u).malformed = true := by
  have kept : u.malformed ≤ (further.foldl Usage.mergeSnapshot u).malformed :=
    malformed_joins.le_foldl further u
  rw [malformed] at kept
  exact Bool.eq_true_of_true_le kept

/-- The usage of a stream is the merge of what its lines report. -/
theorem merged_eq_snapshot (lines : List Bytes) :
    merged {} lines = snapshot (lines.map parseUsageSnapshotLine) := by
  rw [merged, snapshot, List.foldl_map]

/-- So it does not matter in which order, or how often, a stream reports it. -/
theorem merged_congr {lines other : List Bytes} (same : ∀ line, line ∈ other ↔ line ∈ lines) :
    merged {} other = merged {} lines := by
  rw [merged_eq_snapshot, merged_eq_snapshot]
  apply snapshot_congr
  intro v
  simp only [List.mem_map, same]

theorem snapshots_join (snapshots : List Usage) :
    (∀ other : List Usage, (∀ v, v ∈ other ↔ v ∈ snapshots) → snapshot other = snapshot snapshots) ∧
    (∀ counter, IsGreatest (insert 0 {n | 0 ≤ n ∧ ∃ v ∈ snapshots, (count v counter).toInt = n})
      (count (snapshot snapshots) counter).toInt) ∧
    ((snapshot snapshots).present = true ↔ ∃ v ∈ snapshots, v.present = true) ∧
    ((snapshot snapshots).malformed = true ↔
      ∃ v ∈ snapshots, v.malformed = true ∨ ∃ counter, count v counter < 0) ∧
    ((snapshot snapshots).malformed = true → ∀ (plan : Plan) (further : List Usage),
      plan.cost (further.foldl Usage.mergeSnapshot (snapshot snapshots)) =
        if plan.inputClass = .standard then .ok none else .error .unknownRateCard) := by
  refine ⟨fun other => snapshot_congr, snapshot_count snapshots, flag_iff present_joins snapshots rfl,
    snapshot_malformed snapshots, fun malformed plan further => ?_⟩
  exact cost_distrusted plan (foldl_malformed malformed further)

end AnselmGateway.UsageMerge
