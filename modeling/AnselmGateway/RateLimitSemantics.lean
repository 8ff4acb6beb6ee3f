import Mathlib.Algebra.Order.Field.Rat
import Mathlib.Tactic.NormNum
import Mathlib.Tactic.Linarith
import AnselmGateway.Foundation.TokenBucket
import AnselmGateway.RateLimit

/-! What one call does to the minute buckets. Either call enters one bucket in front of the
recency list, and while every key has room the other buckets stay as they are. -/
namespace AnselmGateway.RateLimitSemantics
open Foundation RateLimit
variable {κ : Type} {e : Entry κ} {now : ℤ} {key : κ}

/-! ## One bucket -/

theorem effLimit_pos {perMin : ℤ} (enabled : 0 < perMin) : 0 < e.effLimit perMin now := by
  rw [Entry.effLimit]
  split
  · rename_i active
    exact active.1
  · exact enabled

/-- An override only tightens. -/
theorem effLimit_le {perMin : ℤ} : e.effLimit perMin now ≤ perMin := by
  rw [Entry.effLimit]
  split
  · rename_i active
    exact active.2.2.le
  · exact le_refl _

theorem seconds_nonneg {duration : ℤ} (nonneg : 0 ≤ duration) : 0 ≤ seconds duration :=
  div_nonneg (Int.cast_nonneg nonneg) (by norm_num)

theorem seconds_add (first second : ℤ) : seconds (first + second) = seconds first + seconds second := by
  rw [seconds, seconds, seconds, Int.cast_add, add_div]

/-- The refill is that of a token bucket. Durations saturate only long after a bucket is
full. -/
theorem refill_tokens {perMin : ℤ} (enabled : 0 < perMin) (nonneg : 0 ≤ e.tokens) (clock : e.last ≤ now) :
    (e.refill perMin now).tokens = TokenBucket.refill (e.effLimit perMin now : ℚ)
      ((e.effLimit perMin now : ℚ) / 60) (seconds (now - e.last)) e.tokens := by
  have positive : (0 : ℚ) < e.effLimit perMin now := Int.cast_pos.mpr (effLimit_pos enabled)
  have clamped : (e.refill perMin now).tokens = TokenBucket.refill (e.effLimit perMin now : ℚ)
      ((e.effLimit perMin now : ℚ) / 60) (seconds (sub now e.last)) e.tokens := by
    simp only [Entry.refill, TokenBucket.refill]
    split
    · rename_i past
      exact (min_eq_left past.le).symm
    · rename_i short
      exact (min_eq_right (not_lt.mp short)).symm
  rw [clamped]
  by_cases small : now - e.last ≤ maxInt64
  · have exact_ : sub now e.last = now - e.last := by
      simp only [sub, maxInt64] at *
      omega
    rw [exact_]
  · have saturated : sub now e.last = maxInt64 := by
      simp only [sub, maxInt64] at *
      omega
    -- Either length of time is over a minute.
    have full {duration : ℤ} (long : maxInt64 ≤ duration) :
        TokenBucket.refill (e.effLimit perMin now : ℚ) ((e.effLimit perMin now : ℚ) / 60)
          (seconds duration) e.tokens = e.effLimit perMin now := by
      refine TokenBucket.refill_full nonneg ?_
      have minute : (60 : ℚ) ≤ seconds duration := by
        have cast : (maxInt64 : ℚ) ≤ duration := Int.cast_le.mpr long
        rw [seconds, le_div_iff₀ (by norm_num)]
        refine le_trans ?_ cast
        norm_num [maxInt64]
      have more := mul_le_mul_of_nonneg_right minute (div_nonneg positive.le (by norm_num : (0 : ℚ) ≤ 60))
      rwa [mul_div_cancel₀ _ (by norm_num : (60 : ℚ) ≠ 0)] at more
    rw [saturated, full (le_refl _), full (not_le.mp small).le]

variable [DecidableEq κ] {rl : RateLimiter κ}

/-- The bucket of a key. -/
def bucket (rl : RateLimiter κ) (key : κ) : Option (Entry κ) := Recency.lookup Entry.key rl.ll key

/-! ## Entering a bucket -/

/-- One bucket was entered in front, and the list and its map still fit. -/
structure Entered (rl : RateLimiter κ) (e : Entry κ) (rl' : RateLimiter κ) : Prop where
  settings : rl'.max = rl.max ∧ rl'.perMin = rl.perMin
  agree : Recency.Agree Entry.key rl'.ll rl'.buckets
  fits : rl'.ll.length ≤ rl'.max
  held : e ∈ rl'.ll
  members : ∀ other ∈ rl'.ll, other ∈ rl.ll ∨ other = e
  found : (e.key ∈ rl.buckets ∨ rl.ll.length < rl.max) →
    ∀ k, bucket rl' k = if e.key = k then some e else bucket rl k

theorem entered_moveToFront (agree : Recency.Agree Entry.key rl.ll rl.buckets)
    (fits : rl.ll.length ≤ rl.max) (known : e.key ∈ rl.buckets) : Entered rl e (rl.moveToFront e) := by
  have moved : Recency.Agree Entry.key (rl.moveToFront e).ll rl.buckets := agree.toFront known rfl
  refine ⟨⟨rfl, rfl⟩, moved, ?_, ?_, fun _ => Recency.mem_toFront, fun _ _ => Recency.lookup_toFront⟩
  · rw [← moved.length_keys, agree.length_keys]
    exact fits
  · exact List.mem_append_right _ (List.mem_singleton_self e)

theorem entered_pushFront (agree : Recency.Agree Entry.key rl.ll rl.buckets) (roomy : 0 < rl.max)
    (fresh : e.key ∉ rl.buckets) : Entered rl e (rl.pushFront e) := by
  obtain ⟨trimmed, left⟩ := (agree.push fresh rfl).trim rl.max
  rw [List.length_append, List.length_singleton] at trimmed
  have ll : (rl.pushFront e).ll = rl.ll.drop (rl.ll.length + 1 - rl.max) ++ [e] := by
    refine trimmed.trans ?_
    rw [List.drop_append_of_le_length (by omega)]
  refine ⟨⟨rfl, rfl⟩, left, ?_, ?_, ?_, ?_⟩
  · change (rl.pushFront e).ll.length ≤ rl.max
    rw [ll, List.length_append, List.length_drop, List.length_singleton]
    omega
  · rw [ll]
    exact List.mem_append_right _ (List.mem_singleton_self e)
  · intro other member
    rw [ll] at member
    rcases List.mem_append.mp member with kept | last
    · exact .inl (List.mem_of_mem_drop kept)
    · exact .inr (List.mem_singleton.mp last)
  · intro room k
    have below : rl.ll.length < rl.max := room.resolve_left fresh
    rw [bucket, ll, show rl.ll.length + 1 - rl.max = 0 by omega, List.drop_zero]
    refine Recency.lookup_push ?_
    intro other stored same
    exact fresh (agree.mem_keys.mpr ⟨other, stored, same⟩)

/-- What is written to an entered bucket is as if it had been entered so. -/
theorem Entered.write {rl' : RateLimiter κ} (entered : Entered rl e rl') {e' : Entry κ}
    (named : e'.key = e.key) : Entered rl e' (rl'.write e') := by
  refine ⟨entered.settings, entered.agree.replace, ?_, ?_, ?_, ?_⟩
  · change (Recency.replace Entry.key rl'.ll e').length ≤ rl'.max
    rw [Recency.replace, List.length_map]
    exact entered.fits
  · refine List.mem_map.mpr ⟨e, entered.held, ?_⟩
    rw [if_pos named.symm]
  · intro other member
    obtain ⟨old, stored, rfl⟩ := List.mem_map.mp member
    split
    · exact .inr rfl
    · rename_i differs
      rcases entered.members old stored with before | rfl
      · exact .inl before
      · exact absurd named.symm differs
  · intro room k
    have written : bucket (rl'.write e') k = if e'.key = k then some e' else bucket rl' k :=
      Recency.lookup_replace ⟨e, entered.held, named.symm⟩
    rw [written, entered.found (named ▸ room), named]
    split <;> rfl

/-- A touched key finds its bucket, or a full one. -/
theorem touchLocked_entered (agree : Recency.Agree Entry.key rl.ll rl.buckets)
    (fits : rl.ll.length ≤ rl.max) (roomy : 0 < rl.max) (key : κ) (now : ℤ) :
    (rl.touchLocked key now).1 =
        (bucket rl key).getD ⟨key, rl.perMin, now, 0, Install.zeroTime⟩ ∧
      (rl.touchLocked key now).1.key = key ∧
      Entered rl (rl.touchLocked key now).1 (rl.touchLocked key now).2 := by
  cases found : bucket rl key with
  | some e =>
    obtain ⟨held, rfl⟩ := (Recency.lookup_some_iff agree.unique).mp found
    have known : e.key ∈ rl.buckets := agree.mem_keys.mpr ⟨e, held, rfl⟩
    have touched : rl.touchLocked e.key now = (e, rl.moveToFront e) := by
      rw [bucket] at found
      simp only [RateLimiter.touchLocked, if_pos known, found]
    rw [touched]
    exact ⟨rfl, rfl, entered_moveToFront agree fits known⟩
  | none =>
    have fresh : key ∉ rl.buckets := by
      intro known
      obtain ⟨held, stored, same⟩ := agree.mem_keys.mp known
      exact Recency.lookup_none_iff.mp found held stored same
    rw [RateLimiter.touchLocked, if_neg fresh]
    exact ⟨rfl, rfl, entered_pushFront agree roomy fresh⟩

/-! ## The two calls -/

/-- One request refills its bucket and spends from it. -/
theorem allow_entered (agree : Recency.Agree Entry.key rl.ll rl.buckets) (fits : rl.ll.length ≤ rl.max)
    (roomy : 0 < rl.max) (enabled : 0 < rl.perMin) (now : ℤ) (key : κ) :
    ∃ e, e = ((bucket rl key).getD ⟨key, rl.perMin, now, 0, Install.zeroTime⟩).refill rl.perMin now ∧
      e.key = key ∧ (rl.allow now key).1 = (TokenBucket.spend e.tokens).1 ∧
      Entered rl { e with tokens := (TokenBucket.spend e.tokens).2 } (rl.allow now key).2 := by
  obtain ⟨found, named, entered⟩ := touchLocked_entered agree fits roomy key now
  refine ⟨_, rfl, ?_⟩
  rw [← found]
  have settings := entered.settings.2
  simp only [RateLimiter.allow, if_neg (not_le.mpr enabled), TokenBucket.spend, settings]
  refine ⟨named, ?_, ?_⟩
  · split <;> rfl
  · split
    · exact entered.write rfl
    · exact entered.write rfl

/-- An override moves its bucket to the front, or enters one that is not full. -/
theorem setKeyLimit_entered (agree : Recency.Agree Entry.key rl.ll rl.buckets)
    (fits : rl.ll.length ≤ rl.max) (roomy : 0 < rl.max) (enabled : 0 < rl.perMin) (now : ℤ) (key : κ)
    {limit : ℤ} (limitNonneg : 0 ≤ limit) (till : ℤ) :
    ∃ e, e.key = key ∧ Entered rl e (rl.setKeyLimit now key limit till) ∧
      (∀ old, bucket rl key = some old →
        e.last = old.last ∧ e.tokens ≤ old.tokens ∧ (0 ≤ old.tokens → 0 ≤ e.tokens)) ∧
      (bucket rl key = none → e.last = now ∧ e.tokens ≤ rl.perMin ∧ 0 ≤ e.tokens) := by
  have limits : (0 : ℚ) ≤ limit := Int.cast_nonneg limitNonneg
  rw [RateLimiter.setKeyLimit, if_neg (not_le.mpr enabled)]
  cases found : bucket rl key with
  | some old =>
    obtain ⟨held, rfl⟩ := (Recency.lookup_some_iff agree.unique).mp found
    have known : old.key ∈ rl.buckets := agree.mem_keys.mpr ⟨old, held, rfl⟩
    rw [bucket] at found
    rw [if_pos known, found]
    dsimp only
    refine ⟨_, ?_, entered_moveToFront agree fits ?_, ?_, ?_⟩
    · rfl
    · exact known
    · rintro _ ⟨⟩
      refine ⟨rfl, ?_, ?_⟩
      · dsimp only
        split
        · rename_i past
          exact past.2.2.le
        · exact le_refl _
      · intro nonneg
        dsimp only
        split
        · exact limits
        · exact nonneg
    · intro absent
      cases absent
  | none =>
    have fresh : key ∉ rl.buckets := by
      intro known
      obtain ⟨held, stored, same⟩ := agree.mem_keys.mp known
      exact Recency.lookup_none_iff.mp found held stored same
    rw [if_neg fresh]
    dsimp only
    refine ⟨_, ?_, entered_pushFront agree roomy ?_, ?_, ?_⟩
    · rfl
    · exact fresh
    · intro old present
      cases present
    · intro _
      refine ⟨rfl, ?_, ?_⟩
      · dsimp only
        split
        · exact le_refl _
        · rename_i within
          exact Int.cast_le.mpr (not_lt.mp within)
      · dsimp only
        split
        · exact Int.cast_nonneg enabled.le
        · exact limits

end AnselmGateway.RateLimitSemantics
