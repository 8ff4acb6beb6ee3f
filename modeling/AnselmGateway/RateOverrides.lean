import Mathlib.Data.List.Dedup
import AnselmGateway.RateLimitSemantics

/-! Overrides only tighten. A limiter with overrides is run beside one that sees only the
requests: what a key could spend and what it has spent are never more in the first than in
the second, so an override that comes and goes mints no tokens. -/
namespace AnselmGateway.RateOverrides
open Foundation RateLimit RateLimitSemantics
variable {κ : Type} {rl : RateLimiter κ} {names : List κ} {before now : ℤ} {key k : κ}

/-! ## What every call keeps -/

/-- The map and the list agree and fit, the keys are among the names, and every bucket is
within its bounds and not from the future. -/
structure Sound (names : List κ) (now : ℤ) (rl : RateLimiter κ) : Prop where
  agree : Recency.Agree Entry.key rl.ll rl.buckets
  fits : rl.ll.length ≤ rl.max
  roomy : 0 < rl.max
  enabled : 0 < rl.perMin
  named : ∀ e ∈ rl.ll, e.key ∈ names
  levels : ∀ e ∈ rl.ll, 0 ≤ e.tokens ∧ e.tokens ≤ rl.perMin
  clock : ∀ e ∈ rl.ll, e.last ≤ now

theorem Sound.later (sound : Sound names before rl) (later : before ≤ now) : Sound names now rl :=
  { sound with clock := fun e held => (sound.clock e held).trans later }

theorem sound_newWithMax {perMin max : ℤ} (enabled : 0 < perMin) (names : List κ) (now : ℤ) :
    Sound names now (newWithMax perMin max : RateLimiter κ) := by
  have roomy : 0 < (newWithMax perMin max : RateLimiter κ).max := by
    simp only [newWithMax]
    split
    · exact Nat.zero_lt_succ _
    · omega
  refine ⟨⟨List.nodup_nil, .refl _⟩, Nat.zero_le _, roomy, enabled, ?_, ?_, ?_⟩
  all_goals
    intro e held
    cases held

theorem Sound.rate_nonneg (sound : Sound names now rl) : (0 : ℚ) ≤ (rl.perMin : ℚ) / 60 :=
  div_nonneg (Int.cast_nonneg sound.enabled.le) (by norm_num)

variable [DecidableEq κ]

theorem Sound.entered {e : Entry κ} {rl' : RateLimiter κ} (sound : Sound names now rl)
    (entered : Entered rl e rl') (named : e.key ∈ names)
    (level : 0 ≤ e.tokens ∧ e.tokens ≤ rl.perMin) (clock : e.last ≤ now) : Sound names now rl' := by
  obtain ⟨max, perMin⟩ := entered.settings
  refine ⟨entered.agree, entered.fits, max ▸ sound.roomy, perMin ▸ sound.enabled, ?_, ?_, ?_⟩
  · intro other member
    rcases entered.members other member with held | rfl
    · exact sound.named other held
    · exact named
  · intro other member
    rw [perMin]
    rcases entered.members other member with held | rfl
    · exact sound.levels other held
    · exact level
  · intro other member
    rcases entered.members other member with held | rfl
    · exact sound.clock other held
    · exact clock

/-- The bucket a request finds, or the full one it makes. -/
def touched (rl : RateLimiter κ) (now : ℤ) (key : κ) : Entry κ :=
  (bucket rl key).getD ⟨key, rl.perMin, now, 0, Install.zeroTime⟩

theorem Sound.touched_bounds (sound : Sound names now rl) (key : κ) :
    0 ≤ (touched rl now key).tokens ∧ (touched rl now key).tokens ≤ rl.perMin ∧
      (touched rl now key).last ≤ now := by
  have perMin : (0 : ℚ) ≤ rl.perMin := Int.cast_nonneg sound.enabled.le
  rw [touched]
  cases found : bucket rl key with
  | none => exact ⟨perMin, le_refl _, le_refl _⟩
  | some e =>
    have held := ((Recency.lookup_some_iff sound.agree.unique).mp found).1
    exact ⟨(sound.levels e held).1, (sound.levels e held).2, sound.clock e held⟩

/-! ## What a key could spend -/

/-- What a request for the key would find with no override in force. -/
def credit (rl : RateLimiter κ) (now : ℤ) (key : κ) : ℚ :=
  TokenBucket.refill (rl.perMin : ℚ) ((rl.perMin : ℚ) / 60) (seconds (now - (touched rl now key).last))
    (touched rl now key).tokens

theorem Sound.credit_nonneg (sound : Sound names now rl) (key : κ) : 0 ≤ credit rl now key := by
  obtain ⟨nonneg, _, clock⟩ := sound.touched_bounds key
  exact TokenBucket.refill_nonneg (Int.cast_nonneg sound.enabled.le) sound.rate_nonneg
    (seconds_nonneg (sub_nonneg.mpr clock)) nonneg

/-- With time, the credit grows as a bucket without overrides does. -/
theorem Sound.credit_later (sound : Sound names before rl) (later : before ≤ now) (key : κ) :
    credit rl now key =
      TokenBucket.refill (rl.perMin : ℚ) ((rl.perMin : ℚ) / 60) (seconds (now - before)) (credit rl before key) := by
  rw [credit, credit, TokenBucket.refill_refill sound.rate_nonneg (seconds_nonneg (sub_nonneg.mpr later)),
    ← seconds_add, touched, touched]
  cases found : bucket rl key with
  | some e =>
    rw [Option.getD_some, Option.getD_some, show before - e.last + (now - before) = now - e.last by omega]
  | none =>
    -- A bucket not yet made is full at any time.
    have flow := mul_nonneg (seconds_nonneg (sub_nonneg.mpr later)) sound.rate_nonneg
    rw [Option.getD_none, Option.getD_none]
    dsimp only
    rw [sub_self, sub_self, zero_add, TokenBucket.refill, TokenBucket.refill,
      min_eq_left (le_add_of_nonneg_right flow)]
    simp [seconds]

/-- A refill under an override finds no more than the credit, and exactly that with no
override. -/
theorem Sound.refill_le_credit (sound : Sound names now rl) (key : κ) :
    ((touched rl now key).refill rl.perMin now).tokens ≤ credit rl now key ∧
      ((touched rl now key).ovrLimit = 0 →
        ((touched rl now key).refill rl.perMin now).tokens = credit rl now key) := by
  obtain ⟨nonneg, _, clock⟩ := sound.touched_bounds key
  rw [refill_tokens sound.enabled nonneg clock, credit]
  constructor
  · have tighter : (((touched rl now key).effLimit rl.perMin now : ℤ) : ℚ) ≤ rl.perMin :=
      Int.cast_le.mpr effLimit_le
    exact TokenBucket.refill_mono tighter (div_le_div_of_nonneg_right tighter (by norm_num)) (le_refl _)
      (seconds_nonneg (sub_nonneg.mpr clock))
  · intro plain
    have whole : (touched rl now key).effLimit rl.perMin now = rl.perMin := by
      simp [Entry.effLimit, plain]
    rw [whole]

theorem Sound.refill_bounds (sound : Sound names now rl) (key : κ) :
    0 ≤ ((touched rl now key).refill rl.perMin now).tokens ∧
      ((touched rl now key).refill rl.perMin now).tokens ≤ rl.perMin := by
  obtain ⟨nonneg, _, clock⟩ := sound.touched_bounds key
  have limit : (0 : ℚ) < (touched rl now key).effLimit rl.perMin now :=
    Int.cast_pos.mpr (effLimit_pos sound.enabled)
  refine ⟨?_, (sound.refill_le_credit key).1.trans TokenBucket.refill_le_cap⟩
  rw [refill_tokens sound.enabled nonneg clock]
  exact TokenBucket.refill_nonneg limit.le (div_nonneg limit.le (by norm_num))
    (seconds_nonneg (sub_nonneg.mpr clock)) nonneg

/-! ## One call -/

/-- Any call enters the bucket of its key, within bounds. -/
theorem Sound.answer_entered (sound : Sound names now rl) {call : Call κ} (reading : call.now = now)
    (nonneg : call.Nonneg) :
    ∃ e, Entered rl e (rl.answer call).2 ∧ e.key = call.key ∧ (0 ≤ e.tokens ∧ e.tokens ≤ rl.perMin) ∧
      e.last ≤ now := by
  subst reading
  cases call with
  | allow now key =>
    obtain ⟨_, rfl, named, _, entered⟩ := allow_entered sound.agree sound.fits sound.roomy sound.enabled now key
    obtain ⟨low, high⟩ := sound.refill_bounds key
    exact ⟨_, entered, named, ⟨TokenBucket.spend_nonneg low, TokenBucket.spend_le.trans high⟩, le_refl _⟩
  | setKeyLimit now key limit till =>
    obtain ⟨e, named, entered, old, fresh⟩ :=
      setKeyLimit_entered sound.agree sound.fits sound.roomy sound.enabled now key nonneg till
    refine ⟨e, entered, named, ?_⟩
    cases found : bucket rl key with
    | none =>
      obtain ⟨last, high, low⟩ := fresh found
      exact ⟨⟨low, high⟩, last.le⟩
    | some held =>
      have stored := ((Recency.lookup_some_iff sound.agree.unique).mp found).1
      obtain ⟨last, less, stays⟩ := old held found
      obtain ⟨low, high⟩ := sound.levels held stored
      exact ⟨⟨stays low, less.trans high⟩, last ▸ sound.clock held stored⟩

theorem Sound.answer (sound : Sound names before rl) {call : Call κ} (later : before ≤ call.now)
    (named : call.key ∈ names) (nonneg : call.Nonneg) : Sound names call.now (rl.answer call).2 := by
  obtain ⟨e, entered, key, level, clock⟩ := (sound.later later).answer_entered rfl nonneg
  exact (sound.later later).entered entered (key ▸ named) level clock

/-- Where the names fit, a named key has its bucket or room for one. -/
theorem Sound.room (sound : Sound names now rl) (fewer : names.length ≤ rl.max) (named : key ∈ names) :
    key ∈ rl.buckets ∨ rl.ll.length < rl.max := by
  by_cases known : key ∈ rl.buckets
  · exact .inl known
  · refine .inr (Recency.room_of_names sound.agree.unique sound.named fewer named ?_)
    intro held stored same
    exact known (sound.agree.mem_keys.mpr ⟨held, stored, same⟩)

/-- The credit of an entered bucket that was read just now is its level. -/
theorem credit_entered {e : Entry κ} {rl' : RateLimiter κ} (entered : Entered rl e rl')
    (room : e.key ∈ rl.buckets ∨ rl.ll.length < rl.max) (k : κ) :
    credit rl' now k = if e.key = k then TokenBucket.refill (rl.perMin : ℚ) ((rl.perMin : ℚ) / 60)
      (seconds (now - e.last)) e.tokens else credit rl now k := by
  rw [credit, credit, touched, touched, entered.found room, entered.settings.2]
  split <;> rfl

/-- A request spends from no more than the credit, and leaves the other keys theirs. -/
theorem Sound.allow_credit (sound : Sound names now rl) (room : key ∈ rl.buckets ∨ rl.ll.length < rl.max) :
    ∃ level, level ≤ credit rl now key ∧ ((touched rl now key).ovrLimit = 0 → level = credit rl now key) ∧
      (rl.allow now key).1 = (TokenBucket.spend level).1 ∧
      ∀ k, credit (rl.allow now key).2 now k =
        if key = k then (TokenBucket.spend level).2 else credit rl now k := by
  obtain ⟨e, refilled, rfl, verdict, entered⟩ :=
    allow_entered sound.agree sound.fits sound.roomy sound.enabled now key
  have bounds := sound.refill_bounds e.key
  have within := sound.refill_le_credit e.key
  rw [touched, ← refilled] at bounds within
  refine ⟨e.tokens, within.1, within.2, verdict, ?_⟩
  intro k
  have last : e.last = now := by
    rw [refilled]
    rfl
  rw [credit_entered entered room, last, sub_self]
  split
  · have spent : (TokenBucket.spend e.tokens).2 ≤ rl.perMin := TokenBucket.spend_le.trans bounds.2
    rw [show seconds 0 = 0 by simp [seconds], TokenBucket.refill_zero spent]
  · rfl

/-- A request admits its key, or none. -/
theorem count_allow (rl : RateLimiter κ) (now : ℤ) (key k : κ) :
    (rl.answer (.allow now key)).1.toList.count k = if key = k then (rl.allow now key).1.toNat else 0 := by
  simp only [RateLimiter.answer]
  cases (rl.allow now key).1 with
  | false => simp
  | true =>
    by_cases same : key = k
    · simp [same]
    · simp [same]

/-- What a request admits, it takes from the credit. -/
theorem Sound.allow_spent (sound : Sound names now rl) (room : key ∈ rl.buckets ∨ rl.ll.length < rl.max)
    (k : κ) : ((rl.answer (.allow now key)).1.toList.count k : ℚ) +
      credit (rl.answer (.allow now key)).2 now k ≤ credit rl now k := by
  obtain ⟨level, within, _, verdict, left⟩ := sound.allow_credit room
  have total := @TokenBucket.spend_total _ _ _ level
  have after_ : credit (rl.answer (.allow now key)).2 now k =
      if key = k then (TokenBucket.spend level).2 else credit rl now k := left k
  rw [count_allow, after_, verdict]
  split
  · rename_i same
    subst same
    linarith
  · rw [Nat.cast_zero, zero_add]

/-- An override adds to no key's credit. -/
theorem Sound.setKeyLimit_credit (sound : Sound names now rl)
    (room : key ∈ rl.buckets ∨ rl.ll.length < rl.max) {limit : ℤ} (nonneg : 0 ≤ limit) (till : ℤ) (k : κ) :
    credit (rl.setKeyLimit now key limit till) now k ≤ credit rl now k := by
  obtain ⟨e, rfl, entered, old, fresh⟩ :=
    setKeyLimit_entered sound.agree sound.fits sound.roomy sound.enabled now key nonneg till
  rw [credit_entered entered room]
  split
  · rename_i same
    subst same
    rw [credit, touched]
    cases found : bucket rl e.key with
    | none =>
      obtain ⟨last, high, _⟩ := fresh found
      rw [Option.getD_none, last]
      dsimp only
      rw [sub_self]
      exact TokenBucket.refill_mono (le_refl _) (le_refl _) high (seconds_nonneg (le_refl _))
    | some held =>
      have stored := ((Recency.lookup_some_iff sound.agree.unique).mp found).1
      obtain ⟨last, less, _⟩ := old held found
      rw [Option.getD_some, last]
      exact TokenBucket.refill_mono (le_refl _) (le_refl _) less
        (seconds_nonneg (sub_nonneg.mpr (sound.clock held stored)))
  · exact le_refl _

/-! ## Whole histories -/

/-- Clock readings that do not go back, from a first one on. -/
def Clocked (before : ℤ) (calls : List (Call κ)) : Prop := (before :: calls.map Call.now).Pairwise (· ≤ ·)

/-- Calls about named keys, none with a negative limit. -/
def Proper (names : List κ) (calls : List (Call κ)) : Prop :=
  ∀ call ∈ calls, call.key ∈ names ∧ call.Nonneg

omit [DecidableEq κ] in
theorem Clocked.cons {call : Call κ} {calls : List (Call κ)} (clocked : Clocked before (call :: calls)) :
    before ≤ call.now ∧ Clocked call.now calls :=
  ⟨(List.pairwise_cons.mp clocked).1 _ List.mem_cons_self, (List.pairwise_cons.mp clocked).2⟩

omit [DecidableEq κ] in
theorem Proper.cons {call : Call κ} {calls : List (Call κ)} (proper : Proper names (call :: calls)) :
    (call.key ∈ names ∧ call.Nonneg) ∧ Proper names calls :=
  ⟨proper call List.mem_cons_self, fun other member => proper other (List.mem_cons_of_mem _ member)⟩

theorem Sound.answer_settings (sound : Sound names before rl) {call : Call κ} (later : before ≤ call.now)
    (nonneg : call.Nonneg) :
    (rl.answer call).2.max = rl.max ∧ (rl.answer call).2.perMin = rl.perMin := by
  obtain ⟨e, entered, _⟩ := (sound.later later).answer_entered rfl nonneg
  exact entered.settings

/-- Every history keeps the limiter sound. -/
theorem Sound.after {calls : List (Call κ)} (sound : Sound names before rl) (clocked : Clocked before calls)
    (proper : Proper names calls) (reached : before ≤ now) (until_ : ∀ call ∈ calls, call.now ≤ now) :
    Sound names now (after rl calls) ∧ (after rl calls).max = rl.max ∧
      (after rl calls).perMin = rl.perMin := by
  induction calls generalizing rl before with
  | nil => exact ⟨sound.later reached, rfl, rfl⟩
  | cons call rest ih =>
    obtain ⟨later, clocked⟩ := clocked.cons
    obtain ⟨⟨named, nonneg⟩, proper⟩ := proper.cons
    obtain ⟨max, perMin⟩ := sound.answer_settings later nonneg
    obtain ⟨left, max', perMin'⟩ := ih (sound.answer later named nonneg) clocked proper
      (until_ call List.mem_cons_self) fun other member => until_ other (List.mem_cons_of_mem _ member)
    exact ⟨left, max'.trans max, perMin'.trans perMin⟩

/-- In any length of time a key is admitted no more often than its credit and what flows
into its bucket allow. -/
theorem Sound.admissions_le {calls : List (Call κ)} (sound : Sound names before rl)
    (fewer : names.length ≤ rl.max) (clocked : Clocked before calls) (proper : Proper names calls)
    {till : ℤ} (reached : before ≤ till) (until_ : ∀ call ∈ calls, call.now ≤ till) (key : κ) :
    ((admissions rl calls).count key : ℚ) ≤
      credit rl before key + seconds (till - before) * ((rl.perMin : ℚ) / 60) := by
  induction calls generalizing rl before with
  | nil =>
    have flow := mul_nonneg (seconds_nonneg (sub_nonneg.mpr reached)) sound.rate_nonneg
    exact add_nonneg (sound.credit_nonneg key) flow
  | cons call rest ih =>
    obtain ⟨later, clocked⟩ := clocked.cons
    obtain ⟨⟨named, nonneg⟩, proper⟩ := proper.cons
    obtain ⟨max, perMin⟩ := sound.answer_settings later nonneg
    have here := sound.later later
    have bound := ih (sound.answer later named nonneg) (max ▸ fewer) clocked proper
      (until_ call List.mem_cons_self) fun other member => until_ other (List.mem_cons_of_mem _ member)
    rw [perMin] at bound
    have spent : ((rl.answer call).1.toList.count key : ℚ) + credit (rl.answer call).2 call.now key ≤
        credit rl call.now key := by
      have room := here.room fewer named
      cases call with
      | allow now other => exact here.allow_spent room key
      | setKeyLimit now other limit till =>
        change ((0 : ℕ) : ℚ) + credit (rl.setKeyLimit now other limit till) now key ≤ credit rl now key
        rw [Nat.cast_zero, zero_add]
        exact here.setKeyLimit_credit room nonneg till key
    have grown : credit rl call.now key ≤
        credit rl before key + seconds (call.now - before) * ((rl.perMin : ℚ) / 60) := by
      rw [sound.credit_later later]
      exact TokenBucket.refill_le_flow
    have length : seconds (till - before) = seconds (call.now - before) + seconds (till - call.now) := by
      rw [← seconds_add]
      congr 1
      omega
    rw [admissions, accepted, List.count_append, Nat.cast_add, length, add_mul]
    rw [admissions] at bound
    linarith

/-! ## Two runs -/

/-- No bucket has an override. -/
def Plain (rl : RateLimiter κ) : Prop := ∀ e ∈ rl.ll, e.ovrLimit = 0

theorem Sound.plain_touched (sound : Sound names now rl) (plain : Plain rl) (key : κ) :
    (touched rl now key).ovrLimit = 0 := by
  rw [touched]
  cases found : bucket rl key with
  | none => rfl
  | some e => exact plain e ((Recency.lookup_some_iff sound.agree.unique).mp found).1

/-- Requests set no override. -/
theorem Sound.plain_allow (sound : Sound names now rl) (plain : Plain rl) (key : κ) :
    Plain (rl.allow now key).2 := by
  obtain ⟨e, refilled, _, _, entered⟩ :=
    allow_entered sound.agree sound.fits sound.roomy sound.enabled now key
  have here : e.ovrLimit = 0 := by
    rw [refilled]
    exact sound.plain_touched plain key
  intro other member
  rcases entered.members other member with held | rfl
  · exact plain other held
  · exact here

variable {slow fast : RateLimiter κ} {m n : ℕ}

/-- One request keeps the limiter with overrides behind the one without. -/
theorem trails_allow (sound : Sound names now slow) (sound' : Sound names now fast)
    (room : key ∈ slow.buckets ∨ slow.ll.length < slow.max)
    (room' : key ∈ fast.buckets ∨ fast.ll.length < fast.max) (plain : Plain fast)
    (trails : TokenBucket.Trails (credit slow now k) m (credit fast now k) n) :
    TokenBucket.Trails
      (credit (slow.answer (.allow now key)).2 now k)
      (m + (slow.answer (.allow now key)).1.toList.count k)
      (credit (fast.answer (.allow now key)).2 now k)
      (n + (fast.answer (.allow now key)).1.toList.count k) := by
  obtain ⟨level, within, _, verdict, left⟩ := sound.allow_credit room
  obtain ⟨level', _, exact_, verdict', left'⟩ := sound'.allow_credit room'
  have after_ : credit (slow.answer (.allow now key)).2 now k =
      if key = k then (TokenBucket.spend level).2 else credit slow now k := left k
  have after' : credit (fast.answer (.allow now key)).2 now k =
      if key = k then (TokenBucket.spend level').2 else credit fast now k := left' k
  rw [count_allow, count_allow, after_, after', verdict, verdict']
  by_cases same : key = k
  · subst same
    rw [if_pos rfl, if_pos rfl, if_pos rfl, if_pos rfl, exact_ (sound'.plain_touched plain key)]
    exact (trails.lower within).spend
  · rw [if_neg same, if_neg same, if_neg same, if_neg same]
    exact trails

/-- Whatever overrides are set, no key is admitted more often than without them. -/
theorem admissions_trail {calls : List (Call κ)} (sound : Sound names before slow)
    (sound' : Sound names before fast) (fewer : names.length ≤ slow.max) (fewer' : names.length ≤ fast.max)
    (perMin : slow.perMin = fast.perMin) (plain : Plain fast) (clocked : Clocked before calls)
    (proper : Proper names calls)
    (trails : TokenBucket.Trails (credit slow before k) m (credit fast before k) n) :
    m + (admissions slow calls).count k ≤ n + (admissions fast (calls.filter Call.isAllow)).count k := by
  induction calls generalizing slow fast before m n with
  | nil => exact trails.fewer
  | cons call rest ih =>
    obtain ⟨later, clocked⟩ := clocked.cons
    obtain ⟨⟨named, nonneg⟩, tail⟩ := proper.cons
    obtain ⟨max, perMin'⟩ := sound.answer_settings later nonneg
    have room := (sound.later later).room fewer named
    have next := sound.answer later named nonneg
    have trails : TokenBucket.Trails (credit slow call.now k) m (credit fast call.now k) n := by
      rw [sound.credit_later later, sound'.credit_later later, perMin]
      exact trails.refill
    rw [admissions, accepted, List.count_append, ← Nat.add_assoc]
    cases call with
    | allow now key =>
      obtain ⟨max', perMin''⟩ := sound'.answer_settings later nonneg
      have room' := (sound'.later later).room fewer' named
      rw [List.filter_cons_of_pos rfl, admissions, accepted, List.count_append, ← Nat.add_assoc]
      exact ih next (sound'.answer later named nonneg) (max ▸ fewer) (max' ▸ fewer')
        (perMin'.trans (perMin.trans perMin''.symm)) ((sound'.later later).plain_allow plain key) clocked tail
        (trails_allow (sound.later later) (sound'.later later) room room' plain trails)
    | setKeyLimit now key limit till =>
      rw [List.filter_cons_of_neg (by simp [Call.isAllow])]
      have less := (sound.later later).setKeyLimit_credit room nonneg till k
      exact ih next (sound'.later later) (max ▸ fewer) fewer' (perMin'.trans perMin) plain clocked tail
        (trails.lower less)

/-! ## The contract of the limiter -/

omit [DecidableEq κ] in
/-- The readings of a history lie between two of them. -/
theorem exists_readings (calls : List (Call κ)) :
    ∃ first last, first ≤ last ∧ ∀ call ∈ calls, first ≤ call.now ∧ call.now ≤ last := by
  induction calls with
  | nil => exact ⟨0, 0, le_refl _, fun call member => absurd member List.not_mem_nil⟩
  | cons call rest ih =>
    obtain ⟨first, last, ordered, between⟩ := ih
    refine ⟨min call.now first, max call.now last, ?_, ?_⟩
    · exact (min_le_right _ _).trans (ordered.trans (le_max_right _ _))
    · intro other member
      rcases List.mem_cons.mp member with rfl | inside
      · exact ⟨min_le_left _ _, le_max_left _ _⟩
      · obtain ⟨low, high⟩ := between other inside
        exact ⟨(min_le_right _ _).trans low, high.trans (le_max_right _ _)⟩

omit [DecidableEq κ] in
theorem clocked_of_le {calls : List (Call κ)} (clock : (calls.map Call.now).Pairwise (· ≤ ·))
    (low : ∀ call ∈ calls, before ≤ call.now) : Clocked before calls := by
  refine List.pairwise_cons.mpr ⟨?_, clock⟩
  intro reading member
  obtain ⟨call, stored, rfl⟩ := List.mem_map.mp member
  exact low call stored

/-- Every history leaves a fresh limiter sound. -/
theorem sound_reached {perMin : ℤ} (max : ℤ) (enabled : 0 < perMin) {calls : List (Call κ)}
    (clock : (calls.map Call.now).Pairwise (· ≤ ·)) (proper : Proper names calls)
    (until_ : ∀ call ∈ calls, call.now ≤ now) :
    Sound names now (after (newWithMax perMin max) calls) ∧
      (after (newWithMax perMin max) calls).max = (newWithMax perMin max : RateLimiter κ).max ∧
      (after (newWithMax perMin max) calls).perMin = perMin := by
  obtain ⟨first, _, _, between⟩ := exists_readings calls
  have low : ∀ call ∈ calls, min first now ≤ call.now := fun call member =>
    (min_le_left _ _).trans (between call member).1
  exact (sound_newWithMax enabled names _).after (clocked_of_le clock low) proper (min_le_right _ _) until_

/-- What overrides, time and capacity can do to the admissions and the buckets of a
limiter. -/
theorem overrides_only_tighten {perMin max : ℤ} (enabled : 0 < perMin) {calls : List (Call κ)}
    (clock : (calls.map Call.now).Pairwise (· ≤ ·)) (nonneg : ∀ call ∈ calls, call.Nonneg) :
    ((calls.map Call.key).dedup.length ≤ (newWithMax perMin max : RateLimiter κ).max →
      (∀ key, (admissions (newWithMax perMin max) calls).count key ≤
        (admissions (newWithMax perMin max) (calls.filter Call.isAllow)).count key) ∧
      ∀ earlier window later, calls = earlier ++ window ++ later →
        ∀ since till : ℤ, since ≤ till → (∀ call ∈ window, since ≤ call.now ∧ call.now ≤ till) →
          ∀ key, ((admissions (after (newWithMax perMin max) earlier) window).count key : ℚ) ≤
            perMin + perMin * seconds (till - since) / 60) ∧
    (∀ e ∈ (after (newWithMax perMin max) calls).ll, 0 ≤ e.tokens ∧ e.tokens ≤ perMin) ∧
    ((after (newWithMax perMin max) calls).ll.map Entry.key).Nodup ∧
    (after (newWithMax perMin max) calls).buckets.Perm
      ((after (newWithMax perMin max) calls).ll.map Entry.key) ∧
    (after (newWithMax perMin max) calls).ll.length ≤ (newWithMax perMin max : RateLimiter κ).max := by
  have proper : Proper (calls.map Call.key).dedup calls := fun call member =>
    ⟨List.mem_dedup.mpr (List.mem_map_of_mem member), nonneg call member⟩
  have fresh := @sound_newWithMax κ _ max enabled (calls.map Call.key).dedup
  refine ⟨fun fewer => ⟨?_, ?_⟩, ?_⟩
  · intro key
    obtain ⟨before, _, _, between⟩ := exists_readings calls
    have clocked : Clocked before calls := clocked_of_le clock fun call member => (between call member).1
    have trails : TokenBucket.Trails (credit (newWithMax perMin max) before key) 0
        (credit (newWithMax perMin max) before key) 0 := ⟨le_refl _, le_refl _⟩
    have bound := admissions_trail (fresh before) (fresh before) fewer fewer rfl
      (fun e held => absurd held List.not_mem_nil) clocked proper trails
    rwa [Nat.zero_add, Nat.zero_add] at bound
  · rintro earlier window later rfl since till ordered inside key
    have rate : (0 : ℚ) ≤ (perMin : ℚ) / 60 := div_nonneg (Int.cast_nonneg enabled.le) (by norm_num)
    have whole : (perMin : ℚ) * seconds (till - since) / 60 = seconds (till - since) * ((perMin : ℚ) / 60) := by
      rw [mul_comm, mul_div_assoc]
    rw [whole]
    rw [List.map_append, List.map_append, List.append_assoc] at clock
    obtain ⟨front, back, between⟩ := List.pairwise_append.mp clock
    cases window with
    | nil =>
      exact add_nonneg (Int.cast_nonneg enabled.le)
        (mul_nonneg (seconds_nonneg (sub_nonneg.mpr ordered)) rate)
    | cons call rest =>
      -- The window starts at its first call, which comes after all before it.
      have past : ∀ other ∈ earlier, other.now ≤ call.now := fun other member =>
        between other.now (List.mem_map_of_mem member) call.now (List.mem_append_left _ List.mem_cons_self)
      obtain ⟨sound, sameMax, samePerMin⟩ := sound_reached max enabled front
        (fun other member => proper other (List.mem_append_left _ (List.mem_append_left _ member))) past
      have readings := (List.pairwise_append.mp back).1
      have first : ∀ other ∈ call :: rest, call.now ≤ other.now := by
        intro other member
        rcases List.mem_cons.mp member with rfl | behind
        · exact le_refl _
        · exact (List.pairwise_cons.mp readings).1 other.now (List.mem_map_of_mem behind)
      have bound := sound.admissions_le (sameMax ▸ fewer) (clocked_of_le readings first)
        (fun other member => proper other (List.mem_append_left _ (List.mem_append_right _ member)))
        (inside call List.mem_cons_self).2 (fun other member => (inside other member).2) key
      rw [samePerMin] at bound
      have full : credit (after (newWithMax perMin max) earlier) call.now key ≤ perMin := by
        rw [credit, samePerMin]
        exact TokenBucket.refill_le_cap
      have shorter : seconds (till - call.now) ≤ seconds (till - since) := by
        have start := (inside call List.mem_cons_self).1
        have split : seconds (till - since) = seconds (call.now - since) + seconds (till - call.now) := by
          rw [← seconds_add]
          congr 1
          omega
        rw [split]
        exact le_add_of_nonneg_left (seconds_nonneg (sub_nonneg.mpr start))
      exact bound.trans (add_le_add full (mul_le_mul_of_nonneg_right shorter rate))
  · obtain ⟨_, last, _, between⟩ := exists_readings calls
    obtain ⟨sound, sameMax, samePerMin⟩ := sound_reached max enabled clock proper
      fun call member => (between call member).2
    refine ⟨?_, sound.agree.unique, sound.agree.mapped, sameMax ▸ sound.fits⟩
    intro e held
    have level := sound.levels e held
    rwa [samePerMin] at level

/-- A key is slowed after its first request. -/
theorem overrides_only_tighten_slowed :
    (admissions (newWithMax 3 2 : RateLimiter ℕ)
        [.allow 0 7, .setKeyLimit 0 7 1 (60 * second), .allow 0 7, .allow (20 * second) 7]).count 7 ≤
      (admissions (newWithMax 3 2 : RateLimiter ℕ)
        [.allow 0 7, .allow 0 7, .allow (20 * second) 7]).count 7 ∧
    ((admissions (after (newWithMax 3 2 : RateLimiter ℕ) [.allow 0 7, .setKeyLimit 0 7 1 (60 * second)])
        [.allow 0 7, .allow (20 * second) 7]).count 7 : ℚ) ≤
      ((3 : ℤ) : ℚ) + ((3 : ℤ) : ℚ) * seconds (20 * second - 0) / 60 :=
  have contract := (@overrides_only_tighten ℕ _ 3 2 (by decide)
    [.allow 0 7, .setKeyLimit 0 7 1 (60 * second), .allow 0 7, .allow (20 * second) 7] (by decide) (by simp [Call.Nonneg])).1 (by decide)
  ⟨contract.1 7, contract.2 [.allow 0 7, .setKeyLimit 0 7 1 (60 * second)]
    [.allow 0 7, .allow (20 * second) 7] [] rfl 0 (20 * second) (by decide)
    (by simp [Call.now, second]) 7⟩

end AnselmGateway.RateOverrides
