import Mathlib.Data.List.Dedup
import AnselmGateway.Foundation.Run
import AnselmGateway.TokenThrottle

/-! What the throttle answers, said of the calls before: how many requests an install made
in this clock minute, and when its latest throttle expires. A sweep that forgets nothing a
later call could see cannot be told from none. -/
namespace AnselmGateway.ThrottlePruning
open Foundation RuntimeConfig TokenThrottle
variable {κ : Type} [DecidableEq κ]

/-! ## What the calls before say

A history runs from its latest call back. -/

/-- A request of this install in this clock minute. -/
def requests (installID : κ) (minute : ℤ) : Call κ → Bool
  | .observe other now => decide (other = installID) && decide (unixMinute now = minute)
  | .tokensThrottledNow _ => false

/-- The requests of an install in a clock minute. -/
def requestsIn (earlier : List (Call κ)) (installID : κ) (minute : ℤ) : ℕ :=
  earlier.countP (requests installID minute)

variable (cfg : Config)

/-- A request now would be an anomaly: the trigger is set, and this is at least the
trigger's request of the install in the current clock minute. -/
def anomalous (earlier : List (Call κ)) (installID : κ) (now : ℕ) : Bool :=
  decide (0 < cfg.tokenAnomalyRPM) &&
    decide (cfg.tokenAnomalyRPM ≤ requestsIn earlier installID (unixMinute now) + 1)

/-- When the latest throttle of an install expires. -/
def latestThrottle : List (Call κ) → κ → Option ℤ
  | [], _ => none
  | .observe other now :: earlier, installID =>
    if other = installID ∧ anomalous cfg earlier installID now = true then some (throttledUntil cfg now)
    else latestThrottle earlier installID
  | .tokensThrottledNow _ :: earlier, installID => latestThrottle earlier installID

/-- The latest throttle of an install has not expired. -/
def Throttled (earlier : List (Call κ)) (installID : κ) (now : ℕ) : Bool :=
  (latestThrottle cfg earlier installID).any fun until_ => decide ((now : ℤ) < until_)

/-- The install a call is for. -/
def installOf : Call κ → Option κ
  | .observe installID _ => some installID
  | .tokensThrottledNow _ => none

/-- The installs whose latest throttle has not expired, each once. -/
def throttledInstalls (earlier : List (Call κ)) (now : ℕ) : List κ :=
  (earlier.filterMap installOf).dedup.filter fun installID => Throttled cfg earlier installID now

/-- What a call is to return. -/
def expected (earlier : List (Call κ)) : Call κ → Output κ
  | .observe installID now =>
    if anomalous cfg earlier installID now then
      .observed true (some (installID, tightened cfg, throttledUntil cfg now))
    else .observed false none
  | .tokensThrottledNow now => .throttled (throttledInstalls cfg earlier now).length

/-- What the calls of a run are to return, after a history. -/
def expectedOutputs : List (Call κ) → List (Call κ) → List (Output κ)
  | _, [] => []
  | earlier, call :: rest => expected cfg earlier call :: expectedOutputs (call :: earlier) rest

/-! ## What a window says -/

omit [DecidableEq κ] in
theorem unixMinute_le {first second : ℕ} (order : first ≤ second) : unixMinute first ≤ unixMinute second := by
  unfold unixMinute Foundation.second
  omega

/-- What a window counts for a minute. -/
def tally (w : Option RpmWindow) (minute : ℤ) : ℕ :=
  match w with
  | none => 0
  | some w => if w.minute = minute then w.n else 0

/-- What a window says of its install's throttle. -/
def live (w : Option RpmWindow) (now : ℕ) : Bool := w.any fun w => w.throttledAt now

/-- Two windows no call from now on can tell apart. -/
def Alike (now : ℕ) (first second : Option RpmWindow) : Prop :=
  (∀ minute, unixMinute now ≤ minute → tally first minute = tally second minute) ∧
    ∀ later, now ≤ later → live first later = live second later

/-- A sweep no later call can tell from none. -/
def Harmless (prune : ℕ → Counts κ → Counts κ) : Prop :=
  ∀ now (counts : Counts κ) installID, Alike now ((prune now counts).lookup installID) (counts.lookup installID)

theorem Alike.refl (now : ℕ) (w : Option RpmWindow) : Alike now w w := ⟨fun _ _ => rfl, fun _ _ => rfl⟩

theorem Alike.trans {now : ℕ} {first second third : Option RpmWindow} (one : Alike now first second)
    (two : Alike now second third) : Alike now first third :=
  ⟨fun minute late => (one.1 minute late).trans (two.1 minute late),
    fun later after => (one.2 later after).trans (two.2 later after)⟩

/-- No sweep at all is harmless. -/
theorem harmless_none : Harmless fun _ (counts : Counts κ) => counts := fun now _ _ => Alike.refl now _

/-- The tracker's own sweep is: what it takes counts for no minute from this one on, and is
no live throttle. -/
theorem harmless_pruneLocked : Harmless fun now (counts : Counts κ) => pruneLocked now counts := by
  intro now counts installID
  unfold pruneLocked
  dsimp only
  split
  · exact Alike.refl now _
  · rw [Dict.lookup_deleteWhere]
    cases held : counts.lookup installID with
    | none => exact Alike.refl now _
    | some w =>
      rw [Option.filter_some]
      split
      · exact Alike.refl now _
      · rename_i dropped
        obtain ⟨idle, lapsed⟩ : w.minute < unixMinute now - 5 ∧ (w.until_ = zeroTime ∨ w.until_ < now) := by
          simpa only [Bool.not_eq_true', Bool.not_eq_false, Bool.and_eq_true, Bool.or_eq_true,
            decide_eq_true_eq] using dropped
        refine ⟨fun minute late => ?_, fun later after => ?_⟩
        · exact (if_neg (by omega)).symm
        · have expired : w.throttledAt later = false := by
            unfold RpmWindow.throttledAt
            rcases lapsed with never | past
            · simp [never]
            · simp
              omega
          exact expired.symm

/-- A window of the last minutes is not among what it takes, nor is one that was just made. -/
theorem lookup_pruneLocked_recent {counts : Counts κ} {installID : κ} {now : ℕ}
    (recent : ∀ w, counts.lookup installID = some w → unixMinute now - 5 ≤ w.minute) :
    (pruneLocked now counts).lookup installID = counts.lookup installID := by
  unfold pruneLocked
  split
  · rfl
  · rw [Dict.lookup_deleteWhere]
    cases held : counts.lookup installID with
    | none => rfl
    | some w =>
      have late := recent w held
      rw [Option.filter_some, if_pos]
      rw [decide_eq_false (by omega)]
      rfl

/-! ## One request -/

theorem meter_minute (w : RpmWindow) (minute : ℤ) : (w.meter minute).minute = minute := by
  unfold RpmWindow.meter
  split
  · rfl
  · rename_i same
    exact not_not.mp same

theorem meter_n (w : RpmWindow) (minute : ℤ) : (w.meter minute).n = tally (some w) minute + 1 := by
  unfold RpmWindow.meter tally
  by_cases same : w.minute = minute <;> simp [same]

theorem meter_until (w : RpmWindow) (minute : ℤ) : (w.meter minute).until_ = w.until_ := by
  unfold RpmWindow.meter
  split <;> rfl

/-- A window that is made counts nothing and throttles nothing, as one that is missing. -/
theorem alike_made (now : ℕ) (minute : ℤ) (w : Option RpmWindow) :
    Alike now (some (w.getD { minute := minute, n := 0, until_ := zeroTime })) w := by
  cases w with
  | some w => exact Alike.refl now _
  | none =>
    refine ⟨fun _ _ => ?_, fun _ _ => ?_⟩
    · simp [tally]
    · simp [live, RpmWindow.throttledAt]

/-- No throttle expires at the zero time. -/
theorem throttledUntil_ne (now : ℕ) : throttledUntil cfg now ≠ zeroTime := by
  have low := Int.le_bmod (x := cfg.tokenThrottleCooldownSec * second) (m := 2 ^ 64) (by decide)
  unfold throttledUntil zeroTime unix
  simp only [second] at low ⊢
  omega

/-- The windows of a tracker say what the calls before do, of every minute and instant from
now on. A tracker that is off counts nothing. -/
structure Faithful (earlier : List (Call κ)) (counts : Counts κ) (now : ℕ) : Prop where
  counted : 0 < cfg.tokenAnomalyRPM → ∀ installID minute, unixMinute now ≤ minute →
    tally (counts.lookup installID) minute = requestsIn earlier installID minute
  throttled : ∀ installID later, now ≤ later →
    live (counts.lookup installID) later = Throttled cfg earlier installID later
  ahead : ∀ installID minute, unixMinute now < minute → requestsIn earlier installID minute = 0

variable {cfg} {earlier : List (Call κ)} {counts : Counts κ} {now : ℕ} {prune : ℕ → Counts κ → Counts κ}

theorem faithful_start : Faithful cfg ([] : List (Call κ)) ∅ 0 :=
  ⟨fun _ _ _ _ => rfl, fun _ _ _ => rfl, fun _ _ _ => rfl⟩

/-- Time passing takes nothing away. -/
theorem Faithful.later {later : ℕ} (faithful : Faithful cfg earlier counts now) (order : now ≤ later) :
    Faithful cfg earlier counts later where
  counted on installID minute late := faithful.counted on installID minute ((unixMinute_le order).trans late)
  throttled installID instant after := faithful.throttled installID instant (order.trans after)
  ahead installID minute beyond := faithful.ahead installID minute ((unixMinute_le order).trans_lt beyond)

/-! ## What a request adds to a history -/

theorem requestsIn_observe (installID other : κ) (minute : ℤ) :
    requestsIn (.observe installID now :: earlier) other minute =
      requestsIn earlier other minute + if installID = other ∧ unixMinute now = minute then 1 else 0 := by
  unfold requestsIn
  rw [List.countP_cons]
  simp [requests]

theorem throttled_observe (installID other : κ) (later : ℕ) :
    Throttled cfg (.observe installID now :: earlier) other later =
      if installID = other ∧ anomalous cfg earlier other now = true then
        decide ((later : ℤ) < throttledUntil cfg now)
      else Throttled cfg earlier other later := by
  unfold Throttled
  rw [latestThrottle]
  split
  · rfl
  · rfl

/-- Only an install that made a request is throttled. -/
theorem requested_of_throttled {installID : κ} (throttled : Throttled cfg earlier installID now = true) :
    installID ∈ earlier.filterMap installOf := by
  induction earlier with
  | nil => cases throttled
  | cons call earlier ih =>
    cases call with
    | tokensThrottledNow before => exact ih throttled
    | observe other before =>
      change installID ∈ other :: earlier.filterMap installOf
      by_cases same : other = installID
      · exact same ▸ List.mem_cons_self
      · rw [throttled_observe, if_neg (fun both => same both.1)] at throttled
        exact List.mem_cons_of_mem _ (ih throttled)

/-! ## One call -/

/-- The windows `Observe` counts in: a window is made where there was none, and swept for. -/
def entered (prune : ℕ → Counts κ → Counts κ) (counts : Counts κ) (installID : κ) (now : ℕ) : Counts κ :=
  match counts.lookup installID with
  | some _ => counts
  | none => prune now (counts.insert installID { minute := unixMinute now, n := 0, until_ := zeroTime })

/-- The window `Observe` counts in, counted in. -/
def metered (counts : Counts κ) (installID : κ) (now : ℕ) : RpmWindow :=
  ((counts.lookup installID).getD { minute := unixMinute now, n := 0, until_ := zeroTime }).meter (unixMinute now)

theorem observe_eq (on : 0 < cfg.tokenAnomalyRPM) (installID : κ) :
    observe cfg prune counts installID now =
      if (metered counts installID now).n < cfg.tokenAnomalyRPM then
        (.observed false none, (entered prune counts installID now).insert installID (metered counts installID now))
      else
        (.observed true (some (installID, tightened cfg, throttledUntil cfg now)),
          (entered prune counts installID now).insert installID
            { metered counts installID now with until_ := throttledUntil cfg now }) := by
  unfold observe
  dsimp only
  rw [if_neg (Int.not_le.mpr on)]
  rfl

/-- The windows of the other installs are as they were, to any later call. -/
theorem alike_entered (harmless : Harmless prune) {installID other : κ} (differs : other ≠ installID) :
    Alike now ((entered prune counts installID now).lookup other) (counts.lookup other) := by
  unfold entered
  split
  · exact Alike.refl now _
  · have swept := harmless now (counts.insert installID { minute := unixMinute now, n := 0, until_ := zeroTime }) other
    rwa [Dict.lookup_insert, if_neg differs] at swept

theorem metered_n (faithful : Faithful cfg earlier counts now) (on : 0 < cfg.tokenAnomalyRPM) (installID : κ) :
    (metered counts installID now).n = requestsIn earlier installID (unixMinute now) + 1 := by
  have made := (alike_made now (unixMinute now) (counts.lookup installID)).1 _ (Int.le_refl _)
  rw [metered, meter_n, made, faithful.counted on installID _ (Int.le_refl _)]

/-- The throttle of the window is not the count's business. -/
theorem live_metered (faithful : Faithful cfg earlier counts now) (installID : κ) {later : ℕ} (order : now ≤ later) :
    (metered counts installID now).throttledAt later = Throttled cfg earlier installID later := by
  have made := (alike_made now (unixMinute now) (counts.lookup installID)).2 later order
  rw [← faithful.throttled installID later order, ← made]
  unfold RpmWindow.throttledAt metered
  rw [meter_until]
  rfl

/-- A tracker whose own window for a request says what the request adds, says it of all. -/
theorem faithful_insert (faithful : Faithful cfg earlier counts now) (harmless : Harmless prune)
    (on : 0 < cfg.tokenAnomalyRPM) {installID : κ} {w : RpmWindow} (minute : w.minute = unixMinute now)
    (n : w.n = requestsIn earlier installID (unixMinute now) + 1)
    (throttle : ∀ later, now ≤ later →
      w.throttledAt later = Throttled cfg (.observe installID now :: earlier) installID later) :
    Faithful cfg (.observe installID now :: earlier)
      ((entered prune counts installID now).insert installID w) now where
  counted _ other minute' late := by
    rw [Dict.lookup_insert, requestsIn_observe]
    split
    · rename_i same
      rw [same, tally, minute]
      split
      · rename_i here
        rw [if_pos ⟨rfl, here⟩, n, here]
      · rename_i beyond
        rw [if_neg (fun both => beyond both.2), faithful.ahead installID minute' (lt_of_le_of_ne late beyond)]
    · rename_i differs
      rw [if_neg (fun both => differs both.1.symm), (alike_entered harmless differs).1 minute' late,
        faithful.counted on other minute' late, Nat.add_zero]
  throttled other later order := by
    rw [Dict.lookup_insert]
    split
    · rename_i same
      rw [same]
      exact throttle later order
    · rename_i differs
      rw [(alike_entered harmless differs).2 later order, faithful.throttled other later order,
        throttled_observe, if_neg (fun both => differs both.1.symm)]
  ahead other minute' beyond := by
    rw [requestsIn_observe, faithful.ahead other minute' beyond, if_neg (fun both => beyond.ne both.2)]

theorem anomalous_iff (on : 0 < cfg.tokenAnomalyRPM) (installID : κ) :
    anomalous cfg earlier installID now = true ↔
      ¬ ((requestsIn earlier installID (unixMinute now) + 1 : ℕ) : ℤ) < cfg.tokenAnomalyRPM := by
  unfold anomalous
  rw [decide_eq_true on, Bool.true_and, decide_eq_true_iff, Int.not_lt, Int.natCast_succ]

/-- A tracker that is off answers nothing and has nothing to remember. -/
theorem observe_off (faithful : Faithful cfg earlier counts now) (off : cfg.tokenAnomalyRPM ≤ 0) (installID : κ) :
    (observe cfg prune counts installID now).1 = expected cfg earlier (.observe installID now) ∧
      Faithful cfg (.observe installID now :: earlier) (observe cfg prune counts installID now).2 now := by
  have calm : ∀ other, ¬ anomalous cfg earlier other now = true := by
    intro other hit
    unfold anomalous at hit
    rw [decide_eq_false (Int.not_lt.mpr off)] at hit
    cases hit
  unfold observe expected
  dsimp only
  rw [if_pos off, if_neg (calm installID)]
  refine ⟨rfl, fun on => absurd off (Int.not_le.mpr on), fun other later order => ?_, fun other minute beyond => ?_⟩
  · rw [throttled_observe, if_neg (fun both => calm other both.2), faithful.throttled other later order]
  · rw [requestsIn_observe, faithful.ahead other minute beyond, if_neg (fun both => beyond.ne both.2)]

/-- A request is answered as the calls before say, and its tracker then knows of it. -/
theorem observe_spec (faithful : Faithful cfg earlier counts now) (harmless : Harmless prune) (installID : κ) :
    (observe cfg prune counts installID now).1 = expected cfg earlier (.observe installID now) ∧
      Faithful cfg (.observe installID now :: earlier) (observe cfg prune counts installID now).2 now := by
  rcases lt_or_ge 0 cfg.tokenAnomalyRPM with on | off
  · have minute : (metered counts installID now).minute = unixMinute now := meter_minute _ _
    have n := metered_n faithful on installID
    rw [observe_eq on, expected]
    by_cases hit : anomalous cfg earlier installID now = true
    · rw [if_pos hit, if_neg (n ▸ (anomalous_iff on installID).mp hit)]
      refine ⟨rfl, faithful_insert faithful harmless on minute n fun later _ => ?_⟩
      rw [throttled_observe, if_pos ⟨rfl, hit⟩, RpmWindow.throttledAt,
        decide_eq_true (throttledUntil_ne cfg now), Bool.true_and]
    · rw [if_neg hit, if_pos (n ▸ not_not.mp (mt (anomalous_iff on installID).mpr hit))]
      refine ⟨rfl, faithful_insert faithful harmless on minute n fun later order => ?_⟩
      rw [throttled_observe, if_neg (fun both => hit both.2), live_metered faithful installID order]
  · exact observe_off faithful off installID

/-- The sum over the windows is the number of installs the calls before left throttled. -/
theorem tokensThrottledNow_eq (faithful : Faithful cfg earlier counts now) :
    tokensThrottledNow counts now = (throttledInstalls cfg earlier now).length := by
  refine Dict.countWhere_eq ((List.nodup_dedup _).filter _) fun installID => ?_
  have agrees := faithful.throttled installID now (Nat.le_refl now)
  rw [throttledInstalls, List.mem_filter, List.mem_dedup, ← agrees]
  constructor
  · exact fun both => both.2
  · exact fun throttled => ⟨requested_of_throttled (agrees.symm.trans throttled), throttled⟩

theorem step_spec (faithful : Faithful cfg earlier counts now) (harmless : Harmless prune) {call : Call κ}
    (order : now ≤ call.now) :
    (step cfg prune counts call).1 = expected cfg earlier call ∧
      Faithful cfg (call :: earlier) (step cfg prune counts call).2 call.now := by
  have faithful := faithful.later order
  cases call with
  | observe installID now => exact observe_spec faithful harmless installID
  | tokensThrottledNow now =>
    refine ⟨?_, ⟨faithful.counted, faithful.throttled, faithful.ahead⟩⟩
    exact congrArg Output.throttled (tokensThrottledNow_eq faithful)

/-! ## A run -/

/-- A tracker whose sweep is harmless answers a whole run as the calls before each say. -/
theorem outputs_eq {calls : List (Call κ)} (faithful : Faithful cfg earlier counts now)
    (harmless : Harmless prune) (ordered : calls.Pairwise fun a b => a.now ≤ b.now)
    (after : ∀ call ∈ calls, now ≤ call.now) :
    outputs cfg prune counts calls = expectedOutputs cfg earlier calls := by
  induction calls generalizing earlier counts now with
  | nil => rfl
  | cons call rest ih =>
    obtain ⟨ahead, later⟩ := List.pairwise_cons.mp ordered
    obtain ⟨answer, faithful⟩ := step_spec faithful harmless (after call List.mem_cons_self)
    rw [outputs, expectedOutputs, answer, ih faithful later ahead]

/-- The throttle answers a run exactly as one that never sweeps, and both as the calls
before each say: an anomaly is at least the trigger's request of its install in the current
clock minute, and the installs counted are those whose latest throttle has not expired. -/
theorem throttle_exact (cfg : Config) (calls : List (Call κ)) (ordered : calls.Pairwise fun a b => a.now ≤ b.now) :
    outputs cfg pruneLocked ∅ calls = outputs cfg (fun _ counts => counts) ∅ calls ∧
      outputs cfg pruneLocked ∅ calls = expectedOutputs cfg [] calls := by
  have start : Faithful cfg [] (∅ : Counts κ) 0 := faithful_start
  have swept := outputs_eq start harmless_pruneLocked ordered fun _ _ => Nat.zero_le _
  have whole := outputs_eq start harmless_none ordered fun _ _ => Nat.zero_le _
  exact ⟨swept.trans whole.symm, swept⟩

/-! ## A crowd -/

/-- The windows that a run leaves. -/
def countsAfter (cfg : Config) (calls : List (Call κ)) : Counts κ :=
  runSteps (fun counts call => (step cfg pruneLocked counts call).2) ∅ calls

/-- A trigger of two requests a minute, and five minutes of throttle. -/
def twice : Config := { HotConfiguration.chatOnly with
  ratePerMin := 60, tokenAnomalyRPM := 2, tokenThrottleFactor := 4, tokenThrottleCooldownSec := 300 }

/-- One request of each of so many installs, at once. -/
def crowd (n : ℕ) : List (Call ℕ) := (List.range n).map fun installID => .observe installID 0

/-- An install that comes for the first time gets a window, and the map is swept. -/
theorem countsAfter_newcomer {calls : List (Call κ)} {installID : κ} (now : ℕ)
    (new : (countsAfter twice calls).lookup installID = none) :
    countsAfter twice (calls ++ [.observe installID now]) =
      (pruneLocked now ((countsAfter twice calls).insert installID ⟨unixMinute now, 0, zeroTime⟩)).insert installID
        ⟨unixMinute now, 1, zeroTime⟩ := by
  rw [countsAfter, runSteps_append]
  change (observe twice pruneLocked (countsAfter twice calls) installID now).2 = _
  unfold observe
  dsimp only
  rw [if_neg (by decide), new]
  simp only [Option.getD_none, RpmWindow.meter, ne_eq, not_true_eq_false, if_false, Nat.zero_add]
  rw [if_pos (by decide)]

/-- Where nobody is idle nobody is swept. -/
theorem lookup_crowd (n installID : ℕ) : (countsAfter twice (crowd n)).lookup installID =
    if installID < n then some ⟨0, 1, zeroTime⟩ else none := by
  induction n generalizing installID with
  | zero => rfl
  | succ n ih =>
    have grown : crowd (n + 1) = crowd n ++ [.observe n 0] := by
      rw [crowd, List.range_succ, List.map_append]
      rfl
    rw [grown, countsAfter_newcomer 0 (by rw [ih, if_neg (Nat.lt_irrefl n)]), Dict.lookup_insert]
    split
    · rename_i same
      rw [if_pos (by omega)]
      rfl
    · rename_i differs
      rw [lookup_pruneLocked_recent, Dict.lookup_insert, if_neg differs, ih]
      · split_ifs <;> first | rfl | omega
      · intro w held
        rw [Dict.lookup_insert, if_neg differs, ih] at held
        split at held
        · cases held
          decide
        · cases held

/-- Once it is idle, a crowd that fills the map is swept by the next install that comes. -/
theorem crowd_swept {n now : ℕ} (many : 8192 ≤ n) (idle : 6 ≤ unixMinute now) (installID : ℕ) :
    (countsAfter twice (crowd n ++ [.observe n now])).lookup installID =
      if installID = n then some ⟨unixMinute now, 1, zeroTime⟩ else none := by
  have room : 8192 ≤ ((countsAfter twice (crowd n)).insert n ⟨unixMinute now, 0, zeroTime⟩).entries.length := by
    have held := @Dict.length_of_held _ _ _ ((countsAfter twice (crowd n)).insert n ⟨unixMinute now, 0, zeroTime⟩)
      (List.range n) List.nodup_range fun key member => by
        have inside := List.mem_range.mp member
        rw [Dict.lookup_insert, if_neg (by omega), lookup_crowd, if_pos inside]
        rfl
    rw [List.length_range] at held
    omega
  rw [countsAfter_newcomer now (by rw [lookup_crowd, if_neg (Nat.lt_irrefl n)]), Dict.lookup_insert]
  split
  · rfl
  · rename_i differs
    unfold pruneLocked
    rw [if_neg (by omega), Dict.lookup_deleteWhere, Dict.lookup_insert, if_neg differs, lookup_crowd]
    split
    · rw [Option.filter_some, if_neg]
      simp only [decide_true, Bool.true_or, Bool.and_true, Bool.not_eq_true', decide_eq_false_iff_not, not_not]
      omega
    · rfl

theorem crowd_now {n : ℕ} {call : Call ℕ} (listed : call ∈ crowd n) : call.now = 0 := by
  obtain ⟨_, _, rfl⟩ := List.mem_map.mp listed
  rfl

theorem crowd_ordered {n : ℕ} {calls : List (Call ℕ)} (ordered : calls.Pairwise fun a b => a.now ≤ b.now) :
    (crowd n ++ calls).Pairwise fun a b => a.now ≤ b.now := by
  refine List.pairwise_append.mpr ⟨?_, ordered, fun a listed b _ => (crowd_now listed).trans_le (Nat.zero_le _)⟩
  exact List.pairwise_of_forall_mem_list fun a listed b listed' => by rw [crowd_now listed, crowd_now listed']

/-- As many installs as fill the map, each once; and minutes later two requests of another, the
first of which sweeps all the others, and two readings, before its throttle expires and after. -/
theorem throttle_exact_crowd :
    let calls : List (Call ℕ) := crowd 8192 ++
      [.observe 8192 360000000000, .observe 8192 361000000000, .tokensThrottledNow 362000000000,
        .tokensThrottledNow 661000000000]
    (∀ installID, (countsAfter twice (crowd 8192 ++ [.observe 8192 360000000000])).lookup installID =
        if installID = 8192 then some ⟨6, 1, zeroTime⟩ else none) ∧
      outputs twice pruneLocked ∅ calls = outputs twice (fun _ counts => counts) ∅ calls ∧
        outputs twice pruneLocked ∅ calls = expectedOutputs twice [] calls :=
  ⟨crowd_swept le_rfl (by decide), throttle_exact twice _ (crowd_ordered (by decide))⟩

/-- A trigger of zero turns the throttle off, and does not make every request an anomaly. -/
theorem zero_trigger_is_off :
    ¬ ∀ (cfg : Config) (installID now : ℕ),
      (observe cfg pruneLocked (∅ : Counts ℕ) installID now).1.anomaly = true ↔
        cfg.tokenAnomalyRPM ≤ requestsIn ([] : List (Call ℕ)) installID (unixMinute now) + 1 := by
  intro each
  have first := each { HotConfiguration.chatOnly with tokenAnomalyRPM := 0 } 7 0
  revert first
  decide

end AnselmGateway.ThrottlePruning
