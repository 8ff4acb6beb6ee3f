import AnselmGateway.Foundation.Run
import AnselmGateway.Install
import AnselmGateway.InstallStoreSemantics

/-! The fingerprint gate over one local day. Its row remembers how many installs
were admitted and, as `last_at`, the cutoff of the last one, so what it compares
are two cutoffs: a cooldown is over as soon as the clock has moved at all. -/
namespace AnselmGateway.FingerprintGate
open Foundation InstallStore InstallStoreSemantics Install

variable (env : Environment) (cfg : Config) (fp : String)

/-- The install tables, and when each new install of one fingerprint was
admitted, in order. -/
structure Observed where
  db : Database
  admitted : List ℤ

/-- A new install, as opposed to a recovered id, a rejection or a failure. -/
def isNewInstall : Except Refusal IssueResult → Bool
  | .ok result => result.admitted && !result.existing
  | .error _ => false

/-- One registration call, watched for new installs of the fingerprint. -/
def observe (o : Observed) (call : Call) : Observed :=
  let (answer, db) := register env cfg call o.db
  { db := db
    admitted :=
      if isNewInstall answer && decide (call.req.fingerprint = fp) then o.admitted ++ [call.now]
      else o.admitted }

/-- What the gate is for: a cap on the day, and a distance between admissions. -/
def MayAdmit (admitted : List ℤ) (now : ℤ) : Prop :=
  (cfg.installPerFPDaily ≤ 0 ∨ admitted.length < cfg.installPerFPDaily) ∧
    (cfg.installPerFPCooldownSec ≤ 0 ∨ ∀ previous, admitted.getLast? = some previous →
      previous + cfg.installPerFPCooldownSec * second < now)

/-- What the gate checks: after a first admission, the cap it was given, and that
its cutoff has moved. -/
def Admits (admitted : List ℤ) (now : ℤ) : Prop :=
  ∀ previous, admitted.getLast? = some previous →
    admitted.length < fpCap cfg ∧ fpCutoff cfg previous < fpCutoff cfg now

/-- The calls on which the two agree. With a cooldown and room below the cap, a
call must not fall inside the cooldown unless it comes at the very instant of the
last admission; without one, the clock must have moved. -/
def Aligned (admitted : List ℤ) (now : ℤ) : Prop :=
  ∀ previous, admitted.getLast? = some previous →
    if cfg.installPerFPCooldownSec > 0 then
      if admitted.length < fpCap cfg then
        ¬(previous < now ∧ now ≤ previous + cfg.installPerFPCooldownSec * second)
      else cfg.installPerFPDaily > 0 ∨ now ≤ previous + cfg.installPerFPCooldownSec * second
    else admitted.length < cfg.installPerFPDaily → addYears 1000 previous < addYears 1000 now

/-- The gate is switched on by either half. -/
def Armed : Prop := cfg.installPerFPDaily > 0 ∨ cfg.installPerFPCooldownSec > 0

/-- The stored row of the day stands for the admissions so far. -/
def Remembers (row : Option FPRateRow) (admitted : List ℤ) : Prop :=
  row = admitted.getLast?.map fun previous => ⟨admitted.length, fpCutoff cfg previous⟩

/-- The row of the day, as the tables hold it. -/
def Recalls (day : String) (o : Observed) : Prop :=
  Remembers cfg (o.db.installFPRate.get? (env.hashFingerprint fp, day)) o.admitted

/-! ## The two verdicts -/

section Verdicts
variable {cfg} {admitted : List ℤ} {now : ℤ}

/-- The gate meets its purpose on a call exactly if the call is aligned. -/
theorem admits_iff_aligned (armed : Armed cfg) :
    (Admits cfg admitted now ↔ MayAdmit cfg admitted now) ↔ Aligned cfg admitted now := by
  cases last : admitted.getLast? with
  | none =>
    have none : admitted = [] := List.getLast?_eq_none_iff.mp last
    have admits : Admits cfg admitted now := fun previous same => by simp [last] at same
    have may : MayAdmit cfg admitted now := by
      refine ⟨?_, .inr fun previous same => by simp [last] at same⟩
      rw [none, List.length_nil]
      omega
    have aligned : Aligned cfg admitted now := fun previous same => by simp [last] at same
    exact iff_of_true (iff_of_true admits may) aligned
  | some previous =>
    simp only [Admits, MayAdmit, Aligned, last, Option.some.injEq, forall_eq', fpCutoff]
    obtain ⟨_, _⟩ := cfg.perFPCooldown_bounds
    by_cases cooling : cfg.installPerFPCooldownSec > 0
    · rw [if_pos cooling, if_pos cooling, if_pos cooling]
      have still : 0 < cfg.installPerFPCooldownSec * second := Int.mul_pos cooling (by decide)
      by_cases capped : cfg.installPerFPDaily > 0
      · simp only [fpCap, if_pos capped]
        split <;> omega
      · simp only [fpCap, if_neg capped]
        split <;> omega
    · have capped : cfg.installPerFPDaily > 0 := armed.resolve_right cooling
      rw [if_neg cooling, if_neg cooling, if_neg cooling, fpCap, if_pos capped]
      omega

theorem fpGate_armed (armed : Armed cfg) (nonempty : fp ≠ "") (now : ℤ) :
    fpGate env cfg fp now =
      ⟨true, env.hashFingerprint fp, env.windowDay now, fpCap cfg, fpCutoff cfg now⟩ := by
  unfold fpGate
  rw [if_neg]
  rintro (⟨noCap, noCooldown⟩ | empty)
  · rcases armed with capped | cooling <;> omega
  · exact nonempty empty

/-- With both halves off, the specification asks for nothing. -/
theorem unarmed_admits (admitted : List ℤ) (now : ℤ) (unarmed : ¬Armed cfg) :
    MayAdmit cfg admitted now ∧ Aligned cfg admitted now := by
  obtain ⟨noCap, noCooldown⟩ := not_or.mp unarmed
  refine ⟨⟨.inl (not_lt.mp noCap), .inl (not_lt.mp noCooldown)⟩, fun previous _ => ?_⟩
  rw [if_neg noCooldown]
  omega

theorem fpGate_unarmed (unarmed : ¬Armed cfg) (now : ℤ) :
    (fpGate env cfg fp now).enabled = false := by
  unfold fpGate
  rw [if_pos]
  left
  unfold Armed at unarmed
  omega

end Verdicts

/-! ## One call -/

section Call
variable {env} {cfg} {fp} {call : Call} {day : String} {admitted : List ℤ}

/-- What the gate answers to a call on the remembered day, and the row it leaves. -/
theorem bumpFPRate_remembers {db after : Database} {ok : Bool} {now : ℤ}
    (ran : bumpFPRate ⟨true, env.hashFingerprint fp, day, fpCap cfg, fpCutoff cfg now⟩ db =
      (.ok ok, after))
    (remembers : Remembers cfg (db.installFPRate.get? (env.hashFingerprint fp, day)) admitted) :
    (ok = true ↔ Admits cfg admitted now) ∧ (ok = true → Remembers cfg
      (after.installFPRate.get? (env.hashFingerprint fp, day)) (admitted ++ [now])) := by
  unfold Remembers at remembers ⊢
  cases last : admitted.getLast? with
  | none =>
    rw [last] at remembers
    obtain ⟨rfl, stored⟩ := bumpFPRate_first ran remembers
    have none : admitted = [] := List.getLast?_eq_none_iff.mp last
    refine ⟨iff_of_true rfl fun previous same => by simp [last] at same, fun _ => ?_⟩
    rw [stored, none]
    rfl
  | some previous =>
    rw [last] at remembers
    obtain ⟨verdict, stored⟩ := bumpFPRate_again ran remembers
    refine ⟨by simpa [Admits, last] using verdict, fun ok => ?_⟩
    rw [stored, if_pos ok, List.getLast?_concat, List.length_append]
    simp

/-- On a call for the fingerprint, the gate answers as its memory says. -/
theorem verdict_iff_admits {o : Observed} {reached after : Database} {ok : Bool}
    (armed : Armed cfg) (nonempty : fp ≠ "") (today : env.windowDay call.now = day)
    (recalls : Recalls env cfg fp day o)
    (addressed : passAddressGates (issueParams env cfg call) o.db = (.ok (), reached))
    (decided : verdict (fpGate env cfg fp call.now).enabled
      (bumpFPRate (fpGate env cfg fp call.now)) reached = (.ok ok, after)) :
    (ok = true ↔ Admits cfg o.admitted call.now) ∧ (ok = true → Remembers cfg
      (after.installFPRate.get? (env.hashFingerprint fp, day)) (o.admitted ++ [call.now])) := by
  rw [fpGate_armed env fp armed nonempty, today] at decided
  rw [Recalls, ← (passAddressGates_kept addressed).2] at recalls
  exact bumpFPRate_remembers decided recalls

/-- A call that admits no new install leaves the tables as they were. -/
theorem observe_old {o : Observed}
    (old : isNewInstall (register env cfg call o.db).1 = false) :
    observe env cfg fp o call = o := by
  have unchanged : (register env cfg call o.db).2 = o.db := by
    rcases issue_cases call.regenerated (issueParams env cfg call) o.db with
      ⟨id, _, recovered⟩ | ⟨_, same, _⟩ | ⟨_, _, _, id, _, _, _, _, issued⟩
    · exact congrArg Prod.snd recovered
    · exact same
    · simp [register, issued, isNewInstall] at old
  unfold observe
  dsimp only
  rw [old, unchanged]
  rfl

/-- A new install has passed all three gates under a fresh key, and then changed
no rate table. -/
theorem register_new {o : Observed}
    (new : isNewInstall (register env cfg call o.db).1 = true) :
    o.db.installs.idOf call.thumbprint = none ∧ ∃ reached gated,
      passAddressGates (issueParams env cfg call) o.db = (.ok (), reached) ∧
      verdict (fpGate env cfg call.req.fingerprint call.now).enabled
        (bumpFPRate (fpGate env cfg call.req.fingerprint call.now)) reached = (.ok true, gated) ∧
      (register env cfg call o.db).2.installFPRate = gated.installFPRate := by
  rcases issue_cases call.regenerated (issueParams env cfg call) o.db with
    ⟨id, _, recovered⟩ | ⟨_, _, refused⟩ | ⟨fresh, reached, gated, id, after, addressed, passed, stored, issued⟩
  · simp [register, recovered, isNewInstall] at new
  · cases answer : (register env cfg call o.db).1 with
    | error refusal => simp [answer, isNewInstall] at new
    | ok result => simp [answer, isNewInstall, refused result answer] at new
  · refine ⟨fresh, reached, gated, addressed, pass_ok.mp passed, ?_⟩
    have kept := keeps_insertFresh call.regenerated (issueParams env cfg call) gated
    rw [stored] at kept
    rw [register, issued]
    exact congrArg (fun tables => tables.2.2) kept

/-- Calls of other fingerprints do not touch the row of this one. -/
theorem verdict_other {reached gated : Database} (other : call.req.fingerprint ≠ fp)
    (distinct : env.hashFingerprint call.req.fingerprint = env.hashFingerprint fp →
      call.req.fingerprint = fp)
    (decided : verdict (fpGate env cfg call.req.fingerprint call.now).enabled
      (bumpFPRate (fpGate env cfg call.req.fingerprint call.now)) reached = (.ok true, gated)) :
    gated.installFPRate.get? (env.hashFingerprint fp, day) =
      reached.installFPRate.get? (env.hashFingerprint fp, day) := by
  unfold verdict at decided
  by_cases gate : Armed cfg ∧ call.req.fingerprint ≠ ""
  · rw [fpGate_armed env _ gate.1 gate.2] at decided
    exact bumpFPRate_other decided fun same => other (distinct same.symm)
  · have off : (fpGate env cfg call.req.fingerprint call.now).enabled = false := by
      by_cases armed : Armed cfg
      · have empty : call.req.fingerprint = "" := by
          by_contra nonempty
          exact gate ⟨armed, nonempty⟩
        simp [fpGate, empty]
      · exact fpGate_unarmed env _ armed _
    rw [off] at decided
    cases decided
    rfl

/-- One call keeps the memory of the day. -/
theorem recalls_observe {o : Observed} (armed : Armed cfg) (nonempty : fp ≠ "")
    (today : env.windowDay call.now = day)
    (distinct : env.hashFingerprint call.req.fingerprint = env.hashFingerprint fp →
      call.req.fingerprint = fp)
    (recalls : Recalls env cfg fp day o) : Recalls env cfg fp day (observe env cfg fp o call) := by
  cases new : isNewInstall (register env cfg call o.db).1 with
  | false =>
    rw [observe_old new]
    exact recalls
  | true =>
    obtain ⟨_, reached, gated, addressed, decided, table⟩ := register_new new
    unfold observe Recalls
    dsimp only
    rw [new, table, Bool.true_and]
    by_cases own : call.req.fingerprint = fp
    · rw [if_pos (decide_eq_true own)]
      rw [own] at decided
      exact (verdict_iff_admits armed nonempty today recalls addressed decided).2 rfl
    · rw [if_neg (by simpa using own), verdict_other own distinct decided,
        (passAddressGates_kept addressed).2]
      exact recalls

end Call

/-! ## Runs -/

/-- A call of the day, whose hashed fingerprint is told apart from this one. -/
def OnDay (day : String) (call : Call) : Prop :=
  env.windowDay call.now = day ∧
    (env.hashFingerprint call.req.fingerprint = env.hashFingerprint fp → call.req.fingerprint = fp)

/-- A call of a new key under the fingerprint is aligned. -/
def AlignedCall (o : Observed) (call : Call) : Prop :=
  call.req.fingerprint = fp → o.db.installs.idOf call.thumbprint = none →
    Aligned cfg o.admitted call.now

/-- What a day of calls leaves behind, from tables that hold no row of it yet. -/
def afterDay (start : Database) (calls : List Call) : Observed :=
  runSteps (observe env cfg fp) ⟨start, []⟩ calls

section Runs
variable {env} {cfg} {fp} {day : String}

theorem recalls_afterDay {start : Database} {calls : List Call} (armed : Armed cfg)
    (nonempty : fp ≠ "") (unused : start.installFPRate.get? (env.hashFingerprint fp, day) = none)
    (onDay : ∀ call ∈ calls, OnDay env fp day call) :
    Recalls env cfg fp day (afterDay env cfg fp start calls) :=
  runSteps_invariant_of
    (fun _ _ here recalls => recalls_observe armed nonempty here.1 here.2 recalls) unused onDay

/-- Any two admissions lie more than the cooldown apart. -/
def Spaced (cfg : Config) (o : Observed) : Prop :=
  o.admitted.Pairwise fun earlier later => earlier + cfg.installPerFPCooldownSec * second < later

def Disciplined (env : Environment) (cfg : Config) (fp day : String) (o : Observed) : Prop :=
  Recalls env cfg fp day o ∧ Spaced cfg o

/-- An admission that comes a cooldown after the last one comes a cooldown after
all of them. -/
theorem spaced_concat {cooldown now : ℤ} {admitted : List ℤ} (nonneg : 0 ≤ cooldown)
    (spaced : admitted.Pairwise fun earlier later => earlier + cooldown < later)
    (late : ∀ previous, admitted.getLast? = some previous → previous + cooldown < now) :
    (admitted ++ [now]).Pairwise fun earlier later => earlier + cooldown < later := by
  refine List.pairwise_append.mpr ⟨spaced, List.pairwise_singleton _ _, ?_⟩
  intro earlier member later single
  obtain rfl := List.mem_singleton.mp single
  cases last : admitted.getLast? with
  | none =>
    rw [List.getLast?_eq_none_iff.mp last] at member
    cases member
  | some previous =>
    have after := late previous last
    obtain ⟨init, rfl⟩ := List.getLast?_eq_some_iff.mp last
    rcases List.mem_append.mp member with before | final
    · have gap := (List.pairwise_append.mp spaced).2.2 earlier before previous
        (List.mem_singleton_self _)
      omega
    · obtain rfl := List.mem_singleton.mp final
      exact after

theorem spaced_observe {o : Observed} {call : Call} (nonempty : fp ≠ "")
    (cooling : cfg.installPerFPCooldownSec > 0) (today : env.windowDay call.now = day)
    (aligned : AlignedCall cfg fp o call) (recalls : Recalls env cfg fp day o)
    (spaced : Spaced cfg o) : Spaced cfg (observe env cfg fp o call) := by
  cases new : isNewInstall (register env cfg call o.db).1 with
  | false =>
    rw [observe_old new]
    exact spaced
  | true =>
    obtain ⟨fresh, reached, gated, addressed, decided, _⟩ := register_new new
    unfold observe Spaced
    dsimp only
    rw [new, Bool.true_and]
    by_cases own : call.req.fingerprint = fp
    · rw [if_pos (decide_eq_true own)]
      rw [own] at decided
      have admits := (verdict_iff_admits (.inr cooling) nonempty today recalls addressed decided).1.mp rfl
      have may := ((admits_iff_aligned (.inr cooling)).mpr (aligned own fresh)).mp admits
      have nonneg : 0 ≤ cfg.installPerFPCooldownSec * second :=
        Int.mul_nonneg cooling.le (by decide)
      exact spaced_concat nonneg spaced (may.2.resolve_left (not_le.mpr cooling))
    · rw [if_neg (by simpa using own)]
      exact spaced

end Runs

/-- **The fingerprint gate over a day.** After every run of calls on one day, a
new key that reaches the gate is admitted as specified exactly if its call is
aligned; and in every run whose calls are all aligned, with a cooldown no two
admissions come within it. -/
theorem fingerprint_gate (day : String) {start : Database} {calls : List Call} (nonempty : fp ≠ "")
    (unused : start.installFPRate.get? (env.hashFingerprint fp, day) = none)
    (onDay : ∀ call ∈ calls, OnDay env fp day call) :
    (∀ call reached after admitted, env.windowDay call.now = day → call.req.fingerprint = fp →
      (afterDay env cfg fp start calls).db.installs.idOf call.thumbprint = none →
      passAddressGates (issueParams env cfg call) (afterDay env cfg fp start calls).db =
        (.ok (), reached) →
      verdict (fpGate env cfg fp call.now).enabled (bumpFPRate (fpGate env cfg fp call.now))
        reached = (.ok admitted, after) →
      ((admitted = true ↔ MayAdmit cfg (afterDay env cfg fp start calls).admitted call.now) ↔
        Aligned cfg (afterDay env cfg fp start calls).admitted call.now) ∧
      ((register env cfg call (afterDay env cfg fp start calls).db).1 =
        .ok ⟨false, .fp, "", false⟩ ↔ admitted = false)) ∧
    (cfg.installPerFPCooldownSec > 0 →
      AllAlong (observe env cfg fp) (AlignedCall cfg fp) ⟨start, []⟩ calls →
      (afterDay env cfg fp start calls).admitted.Pairwise fun earlier later =>
        earlier + cfg.installPerFPCooldownSec * second < later) := by
  constructor
  · rintro call reached after admitted today rfl fresh addressed decided
    refine ⟨?_, issue_fp_verdict fresh addressed decided⟩
    by_cases armed : Armed cfg
    · have recalls := recalls_afterDay armed nonempty unused onDay
      rw [(verdict_iff_admits armed nonempty today recalls addressed decided).1]
      exact admits_iff_aligned armed
    · obtain ⟨may, aligned⟩ := unarmed_admits
        (afterDay env cfg call.req.fingerprint start calls).admitted call.now armed
      rw [fpGate_unarmed env call.req.fingerprint armed] at decided
      cases decided
      exact iff_of_true (iff_of_true rfl may) aligned
  · intro cooling aligned
    have kept : Disciplined env cfg fp day (afterDay env cfg fp start calls) :=
      runSteps_invariant_along
        (fun o call here known => ⟨recalls_observe (.inr cooling) nonempty here.2.1 here.2.2 known.1,
          spaced_observe nonempty cooling here.2.1 here.1 known.1 known.2⟩)
        ⟨unused, List.Pairwise.nil⟩ (aligned.and onDay)
    exact kept.2

/-! ## Two admissions inside one cooldown -/

section Sample

/-- Ten minutes of cooldown, nothing else. -/
def cooldownOnly : Config where
  installPerIPHour := 0
  installGlobalDailyCap := 0
  installPerFPDaily := 0
  installPerFPCooldownSec := 600
  monthlyQuota := 5000
  perIPHour_bounds := by decide
  globalDailyCap_bounds := by decide
  perFPDaily_bounds := by decide
  perFPCooldown_bounds := by decide

/-- The hash of the one fingerprint, and the window keys of 2026-06-20 in UTC. -/
def sampleDay : Environment where
  hashFingerprint fp :=
    if fp = "dave" then "61ea0803f8853523b777d414ace3130cd4d3f92de2cd7ff8695c337d79c2eeee" else ""
  windowDay now := if now / dayLength = 20624 then "2026-06-20" else ""
  windowHour now := if now / (60 * minute) = 494986 then "2026-06-20T10" else ""
  nextMonthReset _ := unix 1782864000

/-- A new key of that fingerprint, so many seconds after ten o'clock. -/
def newKey (thumbprint : String) (seconds : ℤ) : Call where
  req := ⟨"dave", ""⟩
  publicKey := List.replicate 32 1
  thumbprint := thumbprint
  ipKey := "ipk"
  now := unix (1781949600 + seconds)
  installID := "ins_" ++ thumbprint
  regenerated := "ins_" ++ thumbprint ++ "2"

/-- Every such key belongs to the one fingerprint and the one day. -/
theorem newKey_onDay (thumbprint : String) (seconds : ℤ) (lower : 0 ≤ seconds)
    (upper : seconds < 3600) :
    OnDay sampleDay "dave" "2026-06-20" (newKey thumbprint seconds) := by
  refine ⟨?_, fun _ => rfl⟩
  have today : (newKey thumbprint seconds).now / dayLength = 20624 := by
    simp only [newKey, unix, dayLength, minute, second]
    omega
  simp only [sampleDay, today, if_pos]

/-- A second new key is admitted a second after the first, well inside the
cooldown. -/
theorem admitted_inside_cooldown :
    (∀ call ∈ [newKey "key_a" 0, newKey "key_b" 1], OnDay sampleDay "dave" "2026-06-20" call) ∧
      (afterDay sampleDay cooldownOnly "dave" .empty [newKey "key_a" 0]).admitted =
        [unix 1781949600] ∧
      ¬MayAdmit cooldownOnly [unix 1781949600] (newKey "key_b" 1).now ∧
      (afterDay sampleDay cooldownOnly "dave" .empty [newKey "key_a" 0, newKey "key_b" 1]).admitted =
        [unix 1781949600, unix 1781949601] := by
  refine ⟨?_, by decide +kernel, ?_, by decide +kernel⟩
  · simp only [List.forall_mem_cons, List.not_mem_nil, false_imp_iff, implies_true, and_true]
    exact ⟨newKey_onDay _ 0 (by decide) (by decide), newKey_onDay _ 1 (by decide) (by decide)⟩
  · rintro ⟨_, off | apart⟩
    · exact absurd off (by decide)
    · exact absurd (apart (unix 1781949600) rfl) (by decide +kernel)

/-- A key that waits for the end of the cooldown is admitted, and the two are
apart. -/
theorem fingerprint_gate_after_cooldown :
    (afterDay sampleDay cooldownOnly "dave" .empty
      [newKey "key_a" 0, newKey "key_c" 601]).admitted.Pairwise fun earlier later =>
        earlier + cooldownOnly.installPerFPCooldownSec * second < later := by
  refine (fingerprint_gate sampleDay cooldownOnly "dave" "2026-06-20" (by decide) rfl ?_).2 (by decide)
    ⟨fun _ _ previous last => ?_, fun _ _ previous last => ?_, trivial⟩
  · simp only [List.forall_mem_cons, List.not_mem_nil, false_imp_iff, implies_true, and_true]
    exact ⟨newKey_onDay _ 0 (by decide) (by decide), newKey_onDay _ 601 (by decide) (by decide)⟩
  · cases last
  · have first : (observe sampleDay cooldownOnly "dave" ⟨.empty, []⟩ (newKey "key_a" 0)).admitted =
        [unix 1781949600] := by decide +kernel
    rw [first] at last ⊢
    cases last
    rw [if_pos (by decide), if_pos (by decide)]
    decide +kernel

end Sample

end AnselmGateway.FingerprintGate
