import AnselmGateway.ConfigProvider

/-! The live configuration is the one a restart would load. Every key stores in a field of
its own and asks only what no override changes, so a replay of the last values saved under
each key gives what the batches have built up. -/
namespace AnselmGateway.HotConfiguration
open Foundation RuntimeConfig ConfigProvider

/-! ## Where each key stores -/

inductive Value where
  | text (content : String)
  | number (content : ℤ)

/-- The overridable fields, in the order of the registry. -/
def fields (c : Config) : List Value := [
  .text c.runtimeMode, .text c.publicModelID, .number c.globalMonthlySpendPUSD,
  .number c.monthlyQuota, .number c.maxTokensCap, .number c.inputTokenCap, .number c.maxMessages,
  .number c.maxMessageChars, .number c.maxMediaParts, .number c.maxMediaDecodedBytes,
  .number c.maxBodyBytes, .number c.nGlobalConcurrency, .number c.ratePerMin,
  .number c.dailySublimit, .number c.imageDailyLimit, .number c.voiceDailyLimit,
  .number c.voiceAccountCeiling, .number c.speechDailyLimit, .number c.videoDailyLimit,
  .number c.installPerIPHour, .number c.installGlobalDailyCap, .number c.installPerFPDaily,
  .number c.installPerFPCooldownSec, .text c.installPowMode, .number c.installPowDifficulty,
  .number c.tokenAnomalyRPM, .number c.tokenThrottleFactor, .number c.tokenThrottleCooldownSec,
  .number c.queueWait, .number c.upstreamHeaderTimeout, .number c.diskMinMB, .number c.diskMinPercent]

/-- Nothing else can differ between two configurations. -/
theorem fields_injective {c d : Config} (startup : c.toStartup = d.toStartup)
    (same : fields c = fields d) : c = d := by
  cases c
  cases d
  dsimp only at startup
  simp only [fields, List.cons.injEq, Value.text.injEq, Value.number.injEq, and_true] at same
  obtain ⟨rfl, rfl, rfl, rfl, rfl, rfl, rfl, rfl, rfl, rfl, rfl, rfl, rfl, rfl, rfl, rfl, rfl, rfl,
    rfl, rfl, rfl, rfl, rfl, rfl, rfl, rfl, rfl, rfl, rfl, rfl, rfl, rfl⟩ := same
  rw [startup]

/-- An override takes its text as a value, which the text and the startup part decide,
and stores it in one field. -/
structure Stores {α : Type} (apply : Config → String → Except ConfigError Config) (i : ℕ)
    (parse : Startup → String → Except ConfigError α) (put : α → Config → Config) (value : α → Value) :
    Prop where
  parsed : ∀ c raw, apply c raw = (parse c.toStartup raw).map fun a => put a c
  startup : ∀ a c, (put a c).toStartup = c.toStartup
  stored : ∀ a c, fields (put a c) = (fields c).set i (value a)

def StoresAt (apply : Config → String → Except ConfigError Config) (i : ℕ) : Prop :=
  ∃ (α : Type) (parse : Startup → String → Except ConfigError α) (put : α → Config → Config)
    (value : α → Value), Stores apply i parse put value

theorem stores_gatewayMode : StoresAt applyGatewayMode 0 := by
  refine ⟨String, fun _ raw => (validateRuntimeMode (trimSpace raw)).map fun _ => trimSpace raw,
    fun m c => { c with runtimeMode := m }, .text, ?_, fun _ _ => rfl, fun _ _ => rfl⟩
  intro c raw
  unfold applyGatewayMode
  dsimp only
  cases validateRuntimeMode (trimSpace raw) <;> rfl

theorem stores_publicModelID : StoresAt applyPublicModelID 1 := by
  refine ⟨String, fun _ raw => if trimSpace raw = "" then
      .error (.text "PUBLIC_MODEL_ID must not be empty") else .ok (trimSpace raw),
    fun id c => { c with publicModelID := id }, .text, ?_, fun _ _ => rfl, fun _ _ => rfl⟩
  intro c raw
  unfold applyPublicModelID
  dsimp only
  split <;> rfl

/-- The one key that looks at more than its text looks at a secret. -/
theorem stores_installPowMode : StoresAt applyInstallPowMode 23 := by
  refine ⟨String, fun startup raw => (validatePowMode (trimSpace raw)).bind fun _ =>
      (validatePowSecretPresent (trimSpace raw) startup.installPowSecret).map fun _ => trimSpace raw,
    fun m c => { c with installPowMode := m }, .text, ?_, fun _ _ => rfl, fun _ _ => rfl⟩
  intro c raw
  unfold applyInstallPowMode
  dsimp only
  cases validatePowMode (trimSpace raw) with
  | error failure => rfl
  | ok _ =>
    dsimp only [Except.bind]
    cases validatePowSecretPresent (trimSpace raw) c.installPowSecret <;> rfl

/-- A numeric row stores the number in its own unit. -/
theorem stores_bounded {key : String} {min max : ℤ} {set : ℤ → Config → Config} {i : ℕ}
    (unit : ℤ) (startup : ∀ n c, (set n c).toStartup = c.toStartup)
    (stored : ∀ n c, fields (set n c) = (fields c).set i (.number (n * unit))) :
    ∃ apply, (bounded key min max set).tier = .runtimeHot apply ∧ StoresAt apply i :=
  ⟨_, rfl, ℤ, fun _ raw => reqInt key raw min max, set, fun n => .number (n * unit),
    fun _ _ => rfl, startup, stored⟩

theorem stores_plain {key : String} {min max : ℤ} {set : ℤ → Config → Config} {i : ℕ}
    (startup : ∀ n c, (set n c).toStartup = c.toStartup)
    (stored : ∀ n c, fields (set n c) = (fields c).set i (.number n)) :
    ∃ apply, (bounded key min max set).tier = .runtimeHot apply ∧ StoresAt apply i :=
  stores_bounded 1 startup fun n c => by rw [Int.mul_one]; exact stored n c

/-- Each editable row stores in the field of its own number. -/
theorem runtimeSpecs_store : ∀ row ∈ runtimeSpecs.zipIdx, ∃ apply,
    row.1.tier = .runtimeHot apply ∧ StoresAt apply row.2 := by
  simp only [runtimeSpecs, List.zipIdx_cons, List.zipIdx_nil, List.forall_mem_cons, List.not_mem_nil,
    Nat.reduceAdd, IsEmpty.forall_iff, implies_true, and_true]
  refine ⟨⟨_, rfl, stores_gatewayMode⟩, ⟨_, rfl, stores_publicModelID⟩,
    stores_bounded 1000000 (fun _ _ => rfl) fun _ _ => rfl, ?_, ?_, ?_, ?_, ?_, ?_, ?_, ?_, ?_, ?_, ?_,
    ?_, ?_, ?_, ?_, ?_, ?_, ?_, ?_, ?_, ⟨_, rfl, stores_installPowMode⟩, ?_, ?_, ?_, ?_,
    stores_bounded millisecond (fun _ _ => rfl) fun _ _ => rfl,
    stores_bounded second (fun _ _ => rfl) fun _ _ => rfl, ?_, ?_⟩
  all_goals exact stores_plain (fun _ _ => rfl) fun _ _ => rfl

/-- What a key does to any configuration: nothing but an error, or a store in the field
that has its place in the registry. -/
theorem applyOne_stores (key : String) : (∀ c raw, ∃ failure, applyOne c key raw = .error failure) ∨
    ∃ i apply, (runtimeSpecs.map Spec.key)[i]? = some key ∧ StoresAt apply i ∧
      ∀ c raw, applyOne c key raw = apply c raw := by
  cases found : specs.find? fun spec => spec.key = key with
  | none => exact .inl fun c raw => ⟨_, by rw [applyOne, found]⟩
  | some spec =>
    obtain ⟨name, tier⟩ := spec
    cases tier with
    | startupHard => exact .inl fun c raw => ⟨_, by rw [applyOne, found]⟩
    | runtimeHot apply =>
      have named : name = key := by simpa using List.find?_some found
      have listed : (⟨name, .runtimeHot apply⟩ : Spec) ∈ runtimeSpecs := by
        rcases List.mem_append.mp (List.mem_of_find?_eq_some found) with hot | hard
        · exact hot
        · obtain ⟨_, _, same⟩ := List.mem_map.mp hard
          cases same
      obtain ⟨i, place⟩ := List.mem_iff_getElem?.mp listed
      obtain ⟨apply', tier, stores⟩ := runtimeSpecs_store (_, i) (List.mk_mem_zipIdx_iff_getElem?.mpr place)
      cases tier
      refine .inr ⟨i, apply, ?_, stores, fun c raw => by rw [applyOne, found]⟩
      rw [List.getElem?_map, place, Option.map_some, named]

section StoresAt
variable {apply : Config → String → Except ConfigError Config} {i : ℕ}

/-- An accepted text is accepted by every configuration of the same startup part, and is
stored as the same value. -/
theorem StoresAt.accepted (stores : StoresAt apply i) {c after : Config} {raw : String}
    (ran : apply c raw = .ok after) : ∃ value, ∀ d : Config, d.toStartup = c.toStartup →
      ∃ e, apply d raw = .ok e ∧ e.toStartup = c.toStartup ∧ fields e = (fields d).set i value := by
  obtain ⟨α, parse, put, value, stores⟩ := stores
  rw [stores.parsed] at ran
  cases taken : parse c.toStartup raw with
  | error failure =>
    rw [taken] at ran
    cases ran
  | ok a =>
    refine ⟨value a, fun d same => ⟨put a d, ?_, (stores.startup a d).trans same, stores.stored a d⟩⟩
    rw [stores.parsed, same, taken]
    rfl

/-- The one outcome of an accepted text. -/
theorem StoresAt.stored (stores : StoresAt apply i) {c after : Config} {raw : String}
    (ran : apply c raw = .ok after) :
    after.toStartup = c.toStartup ∧ ∃ value, fields after = (fields c).set i value := by
  obtain ⟨value, each⟩ := stores.accepted ran
  obtain ⟨_, again, startup, stored⟩ := each c rfl
  rw [ran] at again
  cases again
  exact ⟨startup, value, stored⟩

/-- A store leaves nothing of an earlier one in the same field. -/
theorem StoresAt.hides (stores : StoresAt apply i) {c after : Config} {raw : String}
    (ran : apply c raw = .ok after) (raw' : String) : apply after raw' = apply c raw' := by
  obtain ⟨startup, old, before⟩ := stores.stored ran
  obtain ⟨α, parse, put, value, stores⟩ := stores
  rw [stores.parsed, stores.parsed, startup]
  have forgets (a : α) : put a after = put a c := by
    apply fields_injective
    · rw [stores.startup, stores.startup, startup]
    · rw [stores.stored, stores.stored, before, List.set_set]
  simp only [forgets]

/-- Stores in two fields go past one another. -/
theorem StoresAt.past (stores : StoresAt apply i) {apply' : Config → String → Except ConfigError Config}
    {j : ℕ} (stores' : StoresAt apply' j) (apart : i ≠ j) {c left right : Config} {raw raw' : String}
    (ran : apply c raw = .ok left) (ran' : apply' c raw' = .ok right) :
    apply' left raw' = apply right raw := by
  obtain ⟨startup, _⟩ := stores.stored ran
  obtain ⟨startup', _⟩ := stores'.stored ran'
  obtain ⟨value, each⟩ := stores.accepted ran
  obtain ⟨value', each'⟩ := stores'.accepted ran'
  obtain ⟨_, first, _, stored⟩ := each c rfl
  obtain ⟨_, first', _, stored'⟩ := each' c rfl
  obtain ⟨one, second, startup₁, stored₁⟩ := each' left startup
  obtain ⟨other, second', startup₂, stored₂⟩ := each right startup'
  rw [ran] at first
  rw [ran'] at first'
  cases first
  cases first'
  have same : one = other := by
    apply fields_injective (startup₁.trans startup₂.symm)
    rw [stored₁, stored₂, stored, stored', List.set_comm _ _ apart]
  rw [second, second', same]

end StoresAt

/-- An accepted key has a field. -/
theorem applyOne_accepted {c d : Config} {key raw : String} (ran : applyOne c key raw = .ok d) :
    ∃ i apply, (runtimeSpecs.map Spec.key)[i]? = some key ∧ StoresAt apply i ∧
      ∀ c raw, applyOne c key raw = apply c raw := by
  rcases applyOne_stores key with refused | found
  · obtain ⟨failure, error⟩ := refused c raw
    rw [error] at ran
    cases ran
  · exact found

/-- An accepted override keeps the startup part. -/
theorem applyOne_startup {c d : Config} {key raw : String} (ran : applyOne c key raw = .ok d) :
    d.toStartup = c.toStartup := by
  obtain ⟨i, apply, _, stores, same⟩ := applyOne_accepted ran
  rw [same] at ran
  exact (stores.stored ran).1

/-- Whether a text is accepted under a key is up to the startup part. -/
theorem applyOne_steady {c d after : Config} {key raw : String} (startup : d.toStartup = c.toStartup)
    (ran : applyOne c key raw = .ok after) : ∃ after', applyOne d key raw = .ok after' := by
  obtain ⟨i, apply, _, stores, same⟩ := applyOne_accepted ran
  rw [same] at ran ⊢
  obtain ⟨_, each⟩ := stores.accepted ran
  obtain ⟨after', ran', _⟩ := each d startup
  exact ⟨after', ran'⟩

/-- The overrides are writes by key. -/
theorem keyed_applyOne : Keyed fun key raw c => applyOne c key raw where
  steady wrote :=
    have startup := applyOne_startup wrote
    ⟨fun ⟨_, ran⟩ => applyOne_steady startup.symm ran, fun ⟨_, ran⟩ => applyOne_steady startup ran⟩
  past apart wrote wrote' := by
    obtain ⟨i, apply, place, stores, same⟩ := applyOne_accepted wrote
    obtain ⟨j, apply', place', stores', same'⟩ := applyOne_accepted wrote'
    rw [same] at wrote ⊢
    rw [same'] at wrote' ⊢
    refine stores.past stores' (fun equal => apart ?_) wrote wrote'
    rw [equal, place'] at place
    cases place
    rfl
  hides {_ _ value' _ _} wrote := by
    obtain ⟨i, apply, _, stores, same⟩ := applyOne_accepted wrote
    rw [same] at wrote ⊢
    rw [same]
    exact stores.hides wrote value'

/-! ## Batches -/

theorem applyEach_startup {entries : List (String × String)} {c d : Config}
    (ran : applyEach entries c = .ok d) : d.toStartup = c.toStartup := by
  induction entries generalizing c with
  | nil =>
    cases ran
    rfl
  | cons entry rest ih =>
    obtain ⟨middle, wrote, onward⟩ := replayLog_cons.mp ran
    exact (ih onward).trans (applyOne_startup wrote)

/-- The order in which a batch is applied does not matter once it is accepted, and what
it leaves has passed the checks. -/
theorem applyOverrides_ok {base c : Config} {overrides : Overrides} :
    RuntimeConfig.applyOverrides base overrides = .ok c ↔
      applyEach overrides.entries base = .ok c ∧ c.validateSemantics = .ok () := by
  have sorted := List.perm_insertionSort (fun a b : String × String => a.1 ≤ b.1) overrides.entries
  have unique := (sorted.map Prod.fst).nodup_iff.mpr overrides.unique
  have any_order (final : Config) : applyEach (overrides.entries.insertionSort fun a b => a.1 ≤ b.1) base =
      .ok final ↔ applyEach overrides.entries base = .ok final :=
    ⟨keyed_applyOne.replayLog_perm sorted unique, keyed_applyOne.replayLog_perm sorted.symm overrides.unique⟩
  unfold RuntimeConfig.applyOverrides
  cases ran : applyEach (overrides.entries.insertionSort fun a b => a.1 ≤ b.1) base with
  | error failure =>
    constructor
    · intro done
      cases done
    · rintro ⟨applied, _⟩
      rw [(any_order c).mpr applied] at ran
      cases ran
  | ok next =>
    have applied := (any_order next).mp ran
    change (next.validateSemantics >>= fun _ => pure next) = Except.ok c ↔ _
    cases checked : next.validateSemantics with
    | error failure =>
      constructor
      · intro done
        cases done
      · rintro ⟨again, valid⟩
        rw [applied] at again
        cases again
        rw [checked] at valid
        cases valid
    | ok _ =>
      rw [applied]
      constructor
      · intro done
        cases done
        exact ⟨rfl, checked⟩
      · rintro ⟨same, _⟩
        cases same
        rfl

/-! ## What is saved -/

/-- What is saved under a key. -/
def saved (settings : Settings) (key : String) : Option String := (settings.get? key).map Setting.value

theorem mem_loadAll {settings : Settings} {key value : String} :
    (key, value) ∈ (loadAll settings).entries ↔ saved settings key = some value := by
  simp only [loadAll, List.mem_map, saved, Option.map_eq_some_iff, Table.get?_eq_some, Prod.mk.injEq]
  constructor
  · rintro ⟨⟨_, setting⟩, held, rfl, rfl⟩
    exact ⟨setting, held, rfl⟩
  · rintro ⟨setting, held, rfl⟩
    exact ⟨(key, setting), held, rfl, rfl⟩

theorem upsert_ok {fails : Bool} {now : ℤ} {key value : String} {settings after : Settings}
    (ran : upsert fails now key value settings = (.ok (), after)) (other : String) :
    saved after other = if other = key then some value else saved settings other := by
  unfold upsert at ran
  split at ran
  · cases ran
  · split at ran
    · cases ran
    · rename_i wrote
      cases ran
      unfold saved
      cases held : settings.get? key with
      | none =>
        rw [(Table.upsertWhere_free held wrote).2]
        split <;> rfl
      | some setting =>
        rw [(Table.upsertWhere_taken held wrote).2]
        simp only [and_true]
        split <;> rfl

/-- Once all are stored, each key of the batch has its value and every other key what it
had. -/
theorem upsertEach_ok {faults : Faults} {now : ℤ} {i : ℕ} {entries : List (String × String)}
    {settings after : Settings} (unique : (entries.map Prod.fst).Nodup)
    (ran : upsertEach faults now i entries settings = (.ok (), after)) :
    (∀ key value, (key, value) ∈ entries → saved after key = some value) ∧
      ∀ key, key ∉ entries.map Prod.fst → saved after key = saved settings key := by
  induction entries generalizing i settings with
  | nil =>
    cases ran
    exact ⟨nofun, fun _ _ => rfl⟩
  | cons entry rest ih =>
    obtain ⟨key, value⟩ := entry
    obtain ⟨_, middle, wrote, onward⟩ := Tx.bind_ok.mp ran
    obtain ⟨fresh, unique'⟩ := List.nodup_cons.mp unique
    obtain ⟨each, kept⟩ := ih unique' onward
    constructor
    · intro other value' member
      rcases List.mem_cons.mp member with here | later
      · cases here
        rw [kept key fresh, upsert_ok wrote, if_pos rfl]
      · exact each other value' later
    · intro other apart
      rw [List.map_cons, List.mem_cons, not_or] at apart
      rw [kept other apart.2, upsert_ok wrote, if_neg apart.1]

/-- All of a batch is saved, or nothing is. -/
theorem persistAll_ok {faults : Faults} {now : ℤ} {overlay : Overrides} {settings after : Settings}
    (ran : persistAll faults now overlay settings = (.ok (), after)) :
    (loadAll after).entries.Perm (overwrite (loadAll settings).entries overlay.entries) := by
  have stored : (∀ key value, (key, value) ∈ overlay.entries → saved after key = some value) ∧
      ∀ key, key ∉ overlay.entries.map Prod.fst → saved after key = saved settings key := by
    unfold persistAll at ran
    split at ran
    · rename_i empty
      cases ran
      rw [empty]
      exact ⟨nofun, fun _ _ => rfl⟩
    · split at ran
      · cases ran
      · obtain ⟨_, middle, wrote, committed⟩ := Tx.bind_ok.mp (Tx.transaction_ok.mp ran)
        obtain ⟨_, rfl⟩ := Tx.ofExcept_ok.mp committed
        exact upsertEach_ok overlay.unique wrote
  refine (List.perm_ext_iff_of_nodup (loadAll after).unique.of_map
    (nodup_overwrite (loadAll settings).unique.of_map overlay.unique.of_map)).mpr fun entry => ?_
  obtain ⟨key, value⟩ := entry
  rw [mem_overwrite, mem_loadAll, mem_loadAll]
  by_cases written : key ∈ overlay.entries.map Prod.fst
  · obtain ⟨⟨_, value'⟩, member, rfl⟩ := List.mem_map.mp written
    have now := stored.1 _ _ member
    constructor
    · intro here
      rw [now] at here
      cases here
      exact .inl member
    · rintro (here | ⟨_, apart⟩)
      · exact stored.1 _ _ here
      · exact absurd written apart
  · rw [stored.2 key written]
    constructor
    · exact fun here => .inr ⟨here, written⟩
    · rintro (here | ⟨here, _⟩)
      · exact absurd (List.mem_map.mpr ⟨_, here, rfl⟩) written
      · exact here

theorem persistAll_failed {faults : Faults} {now : ℤ} {overlay : Overrides} {settings after : Settings}
    {cause : SettingsError} (ran : persistAll faults now overlay settings = (.error cause, after)) :
    after = settings := by
  unfold persistAll at ran
  split at ran
  · cases ran
  · split at ran
    · cases ran
      rfl
    · exact Tx.transaction_failure ran

/-! ## Runs -/

/-- The live configuration is what the overlay makes of the base, and is as valid. -/
structure Reloads (base : Config) (calls : List Call) (s : State) : Prop where
  replayed : applyEach (loadAll s.settings).entries base = .ok s.cur.configured
  valid : s.cur.configured.validateSemantics = .ok ()
  masked : s.cur.effective = s.cur.configured.effectiveLimits
  /-- Nothing is saved but what some call asked for. -/
  asked : ∀ entry ∈ (loadAll s.settings).entries, ∃ call ∈ calls, entry ∈ call.overrides.entries

/-- A call that fails changes nothing. -/
theorem applyOverrides_failed {call : Call} {s s' : State} {failure : ProviderError}
    (ran : ConfigProvider.applyOverrides call s = (.error failure, s')) : s' = s := by
  unfold ConfigProvider.applyOverrides at ran
  split at ran
  · cases ran
  · split at ran
    · cases ran
      rfl
    · split at ran
      · rename_i persisted
        cases ran
        rw [persistAll_failed persisted]
      · cases ran

theorem reloads_step {base : Config} {calls : List Call} {s : State} (call : Call)
    (reloads : Reloads base calls s) :
    Reloads base (calls ++ [call]) (ConfigProvider.applyOverrides call s).2 := by
  have still : Reloads base (calls ++ [call]) s := { reloads with
    asked := fun entry saved =>
      have ⟨earlier, listed, asked⟩ := reloads.asked entry saved
      ⟨earlier, List.mem_append_left _ listed, asked⟩ }
  unfold ConfigProvider.applyOverrides
  split
  · exact still
  · split
    · exact still
    · rename_i next applied
      split
      · rename_i persisted
        rw [persistAll_failed persisted]
        exact still
      · rename_i settings persisted
        obtain ⟨batch, valid⟩ := applyOverrides_ok.mp applied
        have perm := persistAll_ok persisted
        refine ⟨?_, valid, rfl, fun entry saved => ?_⟩
        · have last := keyed_applyOne.replayLog_overwrite reloads.replayed batch
          have unique := (perm.map Prod.fst).nodup_iff.mp (loadAll settings).unique
          exact keyed_applyOne.replayLog_perm perm.symm unique last
        · rcases mem_overwrite.mp (perm.mem_iff.mp saved) with now | ⟨earlier, _⟩
          · exact ⟨call, List.mem_append_right _ (List.mem_singleton_self _), now⟩
          · exact still.asked entry earlier

theorem reloads_after (base : Config) (valid : base.validateSemantics = .ok ()) (calls : List Call) :
    Reloads base calls (after base calls) := by
  induction calls using List.reverseRecOn with
  | nil => exact ⟨rfl, valid, rfl, nofun⟩
  | append_singleton calls call ih =>
    rw [after, runSteps_append]
    exact reloads_step call ih

/-- **A restart changes nothing**: after any calls, from any valid base, what is saved loads
into exactly the live configuration. That one is valid and has the secrets and the startup
part of the base, only its view is masked, nothing is saved that no call asked for, and a
call that fails leaves everything as it was. -/
theorem restart_changes_nothing (base : Config) (valid : base.validateSemantics = .ok ())
    (calls : List Call) :
    let s := after base calls
    loadWithOverlay base (.ok (loadAll s.settings)) = .ok s.cur.configured ∧
      s.cur.configured.validateSemantics = .ok () ∧
      s.cur.configured.toStartup = base.toStartup ∧
      s.cur.effective = s.cur.configured.effectiveLimits ∧
      (∀ entry ∈ (loadAll s.settings).entries, ∃ call ∈ calls, entry ∈ call.overrides.entries) ∧
      ∀ call failure s', ConfigProvider.applyOverrides call s = (.error failure, s') → s' = s := by
  intro s
  have reloads : Reloads base calls s := reloads_after base valid calls
  refine ⟨?_, reloads.valid, applyEach_startup reloads.replayed, reloads.masked, reloads.asked,
    fun _ _ _ => applyOverrides_failed⟩
  dsimp only [loadWithOverlay]
  split
  · rename_i empty
    have replayed := reloads.replayed
    rw [empty] at replayed
    exact congrArg Except.ok (Except.ok.inj replayed)
  · rw [applyOverrides_ok.mpr ⟨reloads.replayed, reloads.valid⟩]

/-- A deployment that serves chat only, in debug mode. -/
def chatOnly : Config where
  qwenAPIKeys := ["key"]
  qwenBaseURL := "https://example.invalid/compatible-mode/v1"
  multimodalUpstreamModel := "qwen3.7-plus"
  installPowSecret := []
  installPowSecretSource := "disabled"
  goMemLimitMiB := 0
  sqliteCacheKiB := 8192
  sqliteMmapBytes := 0
  sqliteAutockptPage := 1000
  readPoolMaxConns := 4
  memBudgetMiB := 1024
  memSafetyMarginMiB := 128
  dashScopeNativeBase := ""
  imageEnabled := false
  imageUpstreamModel := ""
  speechEnabled := false
  ttsUpstreamModel := ""
  ttsDefaultVoice := ""
  videoEnabled := false
  videoUpstreamModel := ""
  videoI2VUpstreamModel := ""
  videoHandleKey := []
  mediaEnabled := false
  mediaStagingRoot := ""
  mediaSigningSecret := []
  mediaSigningSecretSource := "disabled"
  mediaUploadMaxBytes := 0
  mediaChunkMaxBytes := 0
  mediaUploadTTL := 0
  mediaLeaseTTL := 0
  mediaFetchDomain := ""
  resetTZ := "UTC"
  listenAddr := "127.0.0.1:8080"
  adminAddr := "127.0.0.1:9090"
  dashboardAddr := "127.0.0.1:9091"
  logLevel := "info"
  dbPath := "gateway.db"
  runtimeMode := "debug"
  publicModelID := "anselm-auto"
  globalMonthlySpendPUSD := 100000000000000
  monthlyQuota := 100
  maxTokensCap := 8192
  inputTokenCap := 0
  maxMessages := 200
  maxMessageChars := 100000
  maxMediaParts := 8
  maxMediaDecodedBytes := 3145728
  maxBodyBytes := 4194304
  nGlobalConcurrency := 64
  ratePerMin := 20
  dailySublimit := 0
  imageDailyLimit := 10
  voiceDailyLimit := 1
  voiceAccountCeiling := 0
  speechDailyLimit := 0
  videoDailyLimit := 0
  installPerIPHour := 10
  installGlobalDailyCap := 0
  installPerFPDaily := 0
  installPerFPCooldownSec := 0
  installPowMode := "off"
  installPowDifficulty := 20
  tokenAnomalyRPM := 0
  tokenThrottleFactor := 2
  tokenThrottleCooldownSec := 60
  queueWait := 0
  upstreamHeaderTimeout := 30000000000
  diskMinMB := 512
  diskMinPercent := 0

/-- Two batches over one key, and between them one that is refused and one that the
database fails. -/
def edits : List Call := [
  ⟨⟨[("RATE_PER_MIN", " 30 "), ("MONTHLY_QUOTA", "500")], by decide⟩, 1, {}⟩,
  ⟨⟨[("MONTHLY_QUOTA", "600"), ("IMAGE_ENABLED", "true")], by decide⟩, 2, {}⟩,
  ⟨⟨[("MONTHLY_QUOTA", "700"), ("RATE_PER_MIN", "0")], by decide⟩, 3, { statement := fun i => i = 1 }⟩,
  ⟨⟨[("MONTHLY_QUOTA", "800")], by decide⟩, 4, {}⟩]

/-- The edits are live and saved; the mask of debug mode is neither. -/
theorem restart_changes_nothing_edits : chatOnly.validateSemantics = .ok () ∧
    (after chatOnly edits).cur.configured = { chatOnly with ratePerMin := 30, monthlyQuota := 800 } ∧
    (after chatOnly edits).cur.effective.ratePerMin = 0 ∧
    loadWithOverlay chatOnly (.ok (loadAll (after chatOnly edits).settings)) =
      .ok (after chatOnly edits).cur.configured := by
  have valid : chatOnly.validateSemantics = .ok () := by decide +kernel
  exact ⟨valid, by decide +kernel, by decide +kernel, (restart_changes_nothing chatOnly valid edits).1⟩

end AnselmGateway.HotConfiguration
