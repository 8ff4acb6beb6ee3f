import AnselmGateway.Foundation.Run
import AnselmGateway.Install
import AnselmGateway.InstallStoreSemantics

/-! What a run of issuances leaves in the install tables: one id for each key,
never another, and in every window still stored the number of new installs that
were charged to it. -/
namespace AnselmGateway.InstallAccounting
open Foundation InstallStore InstallStoreSemantics

/-! ## What a gate charges -/

/-- The window an issuance is charged to at the per-IP gate, and the cap. -/
def ipCharge (p : IssueParams) : Option ((String × String) × ℤ) :=
  if p.ipGate.enabled then some ((p.ipGate.key, p.ipGate.windowHour), p.ipGate.max) else none

/-- The same at the global gate. -/
def globalCharge (p : IssueParams) : Option (String × ℤ) :=
  if p.globalGate.enabled then some (p.globalGate.windowDay, p.globalGate.cap) else none

/-- The same at the fingerprint gate. -/
def fpCharge (p : IssueParams) : Option ((String × String) × ℤ) :=
  if p.fpGate.enabled then some ((p.fpGate.fpSHA256, p.fpGate.windowDay), p.fpGate.cap) else none

/-- The counts a database stores, by gate. -/
def ipCount (db : Database) (key : String × String) : Option ℤ := db.installIPRate.get? key
def globalCount (db : Database) (key : String) : Option ℤ := db.installGlobalRate.get? key
def fpCount (db : Database) (key : String × String) : Option ℤ :=
  (db.installFPRate.get? key).map FPRateRow.count

/-- What passing one gate does to the counts: nothing if it is disabled. -/
def Passed {κ ω : Type} [LT ω] (window : κ → ω) (before after : κ → Option ℤ) :
    Option (κ × ℤ) → Prop
  | none => after = before
  | some (key, cap) => Charged window before after key cap

/-! ## One issuance -/

section Step
variable {p : IssueParams} {db after reached gated : Database} {regenerated installID : String}

/-- The caller gives an enabled fingerprint gate a positive cap. -/
def Capped (p : IssueParams) : Prop := p.fpGate.enabled = true → 0 < p.fpGate.cap

/-- Registration always does. -/
theorem issueParams_capped (env : Install.Environment) (cfg : Install.Config)
    (call : Install.Call) : Capped (Install.issueParams env cfg call) := by
  intro enabled
  change (Install.fpGate env cfg call.req.fingerprint call.now).enabled = true at enabled
  change 0 < (Install.fpGate env cfg call.req.fingerprint call.now).cap
  unfold Install.fpGate at enabled ⊢
  split at enabled
  · cases enabled
  · rw [if_neg ‹_›]
    dsimp only [Install.fpCap]
    split
    · assumption
    · decide

theorem passed_of_verdict {κ ω : Type} [LT ω] {window : κ → ω} {count : Database → κ → Option ℤ}
    {enabled : Bool} {bump : StoreTx Bool} {charge : κ × ℤ}
    (charged : enabled = true → bump db = (.ok true, after) →
      Charged window (count db) (count after) charge.1 charge.2)
    (ran : verdict enabled bump db = (.ok true, after)) :
    Passed window (count db) (count after) (if enabled then some charge else none) := by
  unfold verdict at ran
  cases enabled with
  | false =>
    cases ran
    rfl
  | true => exact charged rfl ran

theorem passAddressGates_passed (ran : passAddressGates p db = (.ok (), reached)) :
    Passed Prod.snd (ipCount db) (ipCount reached) (ipCharge p) ∧
      Passed id (globalCount db) (globalCount reached) (globalCharge p) := by
  obtain ⟨_, middle, first, second⟩ := Tx.bind_ok.mp ran
  have ipKept : middle.installGlobalRate = db.installGlobalRate := by
    have kept : Tx.Keeps Database.installGlobalRate (pass p.ipGate.enabled .ip (bumpIPRate p.ipGate)) :=
      keeps_pass ((keeps_prune fun _ _ => rfl).bind fun _ => keeps_bumpWindow fun _ _ => rfl)
    have same := kept db
    rw [first] at same
    exact same
  have globalKept : reached.installIPRate = middle.installIPRate := by
    have kept : Tx.Keeps Database.installIPRate
        (pass p.globalGate.enabled .global (bumpGlobalRate p.globalGate)) :=
      keeps_pass ((keeps_prune fun _ _ => rfl).bind fun _ => keeps_bumpWindow fun _ _ => rfl)
    have same := kept middle
    rw [second] at same
    exact same
  constructor
  · have passed : Passed Prod.snd (ipCount db) (ipCount middle) (ipCharge p) :=
      passed_of_verdict (fun _ => bumpIPRate_charged) (pass_ok.mp first)
    unfold ipCount at passed ⊢
    rw [globalKept]
    exact passed
  · have passed : Passed id (globalCount middle) (globalCount reached) (globalCharge p) :=
      passed_of_verdict (fun _ => bumpGlobalRate_charged) (pass_ok.mp second)
    unfold globalCount at passed ⊢
    rw [← ipKept]
    exact passed

theorem passFPGate_passed (capped : Capped p) (ran : passFPGate p reached = (.ok (), gated)) :
    Passed Prod.snd (fpCount reached) (fpCount gated) (fpCharge p) :=
  passed_of_verdict (fun enabled => bumpFPRate_charged (capped enabled)) (pass_ok.mp ran)

/-- A new install: an id was inserted, not recovered. -/
def newInstall : Except Refusal IssueResult → Option String
  | .ok result => if result.admitted && !result.existing then some result.installID else none
  | .error _ => none

/-- A call that makes no new install leaves every table as it was. -/
theorem issue_old (old : newInstall (issue regenerated p db).1 = none) :
    (issue regenerated p db).2 = db := by
  rcases issue_cases regenerated p db with
    ⟨known, _, recovered⟩ | ⟨_, unchanged, _⟩ | ⟨_, _, _, made, _, _, _, _, issued⟩
  · exact congrArg Prod.snd recovered
  · exact unchanged
  · rw [issued] at old
    cases old

/-- A new install was unknown, took its id, and was charged at every gate it
passed. -/
theorem issue_new (capped : Capped p)
    (made : newInstall (issue regenerated p db).1 = some installID) :
    db.installs.idOf p.thumbprint = none ∧
      (∀ other, (issue regenerated p db).2.installs.idOf other =
        if other = p.thumbprint then some installID else db.installs.idOf other) ∧
      Passed Prod.snd (ipCount db) (ipCount (issue regenerated p db).2) (ipCharge p) ∧
      Passed id (globalCount db) (globalCount (issue regenerated p db).2) (globalCharge p) ∧
      Passed Prod.snd (fpCount db) (fpCount (issue regenerated p db).2) (fpCharge p) := by
  rcases issue_cases regenerated p db with
    ⟨known, _, recovered⟩ | ⟨_, _, refused⟩ |
      ⟨fresh, reached, gated, own, after, addressed, passed, inserted, issued⟩
  · rw [recovered] at made
    cases made
  · cases answer : (issue regenerated p db).1 with
    | error refusal =>
      rw [answer] at made
      cases made
    | ok result =>
      rw [answer, newInstall, refused result answer] at made
      cases made
  · rw [issued] at made ⊢
    obtain rfl := Option.some.inj made
    obtain ⟨ip, global⟩ := passAddressGates_passed addressed
    have fp := passFPGate_passed capped passed
    obtain ⟨sameInstalls, sameFP⟩ := passAddressGates_kept addressed
    -- The insert leaves the rate tables alone, the last gate all but its own.
    have kept := keeps_insertFresh regenerated p gated
    rw [inserted] at kept
    obtain ⟨keptIP, keptGlobal, keptFP⟩ :
        after.installIPRate = gated.installIPRate ∧
          after.installGlobalRate = gated.installGlobalRate ∧
          after.installFPRate = gated.installFPRate := by simpa using kept
    have gate : Tx.Keeps (fun db => (db.installs, db.installIPRate, db.installGlobalRate))
        (passFPGate p) :=
      keeps_pass ((keeps_prune fun _ _ => rfl).bind fun _ =>
        (keeps_exec fun _ _ => rfl).bind fun _ => Tx.keeps_pure _)
    have left := gate reached
    rw [passed] at left
    obtain ⟨gatedInstalls, gatedIP, gatedGlobal⟩ :
        gated.installs = reached.installs ∧ gated.installIPRate = reached.installIPRate ∧
          gated.installGlobalRate = reached.installGlobalRate := by simpa using left
    have stored := insertFresh_ok inserted
    rw [gatedInstalls, sameInstalls] at stored
    refine ⟨fresh, fun other => idOf_insert stored other, ?_, ?_, ?_⟩
    · have same : ipCount after = ipCount reached := by
        unfold ipCount
        rw [keptIP, gatedIP]
      rw [same]
      exact ip
    · have same : globalCount after = globalCount reached := by
        unfold globalCount
        rw [keptGlobal, gatedGlobal]
      rw [same]
      exact global
    · have same : fpCount after = fpCount gated := by
        unfold fpCount
        rw [keptFP]
      have start : fpCount reached = fpCount db := by
        unfold fpCount
        rw [sameFP]
      rw [same, ← start]
      exact fp

end Step

/-! ## Runs -/

/-- One issuance, with the id drawn again should the proposed one be taken. -/
structure Attempt where
  params : IssueParams
  regenerated : String

/-- The install tables, and the new installs of the run in order, each with the
id it was given. -/
structure Observed where
  db : Database
  issued : List (IssueParams × String)

/-- One issuance, watched. -/
def observe (o : Observed) (attempt : Attempt) : Observed :=
  let (answer, db) := issue attempt.regenerated attempt.params o.db
  match newInstall answer with
  | some installID => ⟨db, o.issued ++ [(attempt.params, installID)]⟩
  | none => ⟨db, o.issued⟩

/-- What a list of issuances leaves behind, from empty tables. -/
def afterAttempts (attempts : List Attempt) : Observed := runSteps observe ⟨.empty, []⟩ attempts

/-- At every gate that both have enabled, the window of the second is not before
that of the first. -/
def InOrder (earlier later : IssueParams) : Prop :=
  (earlier.ipGate.enabled = true → later.ipGate.enabled = true →
      earlier.ipGate.windowHour ≤ later.ipGate.windowHour) ∧
    (earlier.globalGate.enabled = true → later.globalGate.enabled = true →
      earlier.globalGate.windowDay ≤ later.globalGate.windowDay) ∧
    (earlier.fpGate.enabled = true → later.fpGate.enabled = true →
      earlier.fpGate.windowDay ≤ later.fpGate.windowDay)

/-- The charges of the new installs at one gate, in order. -/
def chargeLog {κ : Type} (charge : IssueParams → Option (κ × ℤ))
    (issued : List (IssueParams × String)) : List (κ × ℤ) :=
  issued.filterMap fun new => charge new.1

section Gate
variable {κ ω : Type} [DecidableEq κ] [LT ω] {window : κ → ω} {before after : κ → Option ℤ}
  {charge : IssueParams → Option (κ × ℤ)} {issued : List (IssueParams × String)} {p : IssueParams}
  {installID : String}

/-- One gate's counts over one more new install. -/
theorem tallied_issue (tallied : Tallied window before (chargeLog charge issued))
    (passed : Passed window before after (charge p))
    (ordered : ∀ new ∈ issued, ∀ early late, charge new.1 = some early → charge p = some late →
      ¬window late.1 < window early.1) :
    Tallied window after (chargeLog charge (issued ++ [(p, installID)])) := by
  unfold chargeLog
  rw [List.filterMap_append]
  cases now : charge p with
  | none =>
    rw [now] at passed
    obtain rfl : after = before := passed
    simpa [chargeLog, now] using tallied
  | some late =>
    rw [now] at passed
    have current (entry : κ × ℤ) (member : entry ∈ chargeLog charge issued) :
        ¬window late.1 < window entry.1 := by
      obtain ⟨new, held, early⟩ := List.mem_filterMap.mp member
      exact ordered new held entry late early now
    simpa [chargeLog, now] using tallied.charge passed current

end Gate

/-- What holds of the tables along a run. -/
structure Accounted (o : Observed) : Prop where
  named : ∀ new ∈ o.issued, o.db.installs.idOf new.1.thumbprint = some new.2
  ip : Tallied Prod.snd (ipCount o.db) (chargeLog ipCharge o.issued)
  global : Tallied id (globalCount o.db) (chargeLog globalCharge o.issued)
  fp : Tallied Prod.snd (fpCount o.db) (chargeLog fpCharge o.issued)

theorem accounted_empty : Accounted ⟨.empty, []⟩ where
  named _ member := absurd member List.not_mem_nil
  ip := tallied_nil fun _ => rfl
  global := tallied_nil fun _ => rfl
  fp := tallied_nil fun _ => rfl

section Watched
variable {o : Observed} {attempt : Attempt} {thumbprint installID : String}

theorem observe_old (old : newInstall (issue attempt.regenerated attempt.params o.db).1 = none) :
    observe o attempt = o := by
  have same := issue_old old
  unfold observe
  dsimp only
  rw [old, same]

theorem observe_new
    (made : newInstall (issue attempt.regenerated attempt.params o.db).1 = some installID) :
    observe o attempt = ⟨(issue attempt.regenerated attempt.params o.db).2,
      o.issued ++ [(attempt.params, installID)]⟩ := by
  unfold observe
  dsimp only
  rw [made]

/-- An id, once given, stays. -/
theorem idOf_observe (capped : Capped attempt.params)
    (known : o.db.installs.idOf thumbprint = some installID) :
    (observe o attempt).db.installs.idOf thumbprint = some installID := by
  cases made : newInstall (issue attempt.regenerated attempt.params o.db).1 with
  | none =>
    rw [observe_old made]
    exact known
  | some fresh =>
    obtain ⟨unknown, ids, _⟩ := issue_new capped made
    rw [observe_new made, ids, if_neg, known]
    rintro rfl
    rw [unknown] at known
    cases known

/-- One issuance keeps the accounts. -/
theorem accounted_observe (capped : Capped attempt.params)
    (ordered : ∀ new ∈ o.issued, InOrder new.1 attempt.params) (accounted : Accounted o) :
    Accounted (observe o attempt) := by
  cases made : newInstall (issue attempt.regenerated attempt.params o.db).1 with
  | none =>
    rw [observe_old made]
    exact accounted
  | some fresh =>
    obtain ⟨_, ids, ip, global, fp⟩ := issue_new capped made
    have stays := fun new member => idOf_observe capped (accounted.named new member)
    rw [observe_new made] at stays ⊢
    refine ⟨?_, tallied_issue accounted.ip ip ?_, tallied_issue accounted.global global ?_,
      tallied_issue accounted.fp fp ?_⟩
    · intro new member
      rcases List.mem_append.mp member with early | last
      · exact stays new early
      · obtain rfl := List.mem_singleton.mp last
        dsimp only
        rw [ids, if_pos rfl]
    · intro new member early late first second
      unfold ipCharge at first second
      split at first <;> cases first
      split at second <;> cases second
      exact String.not_lt.mpr ((ordered new member).1 ‹_› ‹_›)
    · intro new member early late first second
      unfold globalCharge at first second
      split at first <;> cases first
      split at second <;> cases second
      exact String.not_lt.mpr ((ordered new member).2.1 ‹_› ‹_›)
    · intro new member early late first second
      unfold fpCharge at first second
      split at first <;> cases first
      split at second <;> cases second
      exact String.not_lt.mpr ((ordered new member).2.2 ‹_› ‹_›)

end Watched

/-- What the stored counts of a gate must be: for each window, the new installs
charged to it, and never above the cap of the last of them. -/
def Counts {κ : Type} [DecidableEq κ] (stored : κ → Option ℤ)
    (charge : IssueParams → Option (κ × ℤ)) (issued : List (IssueParams × String)) : Prop :=
  ∀ key count, stored key = some count →
    count = charges (chargeLog charge issued) key ∧
      ∃ cap, lastCap (chargeLog charge issued) key = some cap ∧ count ≤ cap

section Runs
variable {attempts : List Attempt}

theorem accounted_afterAttempts
    (ordered : (attempts.map Attempt.params).Pairwise InOrder)
    (capped : ∀ attempt ∈ attempts, Capped attempt.params) :
    Accounted (afterAttempts attempts) := by
  have records (o : Observed) (attempt : Attempt) :
      ∀ earlier ∈ (observe o attempt).issued.map Prod.fst,
        earlier ∈ o.issued.map Prod.fst ∨ earlier = attempt.params := by
    intro earlier member
    cases made : newInstall (issue attempt.regenerated attempt.params o.db).1 with
    | none =>
      rw [observe_old made] at member
      exact .inl member
    | some fresh =>
      rw [observe_new made] at member
      simpa using member
  have along : AllAlong observe
      (fun o attempt => ∀ earlier ∈ o.issued.map Prod.fst, InOrder earlier attempt.params)
      ⟨.empty, []⟩ attempts :=
    allAlong_of_pairwise records ordered fun _ member =>
      absurd member List.not_mem_nil
  refine runSteps_invariant_along (fun o attempt here known => ?_) accounted_empty
    (along.and capped)
  exact accounted_observe here.2
    (fun new member => here.1 _ (List.mem_map.mpr ⟨new, member, rfl⟩)) known

theorem idOf_later {o : Observed} {thumbprint installID : String}
    (capped : ∀ attempt ∈ attempts, Capped attempt.params)
    (known : o.db.installs.idOf thumbprint = some installID) :
    (runSteps observe o attempts).db.installs.idOf thumbprint = some installID := by
  induction attempts generalizing o with
  | nil => exact known
  | cons attempt rest ih =>
    exact ih (fun other member => capped other (List.mem_cons_of_mem _ member))
      (idOf_observe (capped attempt List.mem_cons_self) known)

/-- A repeated thumbprint recovers its id and changes nothing. -/
theorem issue_repeated {db : Database} {p : IssueParams} {regenerated installID : String}
    (known : db.installs.idOf p.thumbprint = some installID) :
    issue regenerated p db = (.ok ⟨true, .none, installID, true⟩, db) := by
  rcases issue_cases regenerated p db with
    ⟨other, same, recovered⟩ | ⟨unknown, _, _⟩ | ⟨unknown, _, _, _, _, _, _, _, _⟩
  · rw [known] at same
    obtain rfl := Option.some.inj same
    exact recovered
  · rw [known] at unknown
    cases unknown
  · rw [known] at unknown
    cases unknown

/-- A call that is not admitted, or fails, changes nothing. -/
theorem issue_rejected {db : Database} {p : IssueParams} {regenerated : String}
    (rejected : ∀ result, (issue regenerated p db).1 = .ok result → result.admitted = false) :
    (issue regenerated p db).2 = db := by
  apply issue_old
  cases answer : (issue regenerated p db).1 with
  | error refusal => rfl
  | ok result => rw [newInstall, rejected result answer]; rfl

/-- **Issuance accounting.** After every run of issuances whose windows do not go
back: thumbprints and ids correspond one to one, for good; a repeated thumbprint
gets the id it was given first and changes nothing; every stored count is that of
the new installs charged to its window, within the cap of the last of them; and a
call that is turned away or fails changes nothing. -/
theorem install_accounting (attempts : List Attempt)
    (ordered : (attempts.map Attempt.params).Pairwise InOrder)
    (capped : ∀ attempt ∈ attempts, Capped attempt.params) :
    (∀ thumbprint other installID,
      (afterAttempts attempts).db.installs.idOf thumbprint = some installID →
      (afterAttempts attempts).db.installs.idOf other = some installID → thumbprint = other) ∧
    (∀ earlier later thumbprint installID, attempts = earlier ++ later →
      (afterAttempts earlier).db.installs.idOf thumbprint = some installID →
      (afterAttempts attempts).db.installs.idOf thumbprint = some installID) ∧
    (∀ new ∈ (afterAttempts attempts).issued, ∀ p regenerated, p.thumbprint = new.1.thumbprint →
      issue regenerated p (afterAttempts attempts).db =
        (.ok ⟨true, .none, new.2, true⟩, (afterAttempts attempts).db)) ∧
    Counts (ipCount (afterAttempts attempts).db) ipCharge (afterAttempts attempts).issued ∧
    Counts (globalCount (afterAttempts attempts).db) globalCharge (afterAttempts attempts).issued ∧
    Counts (fpCount (afterAttempts attempts).db) fpCharge (afterAttempts attempts).issued ∧
    (∀ p regenerated,
      (∀ result, (issue regenerated p (afterAttempts attempts).db).1 = .ok result →
        result.admitted = false) →
      (issue regenerated p (afterAttempts attempts).db).2 = (afterAttempts attempts).db) := by
  have accounted := accounted_afterAttempts ordered capped
  refine ⟨fun _ _ _ => idOf_injective, ?_, ?_, accounted.ip.exact, accounted.global.exact,
    accounted.fp.exact, fun _ _ => issue_rejected⟩
  · rintro earlier later thumbprint installID rfl known
    unfold afterAttempts
    rw [runSteps_append]
    exact idOf_later (fun attempt member => capped attempt (List.mem_append_right _ member)) known
  · intro new member p regenerated same
    apply issue_repeated
    rw [same]
    exact accounted.named new member

end Runs

/-! ## Two installs of one day -/

section Sample

/-- A device of one address, with every gate enabled. -/
def sampleAttempt (key : String) (hour : String) : Attempt where
  params := {
    installID := "ins_" ++ key
    publicKey := List.replicate 32 1
    thumbprint := key
    fingerprint := "dave"
    client := ""
    now := 0
    ipGate := ⟨true, "ipk", hour, 2⟩
    globalGate := ⟨true, "2026-06-20", 5⟩
    fpGate := ⟨true, "61ea0803", "2026-06-20", 1, 7⟩ }
  regenerated := "ins_" ++ key ++ "2"

/-- The second device is turned away at the fingerprint gate; the counts stand as
the first left them. -/
theorem install_accounting_turned_away :
    (afterAttempts [sampleAttempt "a" "2026-06-20T10", sampleAttempt "b" "2026-06-20T11"]).issued.map
        Prod.snd = ["ins_a"] ∧
      Counts (ipCount (afterAttempts
        [sampleAttempt "a" "2026-06-20T10", sampleAttempt "b" "2026-06-20T11"]).db) ipCharge
        (afterAttempts
          [sampleAttempt "a" "2026-06-20T10", sampleAttempt "b" "2026-06-20T11"]).issued := by
  refine ⟨by decide +kernel, (install_accounting _ ?_ ?_).2.2.2.1⟩
  · refine List.pairwise_cons.mpr ⟨?_, List.pairwise_singleton _ _⟩
    intro later member
    obtain rfl := List.mem_singleton.mp member
    exact ⟨fun _ _ => by decide, fun _ _ => by decide, fun _ _ => by decide⟩
  · intro attempt member _
    rcases List.mem_pair.mp member with rfl | rfl <;> decide

end Sample

end AnselmGateway.InstallAccounting
