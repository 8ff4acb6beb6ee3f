import AnselmGateway.Voice

/-! What one turn of a call can do to the voices, recorded and registered. Whatever
the call, a turn is one of seven effects, and every invariant of a run is derived
from this. -/
namespace AnselmGateway.VoiceSemantics
open Foundation VoiceStore Voice

/-! ## What a call in flight holds -/

/-- The registration an enrollment still has to account for. -/
def held : Proc → Option String
  | .enrollSettle _ _ upstreamID | .enrollAwait _ upstreamID | .enrollRevoke _ upstreamID _
  | .enrollCreate _ upstreamID | .enrollUndo upstreamID _ => some upstreamID
  | _ => none

/-- The registration an enrollment has not tried to record yet. -/
def unrecorded : Proc → Option String
  | .enrollUndo _ _ => none
  | proc => held proc

/-- The voice a deletion has found. -/
def target : Proc → Option Deletion
  | .deleteUpstream d | .deleteLookup d | .deleteRow d => some d
  | _ => none

/-- The voice whose registration a deletion has seen gone. -/
def cleared : Proc → Option Deletion
  | .deleteLookup d | .deleteRow d => some d
  | _ => none

theorem held_of_unrecorded {proc : Proc} {upstreamID : String}
    (holds : unrecorded proc = some upstreamID) : held proc = some upstreamID := by
  cases proc with
  | enrollUndo => cases holds
  | _ => exact holds

theorem target_of_cleared {proc : Proc} {d : Deletion} (clear : cleared proc = some d) :
    target proc = some d := by
  cases proc with
  | deleteLookup => exact clear
  | deleteRow => exact clear
  | _ => cases clear

/-- The registrations reported as orphaned. -/
def orphaned (log : List Signal) : List String :=
  log.filterMap fun
    | .voiceOrphaned upstreamID => some upstreamID
    | _ => none

@[simp] theorem orphaned_append (log more : List Signal) :
    orphaned (log ++ more) = orphaned log ++ orphaned more := List.filterMap_append

/-- What the wallet and the other signals have no part in. -/
structure Books where
  voices : Voices
  provider : Provider
  orphaned : List String
  drawn : List String

def books (world : World) : Books :=
  ⟨world.voices, world.provider, orphaned world.log, world.drawn⟩

/-! ## Effects -/

/-- The effects a turn can have. -/
inductive Effect (turn : Turn) (world : World) (proc : Proc) (r : Result) : Prop
  /-- Nothing happens to any voice. -/
  | quiet (same : books r.world = books world) (holds : held r.proc = held proc)
      (unrecorded' : unrecorded r.proc = unrecorded proc)
      (targets : ∀ d, target r.proc = some d → target proc = some d)
      (clears : ∀ d, cleared r.proc = some d → cleared proc = some d)
  /-- The provider has registered a voice. -/
  | registered (c : Enrollment) (res : Quota.Reservation) (url : FetchURL) (upstreamID : String)
      (by_ : proc = .enrollUpstream c res url) (answer : turn.enrolled = .value upstreamID)
      (next : r.proc = .enrollSettle c res upstreamID)
      (world' : r.world = { world with provider := { world.provider with
        registered := world.provider.registered ++ [upstreamID] } })
  /-- A voice is recorded; the call may yet be told that it was not. -/
  | recorded (c : Enrollment) (upstreamID : String) (voices : Voices)
      (by_ : proc = .enrollCreate c upstreamID)
      (next : r.proc = .done ∨ r.proc = .enrollUndo upstreamID .failed)
      (taken : turn.outcome ≠ .refused) (stored : createVoice c.installID ⟨turn.voiceID, c.name, upstreamID, turn.now⟩ world.voices =
        .ok voices)
      (world' : r.world = { world with voices := voices, drawn := world.drawn ++ [turn.voiceID] })
  /-- It is not, and the registration has to be undone. -/
  | refused (c : Enrollment) (upstreamID : String) (error : VoiceError)
      (by_ : proc = .enrollCreate c upstreamID) (next : r.proc = .enrollUndo upstreamID error)
      (world' : r.world = { world with drawn := world.drawn ++ [turn.voiceID] })
  /-- The registration is undone, or reported. -/
  | undone (upstreamID : String) (error : VoiceError) (by_ : proc = .enrollUndo upstreamID error)
      (next : r.proc = .done) (voices : r.world.voices = world.voices)
      (drawn : r.world.drawn = world.drawn)
      (registered : r.world.provider.registered = world.provider.registered)
      (absent : r.world.provider.absent = world.provider.absent)
      (ends : (r.world.provider.deleted = world.provider.deleted ++ [upstreamID] ∧
          r.world.log = world.log) ∨
        (r.world.provider.deleted = world.provider.deleted ∧
          r.world.log = world.log ++ [.voiceOrphaned upstreamID]))
  /-- A deletion has found its voice. -/
  | found (installID id : String) (row : VoiceRow) (by_ : proc = .deleteList installID id)
      (held : world.voices.table.get? id = some row) (owner : row.installID = installID)
      (next : r.proc = .deleteUpstream ⟨installID, id, row.upstreamID⟩) (same : r.world = world)
  /-- Its registration is gone. -/
  | withdrawn (d : Deletion) (by_ : proc = .deleteUpstream d) (next : r.proc = .deleteLookup d)
      (ends : r.world = { world with provider := { world.provider with
            deleted := world.provider.deleted ++ [d.upstreamID] } } ∨
        r.world = { world with provider := { world.provider with
            absent := world.provider.absent ++ [d.upstreamID] } })
  /-- So is its row. -/
  | removed (d : Deletion) (by_ : proc = .deleteRow d) (next : r.proc = .done)
      (world' : r.world = { world with voices := VoiceStore.deleteRow d.installID d.id world.voices })

section Steps
variable {turn : Turn} {world : World} {proc : Proc}

/-- A call that ends without having held anything has done nothing to a voice. -/
theorem quiet_end {r : Result} (same : books r.world = books world) (next : r.proc = .done)
    (empty : held proc = none) : Effect turn world proc r := by
  refine .quiet same ?_ ?_ ?_ ?_
  · rw [next, empty]
    rfl
  · rw [next]
    cases holds : unrecorded proc with
    | none => rfl
    | some upstreamID => rw [held_of_unrecorded holds] at empty; cases empty
  · intro d found
    rw [next] at found
    cases found
  · intro d found
    rw [next] at found
    cases found

/-- Nothing happens to a voice in a turn that goes on to a call holding what it held. -/
theorem quiet_on {r : Result} (same : books r.world = books world)
    (holds : held r.proc = held proc) (unrecorded' : unrecorded r.proc = unrecorded proc)
    (targets : target r.proc = target proc) (clears : cleared r.proc = cleared proc) :
    Effect turn world proc r :=
  .quiet same holds unrecorded' (fun _ found => targets ▸ found) fun _ found => clears ▸ found

theorem admitStep_effect (admits : held proc = none ∧ target proc = none) :
    Effect turn world proc (admitStep turn world proc) := by
  have ends (after : World) (same : books after = books world) (error : APIError) :
      Effect turn world proc (fail after error) := quiet_end same rfl admits.1
  cases proc with
  | enrollAuthorize installID name leaseID =>
    unfold admitStep
    dsimp only
    split
    · exact ends _ rfl _
    · exact quiet_on rfl rfl rfl rfl rfl
  | enrollList c =>
    unfold admitStep
    dsimp only
    split
    · exact ends _ rfl _
    · split
      · exact ends _ rfl _
      · split
        · exact ends _ rfl _
        · exact quiet_on rfl rfl rfl rfl rfl
  | enrollCount c =>
    unfold admitStep
    dsimp only
    split
    · split
      · exact ends _ rfl _
      · split
        · refine ends _ ?_ _
          simp [books, orphaned]
        · exact quiet_on rfl rfl rfl rfl rfl
    · exact quiet_on rfl rfl rfl rfl rfl
  | enrollReserve c =>
    unfold admitStep
    dsimp only
    split
    · exact ends world rfl _
    · split
      · exact ends world rfl _
      · refine ends _ ?_ _
        rfl
      · refine ends _ ?_ _
        rfl
      · exact quiet_on rfl rfl rfl rfl rfl
  | enrollToken c res =>
    unfold admitStep
    dsimp only
    split
    · exact quiet_on rfl rfl rfl rfl rfl
    · split
      · exact quiet_on rfl rfl rfl rfl rfl
      · exact quiet_on rfl rfl rfl rfl rfl
  | _ => exact quiet_on rfl rfl rfl rfl rfl

theorem registerStep_effect : Effect turn world proc (registerStep turn world proc) := by
  cases proc with
  | enrollUpstream c res url =>
    unfold registerStep
    dsimp only
    split
    · exact quiet_on rfl rfl rfl rfl rfl
    · rename_i upstreamID answer
      exact .registered c res url upstreamID rfl answer rfl rfl
  | enrollClose res unbilled error => exact quiet_end rfl rfl rfl
  | enrollRevoke c upstreamID ready =>
    refine quiet_on ?_ rfl rfl rfl rfl
    have none_ : orphaned ((if turn.outcome = .through then [] else [.sampleNotRevoked c.leaseID]) ++
        if ready then [] else [.voiceSlowToDeploy upstreamID]) = [] := by
      cases ready <;> cases turn.outcome <;> rfl
    simp only [registerStep, stay, books, orphaned_append]
    rw [← orphaned_append, none_, List.append_nil]
  | enrollCreate c upstreamID =>
    unfold registerStep
    dsimp only
    split
    · exact .refused c upstreamID _ rfl rfl rfl
    · exact .refused c upstreamID _ rfl rfl rfl
    · rename_i late stored
      exact .recorded c upstreamID _ rfl (.inr rfl) (late ▸ nofun) stored rfl
    · rename_i through stored
      exact .recorded c upstreamID _ rfl (.inl rfl) (through ▸ nofun) stored rfl
  | enrollUndo upstreamID error =>
    unfold registerStep
    cases turn.removal <;> cases error <;>
      refine .undone upstreamID _ rfl rfl rfl rfl rfl rfl ?_
    all_goals first
      | exact .inl ⟨rfl, rfl⟩
      | exact .inr ⟨rfl, rfl⟩
  | _ => exact quiet_on rfl rfl rfl rfl rfl

theorem deleteStep_effect : Effect turn world proc (deleteStep turn world proc) := by
  cases proc with
  | deleteAuthorize installID id =>
    unfold deleteStep
    dsimp only
    split
    · exact quiet_end rfl rfl rfl
    · exact quiet_on rfl rfl rfl rfl rfl
  | deleteList installID id =>
    unfold deleteStep
    dsimp only
    split
    · exact quiet_end rfl rfl rfl
    · rename_i mine listed
      split
      · exact quiet_end rfl rfl rfl
      · rename_i found matched
        have member := List.mem_of_find?_eq_some matched
        have chosen := List.find?_some matched
        have same : found.id = id := of_decide_eq_true chosen
        unfold query at listed
        split at listed
        · cases listed
          obtain ⟨row, stored, owner, scanned⟩ := mem_listVoices.mp member
          refine .found installID id row rfl (same ▸ stored) owner ?_ rfl
          rw [scanned]
          rfl
        · cases listed
  | deleteUpstream d =>
    unfold deleteStep
    dsimp only
    split
    · exact quiet_end rfl rfl rfl
    · exact .withdrawn d rfl rfl (.inl rfl)
    · exact .withdrawn d rfl rfl (.inr rfl)
  | deleteLookup d =>
    unfold deleteStep
    dsimp only
    split
    · exact quiet_end rfl rfl rfl
    · exact quiet_end rfl rfl rfl
    · exact quiet_on rfl rfl rfl rfl rfl
  | deleteRow d =>
    unfold deleteStep
    dsimp only
    split
    · exact quiet_end rfl rfl rfl
    · exact .removed d rfl rfl rfl
    · exact .removed d rfl rfl rfl
  | _ => exact quiet_on rfl rfl rfl rfl rfl

/-- Every turn has one of the effects. -/
theorem turnOf_effect : Effect turn world proc (turnOf turn world proc) := by
  unfold turnOf
  cases proc with
  | done => exact quiet_on rfl rfl rfl rfl rfl
  | enrollAuthorize => exact admitStep_effect ⟨rfl, rfl⟩
  | enrollList => exact admitStep_effect ⟨rfl, rfl⟩
  | enrollCount => exact admitStep_effect ⟨rfl, rfl⟩
  | enrollReserve => exact admitStep_effect ⟨rfl, rfl⟩
  | enrollToken => exact admitStep_effect ⟨rfl, rfl⟩
  | enrollUpstream => exact registerStep_effect
  | enrollClose => exact registerStep_effect
  | enrollSettle => exact registerStep_effect
  | enrollAwait => exact registerStep_effect
  | enrollRevoke => exact registerStep_effect
  | enrollCreate => exact registerStep_effect
  | enrollUndo => exact registerStep_effect
  | deleteAuthorize => exact deleteStep_effect
  | deleteList => exact deleteStep_effect
  | deleteUpstream => exact deleteStep_effect
  | deleteLookup => exact deleteStep_effect
  | deleteRow => exact deleteStep_effect

end Steps

/-- A call that arrives is about to be authorized. -/
theorem begin_cases {settings : Settings} {call : Call} {proc : Proc}
    (begun : begin_ settings call = .inl proc) :
    (∃ installID name leaseID, proc = .enrollAuthorize installID name leaseID) ∨
      ∃ installID id, proc = .deleteAuthorize installID id := by
  cases call with
  | enroll installID name leaseID =>
    simp only [begin_] at begun
    split at begun
    · cases begun
    · split at begun
      · cases begun
      · split at begun
        · cases begun
        · cases begun
          exact .inl ⟨_, _, _, rfl⟩
  | delete installID id =>
    cases begun
    exact .inr ⟨_, _, rfl⟩

end AnselmGateway.VoiceSemantics
