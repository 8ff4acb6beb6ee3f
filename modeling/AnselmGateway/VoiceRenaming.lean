import AnselmGateway.Foundation.Interleaving
import AnselmGateway.VoiceService
import Mathlib.Data.List.Forall2

/-! Registrations renamed. A run sees the provider's ids, keeps them and hands them back to
the provider; every step of it commutes with renaming them, so what the clients read cannot
depend on them. -/
namespace AnselmGateway.VoiceRenaming
open Foundation Billing VoiceStore VoiceService
open QuotaStore (reserve)
open Genrun (Answer Charge Moment authorize closeOut reply)
variable (rename : String → String)

/-! ## What a renaming does to the state -/

def renameRow (row : VoiceRow) : VoiceRow := { row with upstreamID := rename row.upstreamID }

def renameVoice (v : Voice) : Voice := { v with upstreamID := rename v.upstreamID }

theorem check_renameRow (key : String) (row : VoiceRow) :
    installVoicesSchema.check key (renameRow rename row) = installVoicesSchema.check key row := rfl

theorem nameEntry_renameRow (row : VoiceRow) : nameEntry (renameRow rename row) = nameEntry row := rfl

def renameVoices (voices : Voices) : Voices :=
  voices.mapValues (renameRow rename) (check_renameRow rename) (nameEntry_renameRow rename)

def renameProvider (provider : Voice.Provider) : Voice.Provider :=
  ⟨provider.registered.map rename, provider.deleted.map rename, provider.absent.map rename⟩

def renameSignal : Voice.Signal → Voice.Signal
  | .voiceOrphaned upstreamID => .voiceOrphaned (rename upstreamID)
  | .voiceSlowToDeploy upstreamID => .voiceSlowToDeploy (rename upstreamID)
  | signal => signal

def renameWorld (world : Voice.World) : Voice.World where
  voices := renameVoices rename world.voices
  wallet := world.wallet
  provider := renameProvider rename world.provider
  log := world.log.map (renameSignal rename)
  drawn := world.drawn

def renameDeletion (d : Voice.Deletion) : Voice.Deletion :=
  { d with upstreamID := rename d.upstreamID }

def renameProc : Voice.Proc → Voice.Proc
  | .enrollSettle c res upstreamID => .enrollSettle c res (rename upstreamID)
  | .enrollAwait c upstreamID => .enrollAwait c (rename upstreamID)
  | .enrollRevoke c upstreamID ready => .enrollRevoke c (rename upstreamID) ready
  | .enrollCreate c upstreamID => .enrollCreate c (rename upstreamID)
  | .enrollUndo upstreamID error => .enrollUndo (rename upstreamID) error
  | .deleteUpstream d => .deleteUpstream (renameDeletion rename d)
  | .deleteLookup d => .deleteLookup (renameDeletion rename d)
  | .deleteRow d => .deleteRow (renameDeletion rename d)
  | proc => proc

def renameReply : Voice.Reply → Voice.Reply
  | .enrolled v => .enrolled (renameVoice rename v)
  | reply => reply

def renameAnswer : Answer String → Answer String
  | .value upstreamID => .value (rename upstreamID)
  | .failed unbilled wire => .failed unbilled wire

/-- The same turn, the provider answering with another id. -/
def renameTurn (turn : Voice.Turn) : Voice.Turn :=
  { turn with enrolled := renameAnswer rename turn.enrolled }

def renameResult (result : Voice.Result) : Voice.Result :=
  ⟨renameProc rename result.proc, renameWorld rename result.world,
    result.reply.map (renameReply rename)⟩

/-! ## The store -/

section Store
variable (voices : Voices) (installID id : String)

theorem ownedBy_rename : ownedBy installID (renameVoices rename voices) =
    (ownedBy installID voices).map fun row => (row.1, renameRow rename row.2) := by
  unfold ownedBy renameVoices
  rw [Indexed.rows_mapValues, List.filter_map]
  rfl

/-- A listing keeps its order: the sort looks at no registration. -/
theorem listVoices_rename : listVoices installID (renameVoices rename voices) =
    (listVoices installID voices).map (renameVoice rename) := by
  unfold listVoices
  rw [ownedBy_rename, ← List.map_mergeSort (r := fun a b : String × VoiceRow =>
    decide (a.2.createdAt < b.2.createdAt) ||
      (decide (a.2.createdAt = b.2.createdAt) && decide (a.1 ≤ b.1))) (fun _ _ _ _ => rfl),
    List.map_map, List.map_map]
  rfl

theorem countAllVoices_rename : countAllVoices (renameVoices rename voices) = countAllVoices voices :=
  List.length_map _

theorem createVoice_rename (v : Voice) :
    createVoice installID (renameVoice rename v) (renameVoices rename voices) =
      (createVoice installID v voices).map (renameVoices rename) := by
  unfold createVoice
  rw [ownedBy_rename, List.length_map]
  split
  · rfl
  · have inserted : (renameVoices rename voices).insert (renameVoice rename v).id
        (newRow installID (renameVoice rename v)) =
        (voices.insert v.id (newRow installID v)).map (renameVoices rename) :=
      Indexed.insert_mapValues voices v.id (newRow installID v)
    rw [inserted]
    cases voices.insert v.id (newRow installID v) with
    | ok after => rfl
    | error refusal => cases refusal <;> rfl

theorem lookupVoice_rename : lookupVoice installID id (renameVoices rename voices) =
    (lookupVoice installID id voices).map rename := by
  unfold lookupVoice renameVoices
  rw [Indexed.get?_mapValues]
  cases voices.table.get? id with
  | none => rfl
  | some row =>
    by_cases owner : row.installID = installID <;> simp [Option.filter, renameRow, owner]

theorem deleteRow_rename : VoiceStore.deleteRow installID id (renameVoices rename voices) =
    renameVoices rename (VoiceStore.deleteRow installID id voices) :=
  Indexed.deleteWhere_mapValues voices fun _ _ => rfl

end Store

/-! ## One turn of an enrollment or a deletion -/

section Turns
variable (turn : Voice.Turn) (world : Voice.World)

theorem query_rename {α : Type} (operation : Voices → α) :
    Voice.query (renameTurn rename turn) operation (renameWorld rename world) =
      (Voice.query turn (fun voices => operation (renameVoices rename voices)) world) := rfl

theorem query_map {α β : Type} (operation : Voices → α) (f : α → β) :
    Voice.query turn (fun voices => f (operation voices)) world =
      (Voice.query turn operation world).map f := by
  unfold Voice.query
  cases turn.outcome <;> rfl

/-- A listing under a renaming. -/
theorem listed_rename (installID : String) :
    Voice.query (renameTurn rename turn) (listVoices installID) (renameWorld rename world) =
      (Voice.query turn (listVoices installID) world).map (List.map (renameVoice rename)) := by
  rw [query_rename, ← query_map]
  simp only [listVoices_rename]

theorem counted_rename :
    Voice.query (renameTurn rename turn) countAllVoices (renameWorld rename world) =
      Voice.query turn countAllVoices world := by
  rw [query_rename]
  simp only [countAllVoices_rename]

theorem looked_rename (installID id : String) :
    Voice.query (renameTurn rename turn) (lookupVoice installID id) (renameWorld rename world) =
      (Voice.query turn (lookupVoice installID id) world).map (Option.map rename) := by
  rw [query_rename, ← query_map]
  simp only [lookupVoice_rename]

theorem admitStep_rename (proc : Voice.Proc) :
    Voice.admitStep (renameTurn rename turn) (renameWorld rename world) (renameProc rename proc) =
      renameResult rename (Voice.admitStep turn world proc) := by
  cases proc with
  | enrollAuthorize installID name leaseID =>
    simp only [renameProc, Voice.admitStep, renameTurn]
    split <;> rfl
  | enrollList c =>
    simp only [renameProc, Voice.admitStep, listed_rename]
    cases Voice.query turn (listVoices c.installID) world with
    | none => rfl
    | some mine =>
      have named : (mine.map (renameVoice rename)).any (fun v => decide (v.name = c.name)) =
          mine.any fun v => decide (v.name = c.name) := List.any_map
      simp only [Option.map_some, List.length_map, named]
      split
      · rfl
      · split <;> rfl
  | enrollCount c =>
    simp only [renameProc, Voice.admitStep, counted_rename]
    by_cases bounded : turn.settings.voiceAccountCeiling > 0
    · have bounded' : (renameTurn rename turn).settings.voiceAccountCeiling > 0 := bounded
      rw [if_pos bounded', if_pos bounded]
      cases Voice.query turn countAllVoices world with
      | none => rfl
      | some total =>
        by_cases full : (total : ℤ) ≥ turn.settings.voiceAccountCeiling
        · have full' : (total : ℤ) ≥ (renameTurn rename turn).settings.voiceAccountCeiling := full
          dsimp only
          rw [if_pos full', if_pos full]
          simp [renameResult, Voice.fail, Voice.finish, renameWorld, renameSignal, renameProc,
            renameReply, renameTurn]
        · have full' : ¬(total : ℤ) ≥ (renameTurn rename turn).settings.voiceAccountCeiling := full
          dsimp only
          rw [if_neg full', if_neg full]
          rfl
    · have bounded' : ¬(renameTurn rename turn).settings.voiceAccountCeiling > 0 := bounded
      rw [if_neg bounded', if_neg bounded]
      rfl
  | enrollReserve c =>
    simp only [renameProc, Voice.admitStep, renameTurn, renameWorld]
    cases newUnitPlan providerQwen qwenTTSClone .voices 1 with
    | error _ => rfl
    | ok plan =>
      dsimp only
      rcases reserve turn.inputs.random turn.inputs.reservedAt c.installID plan turn.inputs.period
        turn.inputs.limits world.wallet.db with ⟨failure | res, db⟩ <;> cases turn.outcome <;> rfl
  | enrollToken c res =>
    simp only [renameProc, Voice.admitStep, renameTurn]
    cases turn.token with
    | none => rfl
    | some token =>
      dsimp only
      cases Voice.publicFetchURL turn.settings.mediaFetchDomain c.leaseID token <;> rfl
  | _ => rfl

theorem registerStep_rename (proc : Voice.Proc) :
    Voice.registerStep (renameTurn rename turn) (renameWorld rename world) (renameProc rename proc) =
      renameResult rename (Voice.registerStep turn world proc) := by
  cases proc with
  | enrollUpstream c res url =>
    simp only [renameProc, Voice.registerStep, renameTurn]
    cases turn.enrolled with
    | failed unbilled wire => rfl
    | value upstreamID =>
      simp [renameAnswer, renameResult, Voice.stay, renameWorld, renameProvider, renameProc]
  | enrollClose res unbilled error => rfl
  | enrollRevoke c upstreamID ready =>
    cases through : turn.outcome <;> cases ready <;>
      simp [renameProc, Voice.registerStep, renameTurn, renameResult, Voice.stay, renameWorld,
        renameSignal, through]
  | enrollCreate c upstreamID =>
    have created := createVoice_rename rename world.voices c.installID
      ⟨turn.voiceID, c.name, upstreamID, turn.now⟩
    simp only [renameVoice] at created
    simp only [renameProc, Voice.registerStep, renameTurn, renameWorld, created]
    cases createVoice c.installID ⟨turn.voiceID, c.name, upstreamID, turn.now⟩ world.voices <;>
      cases turn.outcome <;> rfl
  | enrollUndo upstreamID error =>
    simp only [renameProc, Voice.registerStep, renameTurn]
    cases turn.removal <;> cases error <;>
      simp [renameResult, Voice.fail, Voice.finish, renameWorld, renameProvider, renameSignal,
        renameProc, renameReply]
  | _ => rfl

theorem deleteStep_rename (proc : Voice.Proc) :
    Voice.deleteStep (renameTurn rename turn) (renameWorld rename world) (renameProc rename proc) =
      renameResult rename (Voice.deleteStep turn world proc) := by
  cases proc with
  | deleteAuthorize installID id =>
    simp only [renameProc, Voice.deleteStep, renameTurn]
    split <;> rfl
  | deleteList installID id =>
    simp only [renameProc, Voice.deleteStep, listed_rename]
    cases Voice.query turn (listVoices installID) world with
    | none => rfl
    | some mine =>
      have found : (mine.map (renameVoice rename)).find? (fun v => decide (v.id = id)) =
          (mine.find? fun v => decide (v.id = id)).map (renameVoice rename) := List.find?_map ..
      simp only [Option.map_some, found]
      cases mine.find? fun v => decide (v.id = id) <;> rfl
  | deleteUpstream d =>
    simp only [renameProc, Voice.deleteStep, renameTurn]
    cases turn.removal <;>
      simp [renameResult, Voice.fail, Voice.finish, Voice.stay, renameWorld, renameProvider,
        renameDeletion, renameProc, renameReply]
  | deleteLookup d =>
    simp only [renameProc, Voice.deleteStep, looked_rename, renameDeletion]
    cases Voice.query turn (lookupVoice d.installID d.id) world with
    | none => rfl
    | some row => cases row <;> rfl
  | deleteRow d =>
    simp only [renameProc, Voice.deleteStep, renameTurn, renameWorld, renameDeletion,
      deleteRow_rename]
    cases turn.outcome <;> rfl
  | _ => rfl

/-- A turn of an enrollment or a deletion commutes with the renaming. -/
theorem turnOf_rename (proc : Voice.Proc) :
    Voice.turnOf (renameTurn rename turn) (renameWorld rename world) (renameProc rename proc) =
      renameResult rename (Voice.turnOf turn world proc) := by
  have admits := admitStep_rename rename turn world proc
  have registers := registerStep_rename rename turn world proc
  have deletes := deleteStep_rename rename turn world proc
  cases proc with
  | done => rfl
  | enrollAuthorize => exact admits
  | enrollList => exact admits
  | enrollCount => exact admits
  | enrollReserve => exact admits
  | enrollToken => exact admits
  | deleteAuthorize => exact deletes
  | deleteList => exact deletes
  | deleteUpstream => exact deletes
  | deleteLookup => exact deletes
  | deleteRow => exact deletes
  | _ => exact registers

end Turns

/-! ## What a client can tell apart -/

/-- A response but for the audio it carries. -/
def mute : Response → Response
  | .audio _ => .audio []
  | response => response

/-- Two answers of the speech provider that differ in the audio at most. -/
inductive SameButAudio : Answer Bytes → Answer Bytes → Prop
  | value (audio audio' : Bytes) : SameButAudio (.value audio) (.value audio')
  | failed (unbilled : Bool) (wire : Option APIError) :
      SameButAudio (.failed unbilled wire) (.failed unbilled wire)

/-- Two turns of which the second has the renamed registrations. -/
structure TurnAlike (turn turn' : Turn) : Prop where
  base : turn'.base = renameTurn rename turn.base
  model : turn'.ttsUpstreamModel = turn.ttsUpstreamModel
  default_ : turn'.ttsDefaultVoice = turn.ttsDefaultVoice
  spoken : SameButAudio turn.spoken turn'.spoken

/-- Two events of which the second has the renamed registrations: the requests, the
settings, the store's failures and the provider's verdicts are the same. -/
inductive EventAlike : Event → Event → Prop
  | request (settings : Voice.Settings) (request : Request) :
      EventAlike (.request settings request) (.request settings request)
  | call (settings : Voice.Settings) (call : Call) : EventAlike (.call settings call) (.call settings call)
  | turn (index : ℕ) {turn turn' : Turn} (alike : TurnAlike rename turn turn') :
      EventAlike (.turn index turn) (.turn index turn')

/-- Two calls at the same place. The voice a synthesis has resolved differs even where it is
renamed, since a name the provider knows is passed on as it is. -/
inductive FlightAlike : Flight → Flight → Prop
  | voice (proc : Voice.Proc) : FlightAlike (.voice proc) (.voice (renameProc rename proc))
  | listAuthorize (installID : String) :
      FlightAlike (.listAuthorize installID) (.listAuthorize installID)
  | listRows (installID : String) : FlightAlike (.listRows installID) (.listRows installID)
  | synthAuthorize (installID text voice : String) :
      FlightAlike (.synthAuthorize installID text voice) (.synthAuthorize installID text voice)
  | synthReserve (c : Synthesis) : FlightAlike (.synthReserve c) (.synthReserve c)
  | synthResolve (c : Synthesis) (plan : Plan) (res : Quota.Reservation) :
      FlightAlike (.synthResolve c plan res) (.synthResolve c plan res)
  | synthSpeak (c : Synthesis) (plan : Plan) (res : Quota.Reservation) (voice voice' : String) :
      FlightAlike (.synthSpeak c plan res voice) (.synthSpeak c plan res voice')
  | synthClose (c : Synthesis) (plan : Plan) (res : Quota.Reservation) {answer answer' : Answer Bytes}
      (spoken : SameButAudio answer answer') :
      FlightAlike (.synthClose c plan res answer) (.synthClose c plan res answer')

structure ResultAlike (result result' : Result) : Prop where
  flight : FlightAlike rename result.flight result'.flight
  world : result'.world = renameWorld rename result.world
  response : result'.response.map mute = result.response.map mute

/-- Two states in which every client has been told the same. -/
structure StateAlike (state state' : State) : Prop where
  world : state'.world = renameWorld rename state.world
  flights : List.Forall₂ (FlightAlike rename) state.flights state'.flights
  responses : state'.responses.map (fun told => (told.1, mute told.2)) =
    state.responses.map fun told => (told.1, mute told.2)

variable {rename}

/-- A reply of an enrollment or a deletion carries no registration to its client. -/
theorem respond_rename (reply : Voice.Reply) : respond (renameReply rename reply) = respond reply := by
  cases reply <;> rfl

theorem listResponse_rename (rows : List Voice) :
    listResponse (rows.map (renameVoice rename)) = listResponse rows := by
  unfold listResponse
  rw [List.map_map, List.length_map]
  rfl

theorem finish_alike (world : Voice.World) (response : Response) :
    ResultAlike rename (finish world response) (finish (renameWorld rename world) response) :=
  ⟨.voice .done, rfl, rfl⟩

theorem stay_alike (world : Voice.World) {flight flight' : Flight}
    (alike : FlightAlike rename flight flight') :
    ResultAlike rename (stay world flight) (stay (renameWorld rename world) flight') :=
  ⟨alike, rfl, rfl⟩

/-- A turn of any call keeps two runs alike. -/
theorem turnOf_alike {turn turn' : Turn} (alike : TurnAlike rename turn turn') (world : Voice.World)
    {flight flight' : Flight} (flights : FlightAlike rename flight flight') :
    ResultAlike rename (VoiceService.turnOf turn world flight)
      (VoiceService.turnOf turn' (renameWorld rename world) flight') := by
  obtain ⟨base, model, default_, spoken⟩ := alike
  cases flights with
  | voice proc =>
    have moved := turnOf_rename rename turn.base world proc
    rw [← base] at moved
    refine ⟨?_, ?_, ?_⟩
    · simp only [VoiceService.turnOf, moved]
      exact .voice _
    · simp only [VoiceService.turnOf, moved]
      rfl
    · simp only [VoiceService.turnOf, moved]
      cases replied : (Voice.turnOf turn.base world proc).reply with
      | none => simp [renameResult, replied]
      | some reply => simp [renameResult, replied, respond_rename]
  | listAuthorize installID =>
    simp only [VoiceService.turnOf, base, renameTurn]
    cases authorize installID turn.base.lookup turn.base.allowed with
    | error ae => exact finish_alike world _
    | ok got => exact stay_alike world (.listRows got)
  | listRows installID =>
    simp only [VoiceService.turnOf, base, listed_rename]
    cases Voice.query turn.base (listVoices installID) world with
    | none => exact finish_alike world _
    | some rows =>
      simp only [Option.map_some, listResponse_rename]
      exact finish_alike world _
  | synthAuthorize installID text voice =>
    simp only [VoiceService.turnOf, base, model, default_, renameTurn]
    cases authorize installID turn.base.lookup turn.base.allowed with
    | error ae => exact finish_alike world _
    | ok got => exact stay_alike world (.synthReserve _)
  | synthReserve c =>
    simp only [VoiceService.turnOf, base, renameTurn]
    cases c.plan with
    | error _ => exact finish_alike world _
    | ok plan =>
      dsimp only [renameWorld]
      rcases reserve turn.base.inputs.random turn.base.inputs.reservedAt c.installID plan
        turn.base.inputs.period turn.base.inputs.limits world.wallet.db with ⟨failure | res, db⟩ <;>
        cases turn.base.outcome
      · exact finish_alike { world with wallet := { world.wallet with db := db } } _
      · exact finish_alike world _
      · exact finish_alike { world with wallet := { world.wallet with db := db } } _
      · exact stay_alike { world with wallet := { world.wallet with db := db } } (.synthResolve c plan res)
      · exact finish_alike world _
      · exact finish_alike { world with wallet := { world.wallet with db := db } } _
  | synthResolve c plan res => exact stay_alike world (.synthSpeak c plan res _ _)
  | synthSpeak c plan res voice voice' => exact ⟨.synthClose c plan res spoken, rfl, rfl⟩
  | synthClose c plan res same =>
    simp only [VoiceService.turnOf, base, renameTurn]
    cases same with
    | value audio audio' => exact ⟨.voice .done, rfl, rfl⟩
    | failed unbilled wire => cases wire <;> exact ⟨.voice .done, rfl, rfl⟩

theorem enter_alike {state state' : State} (alike : StateAlike rename state state')
    {begun begun' : Flight ⊕ APIError}
    (same : (∃ flight flight', begun = .inl flight ∧ begun' = .inl flight' ∧
        FlightAlike rename flight flight') ∨ ∃ ae, begun = .inr ae ∧ begun' = .inr ae) :
    StateAlike rename (state.enter begun) (state'.enter begun') := by
  have lengths := alike.flights.length_eq
  rcases same with ⟨flight, flight', rfl, rfl, flights⟩ | ⟨ae, rfl, rfl⟩
  · exact ⟨alike.world, List.rel_append alike.flights (.cons flights .nil), alike.responses⟩
  · refine ⟨alike.world, List.rel_append alike.flights (.cons (.voice .done) .nil), ?_⟩
    simp only [State.enter, List.map_append, alike.responses, lengths]

/-- A call that arrives holds no registration yet. -/
theorem begin_alike (settings : Voice.Settings) (call : Call) :
    (∃ flight flight', begin_ settings call = .inl flight ∧ begin_ settings call = .inl flight' ∧
        FlightAlike rename flight flight') ∨
      ∃ ae, begin_ settings call = .inr ae ∧ begin_ settings call = .inr ae := by
  cases begun : begin_ settings call with
  | inr ae => exact .inr ⟨ae, rfl, rfl⟩
  | inl flight =>
    refine .inl ⟨flight, flight, rfl, rfl, ?_⟩
    cases call with
    | enroll installID name leaseID =>
      simp only [begin_, Voice.begin_] at begun
      split_ifs at begun <;> cases begun
      exact .voice _
    | list installID =>
      cases begun
      exact .listAuthorize installID
    | delete installID id =>
      cases begun
      exact .voice _
    | synthesize installID text voice =>
      unfold begin_ at begun
      split_ifs at begun
      cases begun
      exact .synthAuthorize installID text voice

theorem step_alike {state state' : State} (alike : StateAlike rename state state')
    {event event' : Event} (events : EventAlike rename event event') :
    StateAlike rename (step state event) (step state' event') := by
  cases events with
  | request settings request =>
    unfold step
    dsimp only
    cases request.call with
    | error ae => exact enter_alike alike (.inr ⟨ae, rfl, rfl⟩)
    | ok call => exact enter_alike alike (begin_alike settings call)
  | call settings call => exact enter_alike alike (begin_alike settings call)
  | turn index turns =>
    have running := related_getElem? alike.flights index
    unfold step
    dsimp only
    cases found : state.flights[index]? with
    | none =>
      cases found' : state'.flights[index]? with
      | none => exact alike
      | some flight' =>
        rw [found, found'] at running
        cases running
    | some flight =>
      cases found' : state'.flights[index]? with
      | none =>
        rw [found, found'] at running
        cases running
      | some flight' =>
        rw [found, found'] at running
        have flights : FlightAlike rename flight flight' := by
          cases running
          assumption
        have moved := turnOf_alike turns state.world flights
        rw [← alike.world] at moved
        refine ⟨moved.world, related_set alike.flights index moved.flight, ?_⟩
        have told := congrArg (fun heard => heard.toList.map (index, ·)) moved.response
        simp only [Option.toList_map, List.map_map] at told
        simp only [List.map_append, alike.responses, List.map_map]
        exact congrArg _ told

/-- Over whole runs: who has been told what, and when, is the same but for the audio. -/
theorem run_alike {events events' : List Event}
    (all : List.Forall₂ (EventAlike rename) events events') :
    StateAlike rename (after events) (after events') :=
  List.rel_foldl (R := EventAlike rename) (P := StateAlike rename)
    (fun _ _ alike _ _ same => step_alike alike same) ⟨rfl, .nil, rfl⟩ all

end AnselmGateway.VoiceRenaming
