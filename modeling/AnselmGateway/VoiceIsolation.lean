import AnselmGateway.VoiceInventory
import AnselmGateway.VoiceRenaming

/-! Whose voice is spoken with. Every registration a row or an enrollment holds was minted
for the install that holds it, and a synthesis speaks with a name it was given or with a
registration it found in a row of its own install. -/
namespace AnselmGateway.VoiceIsolation
open Foundation Billing VoiceStore VoiceService VoiceSemantics VoiceRenaming

/-! ## What a turn hands on -/

/-- The registration an enrollment has still to record, and for whom. -/
def pending : Flight → Option (String × String)
  | .voice (.enrollSettle c _ upstreamID) | .voice (.enrollAwait c upstreamID)
  | .voice (.enrollRevoke c upstreamID _) | .voice (.enrollCreate c upstreamID) =>
    some (c.installID, upstreamID)
  | _ => none

/-- The voice a synthesis is about to speak with. -/
def resolvedVoice : Flight → Option (Synthesis × String)
  | .synthSpeak c _ _ voice => some (c, voice)
  | _ => none

theorem unrecorded_of_pending {proc : Voice.Proc} {owner : String × String}
    (holds : pending (.voice proc) = some owner) : unrecorded proc = some owner.2 := by
  cases proc <;> cases holds <;> rfl

section Turns
variable {turn : Turn} {world : Voice.World} {proc : Voice.Proc} {owner : String × String}

/-- An enrollment holds what it held, or what the provider has just minted for it. -/
theorem pending_turn (holds : pending (.voice (Voice.turnOf turn.base world proc).proc) = some owner) :
    pending (.voice proc) = some owner ∨ owner ∈ minted turn (.voice proc) := by
  have kept := unrecorded_of_pending holds
  cases effect : (turnOf_effect : Effect turn.base world proc _) with
  | quiet same held unrecorded' targets clears =>
    rw [unrecorded'] at kept
    left
    cases proc with
    | enrollSettle => exact holds
    | enrollAwait => exact holds
    | enrollRevoke => exact holds
    | enrollCreate c upstreamID =>
      simp only [Voice.turnOf, Voice.registerStep] at holds
      split at holds <;> cases holds
    | _ => cases kept
  | registered c res url upstreamID by_ answer next world' =>
    rw [next] at holds
    cases holds
    right
    simp [by_, minted, answer]
  | recorded c upstreamID voices by_ next taken stored world' =>
    rcases next with next | next <;> rw [next] at kept <;> cases kept
  | refused c upstreamID error by_ next world' =>
    rw [next] at kept
    cases kept
  | undone upstreamID error by_ next voices drawn registered absent ends =>
    rw [next] at kept
    cases kept
  | found installID id row by_ held owner next same =>
    rw [next] at kept
    cases kept
  | withdrawn d by_ next ends =>
    rw [next] at kept
    cases kept
  | removed d by_ next world' =>
    rw [next] at kept
    cases kept

/-- A row was there, or records what an enrollment held for the same install. -/
theorem row_recorded {id : String} {row : VoiceRow}
    (stored : (Voice.turnOf turn.base world proc).world.voices.table.get? id = some row) :
    world.voices.table.get? id = some row ∨
      pending (.voice proc) = some (row.installID, row.upstreamID) := by
  cases effect : (turnOf_effect : Effect turn.base world proc _) with
  | quiet same held unrecorded' targets clears =>
    have voices : (Voice.turnOf turn.base world proc).world.voices = world.voices :=
      congrArg Books.voices same
    exact .inl (voices ▸ stored)
  | registered c res url upstreamID by_ answer next world' =>
    rw [world'] at stored
    exact .inl stored
  | recorded c upstreamID voices by_ next taken created world' =>
    rw [world'] at stored
    obtain ⟨rows, free, _⟩ := createVoice_ok created
    have member : (id, row) ∈ voices.table.rows := Table.get?_eq_some.mp stored
    rw [rows] at member
    rcases List.mem_append.mp member with known | added
    · exact .inl (Table.get?_eq_some.mpr known)
    · cases List.mem_singleton.mp added
      right
      simp [by_, pending, newRow]
  | refused c upstreamID error by_ next world' =>
    rw [world'] at stored
    exact .inl stored
  | undone upstreamID error by_ next voices drawn registered absent ends =>
    exact .inl (voices ▸ stored)
  | found installID id row by_ held owner next same =>
    rw [same] at stored
    exact .inl stored
  | withdrawn d by_ next ends =>
    rcases ends with same | same <;> rw [same] at stored <;> exact .inl stored
  | removed d by_ next world' =>
    rw [world', get?_deleteRow] at stored
    exact .inl (Option.filter_eq_some_iff.mp stored).1

end Turns

/-- `resolveVoice` hands the name on, or the registration of a listed voice that has the
name for its id. -/
theorem resolveVoice_cases (rows : Option (List Voice)) (voice : String) :
    resolveVoice rows voice = voice ∨ ∃ listed, rows = some listed ∧
      ∃ v ∈ listed, v.id = trimSpace voice ∧ v.upstreamID = resolveVoice rows voice := by
  unfold resolveVoice
  split
  · exact .inl rfl
  · cases rows with
    | none => exact .inl rfl
    | some listed =>
      dsimp only
      split
      · exact .inl rfl
      · rename_i v found
        have chosen := List.find?_some found
        rw [Bool.and_eq_true] at chosen
        exact .inr ⟨listed, rfl, v, List.mem_of_find?_eq_some found, of_decide_eq_true chosen.1, rfl⟩

/-- What a turn of any call leaves: the rows as they were but for an enrollment's or a
deletion's turn, and a voice to speak with only where it has just been resolved. -/
inductive Handed (turn : Turn) (world : Voice.World) : Flight → Result → Prop
  | inner (proc : Voice.Proc) {result : Result}
      (flight : result.flight = .voice (Voice.turnOf turn.base world proc).proc)
      (rows : result.world.voices = (Voice.turnOf turn.base world proc).world.voices)
      (sent : result.sent = none) : Handed turn world (.voice proc) result
  | quiet {flight : Flight} {result : Result} (rows : result.world.voices = world.voices)
      (idle : pending result.flight = none)
      (silent : resolvedVoice result.flight = none)
      (sent : result.sent = none) : Handed turn world flight result
  | resolved (c : Synthesis) (plan : Plan) (res : Quota.Reservation) {result : Result}
      (rows : result.world.voices = world.voices)
      (flight : result.flight = .synthSpeak c plan res
        (resolveVoice (Voice.query turn.base (listVoices c.installID) world) c.name))
      (sent : result.sent = none) : Handed turn world (.synthResolve c plan res) result
  | spoke (c : Synthesis) (plan : Plan) (res : Quota.Reservation) (voice : String) {result : Result}
      (rows : result.world.voices = world.voices)
      (flight : result.flight = .synthClose c plan res turn.spoken)
      (sent : result.sent = some ⟨c, voice⟩) : Handed turn world (.synthSpeak c plan res voice) result

theorem handed (turn : Turn) (world : Voice.World) (flight : Flight) :
    Handed turn world flight (VoiceService.turnOf turn world flight) := by
  have ends (after : Voice.World) (same : after.voices = world.voices) (response : Response) :
      Handed turn world flight (finish after response) := .quiet same rfl rfl rfl
  cases flight with
  | voice proc => exact .inner proc rfl rfl rfl
  | listAuthorize installID =>
    unfold VoiceService.turnOf
    dsimp only
    split
    · exact ends world rfl _
    · exact .quiet rfl rfl rfl rfl
  | listRows installID =>
    unfold VoiceService.turnOf
    dsimp only
    split <;> exact ends world rfl _
  | synthAuthorize installID text voice =>
    unfold VoiceService.turnOf
    dsimp only
    split
    · exact ends world rfl _
    · exact .quiet rfl rfl rfl rfl
  | synthReserve c =>
    unfold VoiceService.turnOf
    dsimp only
    split
    · exact ends world rfl _
    · split
      · exact ends world rfl _
      · refine ends _ ?_ _
        rfl
      · refine ends _ ?_ _
        rfl
      · exact .quiet rfl rfl rfl rfl
  | synthResolve c plan res => exact .resolved c plan res rfl rfl rfl
  | synthSpeak c plan res voice => exact .spoke c plan res voice rfl rfl rfl
  | synthClose c plan res answer =>
    unfold VoiceService.turnOf
    dsimp only
    split
    · refine ends _ ?_ _
      rfl
    · refine ends _ ?_ _
      rfl

/-- A call that arrives holds nothing and speaks with nothing. -/
theorem begin_quiet {settings : Voice.Settings} {call : Call} {flight : Flight}
    (begun : begin_ settings call = .inl flight) :
    pending flight = none ∧ resolvedVoice flight = none := by
  cases call with
  | enroll installID name leaseID =>
    simp only [begin_, Voice.begin_] at begun
    split_ifs at begun <;> cases begun
    exact ⟨rfl, rfl⟩
  | list installID =>
    cases begun
    exact ⟨rfl, rfl⟩
  | delete installID id =>
    cases begun
    exact ⟨rfl, rfl⟩
  | synthesize installID text voice =>
    unfold begin_ at begun
    split_ifs at begun
    cases begun
    exact ⟨rfl, rfl⟩

/-! ## Over runs -/

theorem after_snoc (events : List Event) (event : Event) :
    after (events ++ [event]) = step (after events) event := runSteps_append _

/-- An event leaves the state alone but for a call that arrives, or is a turn of a call in
flight. -/
theorem step_cases (state : State) (event : Event) :
    (step state event = state) ∨
    (∃ flight, (step state event).world = state.world ∧ (step state event).sent = state.sent ∧
      (step state event).minted = state.minted ∧
      (step state event).flights = state.flights ++ [flight] ∧ pending flight = none ∧
      resolvedVoice flight = none) ∨
    ∃ index turn flight, event = .turn index turn ∧ state.flights[index]? = some flight ∧
      (step state event).world = (VoiceService.turnOf turn state.world flight).world ∧
      (step state event).flights =
        state.flights.set index (VoiceService.turnOf turn state.world flight).flight ∧
      (step state event).sent =
        state.sent ++ (VoiceService.turnOf turn state.world flight).sent.toList ∧
      (step state event).minted = state.minted ++ minted turn flight := by
  have arrives (settings : Voice.Settings) (call : Call) :
      ∃ flight, (state.enter (begin_ settings call)).world = state.world ∧
        (state.enter (begin_ settings call)).sent = state.sent ∧
        (state.enter (begin_ settings call)).minted = state.minted ∧
        (state.enter (begin_ settings call)).flights = state.flights ++ [flight] ∧
        pending flight = none ∧ resolvedVoice flight = none := by
    cases begun : begin_ settings call with
    | inr ae => exact ⟨.voice .done, rfl, rfl, rfl, rfl, rfl, rfl⟩
    | inl flight => exact ⟨flight, rfl, rfl, rfl, rfl, begin_quiet begun⟩
  cases event with
  | request settings request =>
    refine .inr (.inl ?_)
    unfold step
    dsimp only
    split
    · exact arrives settings _
    · exact ⟨.voice .done, rfl, rfl, rfl, rfl, rfl, rfl⟩
  | call settings call => exact .inr (.inl (arrives settings call))
  | turn index turn =>
    unfold step
    dsimp only
    split
    · exact .inl rfl
    · rename_i flight running
      exact .inr (.inr ⟨index, turn, flight, rfl, running, rfl, rfl, rfl, rfl⟩)

/-- The voice of a synthesis is the name it was asked for, or the registration of a row its
install owned, under that name as its id, at some point of the run. -/
def Spoken (events : List Event) (c : Synthesis) (voice : String) : Prop :=
  voice = c.name ∨ ∃ earlier, earlier <+: events ∧ ∃ row,
    (after earlier).world.voices.table.get? (trimSpace c.name) = some row ∧
      row.installID = c.installID ∧ row.upstreamID = voice

/-- What holds after every run. -/
structure Traced (events : List Event) : Prop where
  rows : ∀ id row, (after events).world.voices.table.get? id = some row →
    (row.installID, row.upstreamID) ∈ (after events).minted
  held : ∀ flight ∈ (after events).flights, ∀ owner, pending flight = some owner →
    owner ∈ (after events).minted
  speaking : ∀ flight ∈ (after events).flights, ∀ c voice,
    resolvedVoice flight = some (c, voice) → Spoken events c voice
  sent : ∀ s ∈ (after events).sent, Spoken events s.synthesis s.voice

theorem Spoken.later {events : List Event} {c : Synthesis} {voice : String}
    (spoken : Spoken events c voice) (event : Event) : Spoken (events ++ [event]) c voice := by
  rcases spoken with same | ⟨earlier, before, row, found⟩
  · exact .inl same
  · exact .inr ⟨earlier, before.trans (List.prefix_append ..), row, found⟩

theorem minted_mono {events : List Event} (event : Event) {owner : String × String}
    (known : owner ∈ (after events).minted) : owner ∈ (after (events ++ [event])).minted := by
  rw [after_snoc]
  rcases step_cases (after events) event with same | ⟨_, _, _, same, _⟩ | ⟨_, _, _, _, _, _, _, _, same⟩
  · rw [same]
    exact known
  · rw [same]
    exact known
  · rw [same]
    exact List.mem_append_left _ known

theorem minted_prefix {earlier events : List Event} (before : earlier <+: events)
    {owner : String × String} (known : owner ∈ (after earlier).minted) :
    owner ∈ (after events).minted := by
  obtain ⟨later, rfl⟩ := before
  induction later using List.reverseRecOn with
  | nil => rwa [List.append_nil]
  | append_singleton later event ih =>
    rw [← List.append_assoc]
    exact minted_mono event ih

theorem Traced.arrive {events : List Event} {event : Event} (traced : Traced events) {flight : Flight}
    (world : (after (events ++ [event])).world = (after events).world)
    (sent : (after (events ++ [event])).sent = (after events).sent)
    (flights : (after (events ++ [event])).flights = (after events).flights ++ [flight])
    (idle : pending flight = none) (silent : resolvedVoice flight = none) :
    Traced (events ++ [event]) where
  rows id row stored := by
    rw [world] at stored
    exact minted_mono event (traced.rows id row stored)
  held other member owner holds := by
    rw [flights] at member
    rcases List.mem_append.mp member with before | new
    · exact minted_mono event (traced.held other before owner holds)
    · rw [List.mem_singleton.mp new, idle] at holds
      cases holds
  speaking other member c voice here := by
    rw [flights] at member
    rcases List.mem_append.mp member with before | new
    · exact (traced.speaking other before c voice here).later event
    · rw [List.mem_singleton.mp new, silent] at here
      cases here
  sent s member := by
    rw [sent] at member
    exact (traced.sent s member).later event

/-- The rows and the held registrations after a turn are those before it, or those the
provider has just minted. -/
theorem Traced.owned {events : List Event} (traced : Traced events) (turn : Turn) {flight : Flight}
    (running : flight ∈ (after events).flights) :
    (∀ id row, (VoiceService.turnOf turn (after events).world flight).world.voices.table.get? id = some row →
      (row.installID, row.upstreamID) ∈ (after events).minted) ∧
    ∀ owner, pending (VoiceService.turnOf turn (after events).world flight).flight = some owner →
      owner ∈ (after events).minted ++ minted turn flight := by
  cases handed turn (after events).world flight with
  | inner proc flight rows sent =>
    constructor
    · intro id row stored
      rw [rows] at stored
      rcases row_recorded stored with known | holds
      · exact traced.rows id row known
      · exact traced.held _ running _ holds
    · intro owner holds
      rw [flight] at holds
      rcases pending_turn holds with held | new
      · exact List.mem_append_left _ (traced.held _ running owner held)
      · exact List.mem_append_right _ new
  | quiet rows idle silent sent =>
    constructor
    · intro id row stored
      rw [rows] at stored
      exact traced.rows id row stored
    · intro owner holds
      rw [idle] at holds
      cases holds
  | resolved c plan res rows flight sent =>
    constructor
    · intro id row stored
      rw [rows] at stored
      exact traced.rows id row stored
    · intro owner holds
      rw [flight] at holds
      cases holds
  | spoke c plan res voice rows flight sent =>
    constructor
    · intro id row stored
      rw [rows] at stored
      exact traced.rows id row stored
    · intro owner holds
      rw [flight] at holds
      cases holds

/-- A voice is resolved against the rows of its own install, and spoken with as it was
resolved. -/
theorem Traced.spoken {events : List Event} (traced : Traced events) (turn : Turn) {flight : Flight}
    (running : flight ∈ (after events).flights) :
    (∀ c voice,
      resolvedVoice (VoiceService.turnOf turn (after events).world flight).flight = some (c, voice) →
        Spoken events c voice) ∧
    ∀ s, (VoiceService.turnOf turn (after events).world flight).sent = some s →
      Spoken events s.synthesis s.voice := by
  cases handed turn (after events).world flight with
  | inner proc flight rows sent =>
    constructor
    · intro c voice here
      rw [flight] at here
      cases here
    · intro s member
      rw [sent] at member
      cases member
  | quiet rows idle silent sent =>
    constructor
    · intro c voice here
      rw [silent] at here
      cases here
    · intro s member
      rw [sent] at member
      cases member
  | resolved c plan res rows flight sent =>
    constructor
    · intro c' voice here
      rw [flight] at here
      cases here
      rcases resolveVoice_cases (Voice.query turn.base (listVoices c.installID) (after events).world)
        c.name with same | ⟨listed, answered, v, member, named, registration⟩
      · exact .inl same
      · unfold Voice.query at answered
        split at answered
        · cases answered
          obtain ⟨row, stored, owner, scanned⟩ := mem_listVoices.mp member
          refine .inr ⟨events, List.prefix_refl _, row, named ▸ stored, owner, ?_⟩
          rw [← registration, scanned]
          rfl
        · cases answered
    · intro s member
      rw [sent] at member
      cases member
  | spoke c plan res voice rows flight sent =>
    constructor
    · intro c' voice' here
      rw [flight] at here
      cases here
    · intro s member
      rw [sent] at member
      cases member
      exact traced.speaking _ running c voice rfl

theorem traced_run (events : List Event) : Traced events := by
  induction events using List.reverseRecOn with
  | nil =>
    exact ⟨fun id row found => absurd found (Option.some_ne_none row).symm,
      fun _ member => absurd member List.not_mem_nil, fun _ member => absurd member List.not_mem_nil,
      fun _ member => absurd member List.not_mem_nil⟩
  | append_singleton events event ih =>
    rcases step_cases (after events) event with
      same | ⟨arrived, world, sent, minted_, flights, idle, silent⟩ |
        ⟨index, turn, flight, rfl, running, world, flights, sent, minted_⟩
    · rw [← after_snoc] at same
      constructor
      · rw [same]
        exact ih.rows
      · rw [same]
        exact ih.held
      · rw [same]
        exact fun flight member c voice here => (ih.speaking flight member c voice here).later event
      · rw [same]
        exact fun s member => (ih.sent s member).later event
    · rw [← after_snoc] at world sent flights
      exact ih.arrive world sent flights idle silent
    · rw [← after_snoc] at world sent minted_ flights
      have inside : flight ∈ (after events).flights := List.mem_of_getElem? running
      obtain ⟨rows, held⟩ := ih.owned turn inside
      obtain ⟨speaking, spoke⟩ := ih.spoken turn inside
      constructor
      · rw [world, minted_]
        exact fun id row stored => List.mem_append_left _ (rows id row stored)
      · rw [flights, minted_]
        intro other member owner holds
        rcases List.mem_or_eq_of_mem_set member with before | rfl
        · exact List.mem_append_left _ (ih.held other before owner holds)
        · exact held owner holds
      · rw [flights]
        intro other member c voice here
        rcases List.mem_or_eq_of_mem_set member with before | rfl
        · exact (ih.speaking other before c voice here).later _
        · exact (speaking c voice here).later _
      · rw [sent]
        intro s member
        rcases List.mem_append.mp member with before | new
        · exact (ih.sent s before).later _
        · exact (spoke s (Option.mem_toList.mp new)).later _

/-- Two runs whose registrations differ by a renaming tell every client the same but for the
audio. And a synthesis speaks with the name it was asked for or with the registration of a
row its install owned under that name as its id; unless the name, requested or default, is
itself a registration, one minted for another install is only spoken with if it was minted
for this one too. -/
theorem voices_stay_with_owner :
    (∀ (rename : String → String) (events events' : List Event),
      List.Forall₂ (EventAlike rename) events events' →
        (after events').responses.map (fun told => (told.1, mute told.2)) =
          (after events).responses.map fun told => (told.1, mute told.2)) ∧
    ∀ (events : List Event), ∀ s ∈ (after events).sent,
      Spoken events s.synthesis s.voice ∧
        ((∀ install, (install, s.synthesis.name) ∉ (after events).minted) →
          ∀ other, (other, s.voice) ∈ (after events).minted →
            (s.synthesis.installID, s.voice) ∈ (after events).minted) := by
  refine ⟨fun rename events events' all => (run_alike all).responses, ?_⟩
  intro events s member
  have spoken := (traced_run events).sent s member
  refine ⟨spoken, fun unminted other known => ?_⟩
  rcases spoken with same | ⟨earlier, before, row, stored, owner, registration⟩
  · exact absurd (same ▸ known) (unminted other)
  · have held := (traced_run earlier).rows _ row stored
    rw [owner, registration] at held
    exact minted_prefix before held

section Sample

/-- The strings a client sends with a request. -/
def clientStrings : Event → List String
  | .request _ (.enroll installID name leaseID) => [installID, name, leaseID]
  | .request _ (.list installID) => [installID]
  | .request _ (.delete installID voiceID) => [installID, voiceID]
  | .request _ (.speech installID input voice) => [installID, input, voice]
  | .call _ (.enroll installID name leaseID) => [installID, name, leaseID]
  | .call _ (.list installID) => [installID]
  | .call _ (.delete installID id) => [installID, id]
  | .call _ (.synthesize installID text voice) => [installID, text, voice]
  | .turn _ _ => []

/-- A turn in which everything goes through. -/
def sampleTurn (installID upstreamID ttsDefaultVoice : String) (random : UInt8) : Turn where
  base := VoiceInventory.sampleTurn installID upstreamID "vce_1" random
  ttsUpstreamModel := qwenAudio30TTSFlash
  ttsDefaultVoice := ttsDefaultVoice
  spoken := .value []

/-- One install registers a voice, and another, or the same, speaks. -/
def sampleRun (upstreamID speaker voice ttsDefaultVoice : String) : List Event :=
  .request ⟨true, 1, "media.example.net"⟩ (.enroll "owner" "narrator" "lease") ::
    List.replicate 10 (.turn 0 (sampleTurn "owner" upstreamID "longanhuan" 1)) ++
    .request ⟨true, 1, "media.example.net"⟩ (.speech speaker "hello" voice) ::
      List.replicate 5 (.turn 1 (sampleTurn speaker upstreamID ttsDefaultVoice 2))

/-- Nothing keeps the configured default apart from the registrations: a visitor that names
no voice speaks with the owner's. -/
theorem default_voice_lent :
    ¬∀ events : List Event,
      (∀ event ∈ events, ∀ string ∈ clientStrings event, ∀ install,
        (install, string) ∉ (after events).minted) →
      ∀ s ∈ (after events).sent, ∀ other, (other, s.voice) ∈ (after events).minted →
        (s.synthesis.installID, s.voice) ∈ (after events).minted := by
  intro always
  have minted : (after (sampleRun "anselm-1" "visitor" "" "anselm-1")).minted = [("owner", "anselm-1")] := by
    decide +kernel
  have sent : (after (sampleRun "anselm-1" "visitor" "" "anselm-1")).sent.map
      (fun s => (s.synthesis.installID, s.voice)) = [("visitor", "anselm-1")] := by decide +kernel
  obtain ⟨s, member, same⟩ := List.mem_map.mp (sent ▸ List.mem_singleton_self ("visitor", "anselm-1"))
  obtain ⟨speaker, voice⟩ := Prod.mk.inj same
  have apart : ∀ event ∈ sampleRun "anselm-1" "visitor" "" "anselm-1",
      ∀ string ∈ clientStrings event, string ≠ "anselm-1" := by
    intro event member string inside
    simp only [sampleRun, List.mem_append, List.mem_cons, List.mem_replicate] at member
    rcases member with (rfl | ⟨_, rfl⟩) | rfl | ⟨_, rfl⟩ <;>
      simp [clientStrings] at inside <;> rcases inside with rfl | rfl | rfl <;> decide
  have lent := always _ (fun event member string inside install known => ?_) s member "owner" ?_
  · rw [minted, speaker] at lent
    exact absurd (Prod.mk.inj (List.mem_singleton.mp lent)).1 (by decide)
  · rw [minted] at known
    exact apart event member string inside (Prod.mk.inj (List.mem_singleton.mp known)).2
  · rw [minted, voice]
    exact List.mem_singleton_self _

theorem sampleRun_alike (rename : String → String) (upstreamID speaker voice ttsDefaultVoice : String) :
    List.Forall₂ (EventAlike rename) (sampleRun upstreamID speaker voice ttsDefaultVoice)
      (sampleRun (rename upstreamID) speaker voice ttsDefaultVoice) := by
  have turns (count index : ℕ) (installID name : String) (random : UInt8) :
      List.Forall₂ (EventAlike rename)
        (List.replicate count (.turn index (sampleTurn installID upstreamID name random)))
        (List.replicate count (.turn index (sampleTurn installID (rename upstreamID) name random))) := by
    induction count with
    | zero => exact .nil
    | succ count ih => exact .cons (.turn index ⟨rfl, rfl, rfl, .value [] []⟩) ih
  exact List.rel_append (.cons (.request _ _) (turns 10 0 _ _ 1)) (.cons (.request _ _) (turns 5 1 _ _ 2))

/-- The owner speaks with its own voice by its handle, whatever the provider has called it. -/
theorem voices_stay_with_owner_narrator :
    (after (sampleRun "anselm-2" "owner" "vce_1" "longanhuan")).responses.map
        (fun told => (told.1, mute told.2)) =
      (after (sampleRun "anselm-1" "owner" "vce_1" "longanhuan")).responses.map
        (fun told => (told.1, mute told.2)) ∧
    ∃ s ∈ (after (sampleRun "anselm-1" "owner" "vce_1" "longanhuan")).sent, s.voice = "anselm-1" ∧
      ("owner", "anselm-1") ∈ (after (sampleRun "anselm-1" "owner" "vce_1" "longanhuan")).minted ∧
      Spoken (sampleRun "anselm-1" "owner" "vce_1" "longanhuan") s.synthesis "anselm-1" := by
  have minted : (after (sampleRun "anselm-1" "owner" "vce_1" "longanhuan")).minted =
      [("owner", "anselm-1")] := by decide +kernel
  have sent : (after (sampleRun "anselm-1" "owner" "vce_1" "longanhuan")).sent.map
      (fun s => (s.synthesis.installID, s.synthesis.name, s.voice)) =
        [("owner", "vce_1", "anselm-1")] := by decide +kernel
  obtain ⟨s, member, same⟩ := List.mem_map.mp
    (sent ▸ List.mem_singleton_self ("owner", "vce_1", "anselm-1"))
  obtain ⟨speaker, asked⟩ := Prod.mk.inj same
  obtain ⟨name, voice⟩ := Prod.mk.inj asked
  have alike : List.Forall₂ (EventAlike fun id => if id = "anselm-1" then "anselm-2" else id)
      (sampleRun "anselm-1" "owner" "vce_1" "longanhuan") (sampleRun "anselm-2" "owner" "vce_1" "longanhuan") :=
    sampleRun_alike _ "anselm-1" "owner" "vce_1" "longanhuan"
  obtain ⟨spoken, owned⟩ := voices_stay_with_owner.2 _ s member
  rw [voice] at spoken owned
  have mine : ("owner", "anselm-1") ∈ (after (sampleRun "anselm-1" "owner" "vce_1" "longanhuan")).minted := by
    rw [minted]
    exact List.mem_singleton_self _
  have unminted : ∀ install,
      (install, s.synthesis.name) ∉ (after (sampleRun "anselm-1" "owner" "vce_1" "longanhuan")).minted := by
    intro install known
    rw [minted, name] at known
    exact absurd (Prod.mk.inj (List.mem_singleton.mp known)).2 (by decide)
  have held := owned unminted "owner" mine
  rw [speaker] at held
  exact ⟨voices_stay_with_owner.1 _ _ _ alike, s, member, voice, held, spoken⟩

end Sample

end AnselmGateway.VoiceIsolation
