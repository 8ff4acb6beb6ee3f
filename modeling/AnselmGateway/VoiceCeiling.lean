import AnselmGateway.VoiceInventory

/-! The ceiling of the shared provider account. It is checked before the wallet, and
not again where the voice is recorded, so a voice can be recorded past it. -/
namespace AnselmGateway.VoiceCeiling
open Foundation VoiceStore Voice VoiceSemantics VoiceInventory

/-- The setting a turn reads. -/
def HasCeiling (ceiling : ℤ) : Event → Prop
  | .turn _ turn => turn.settings.voiceAccountCeiling = ceiling
  | .arrive settings _ => settings.voiceAccountCeiling = ceiling

/-- The turn's `CreateVoice` stores its voice. -/
def Records (turn : Turn) (world : World) (proc : Proc) : Prop :=
  ∃ c upstreamID voices, proc = .enrollCreate c upstreamID ∧ turn.outcome ≠ .refused ∧
    createVoice c.installID ⟨turn.voiceID, c.name, upstreamID, turn.now⟩ world.voices = .ok voices

def RecordsNow (state : State) : Event → Prop
  | .turn index turn => ∃ proc, state.procs[index]? = some proc ∧ Records turn state.world proc
  | .arrive .. => False

/-- The number of recorded voices does not exceed the ceiling. -/
def WithinCeiling (ceiling : ℤ) (state : State) : Prop :=
  (countAllVoices state.world.voices : ℤ) ≤ ceiling

instance (ceiling : ℤ) (state : State) : Decidable (WithinCeiling ceiling state) :=
  inferInstanceAs (Decidable (_ ≤ _))

/-- A voice is recorded only where the account has room for one more. -/
def RoomLeft (ceiling : ℤ) (state : State) (event : Event) : Prop :=
  RecordsNow state event → (countAllVoices state.world.voices : ℤ) < ceiling

/-- The enrollment of a call that has passed the ceiling check. -/
def admitted : Proc → Option Enrollment
  | .enrollReserve c | .enrollToken c _ | .enrollUpstream c _ _ | .enrollSettle c _ _
  | .enrollAwait c _ | .enrollRevoke c _ _ | .enrollCreate c _ => some c
  | _ => none

/-- A call records its voice only where no more are recorded than it has counted. -/
def Undisturbed (state : State) : Event → Prop
  | .turn index turn => ∀ proc c total, state.procs[index]? = some proc →
      Records turn state.world proc → admitted proc = some c → c.total = some total →
        countAllVoices state.world.voices ≤ total
  | .arrive .. => True

/-! ## One turn -/

section Turn
variable {turn : Turn} {world : World} {proc : Proc} {ceiling : ℤ}

theorem records_count (records : Records turn world proc) :
    countAllVoices (turnOf turn world proc).world.voices = countAllVoices world.voices + 1 := by
  obtain ⟨c, upstreamID, voices, rfl, taken, stored⟩ := records
  have length : countAllVoices voices = countAllVoices world.voices + 1 := by
    unfold countAllVoices
    rw [(createVoice_ok stored).1, List.length_append, List.length_singleton]
  cases outcome : turn.outcome with
  | refused => exact absurd outcome taken
  | through => simpa [turnOf, registerStep, outcome, stored, finish] using length
  | late => simpa [turnOf, registerStep, outcome, stored, stay] using length

/-- Nothing else adds a voice. -/
theorem count_turn : countAllVoices (turnOf turn world proc).world.voices ≤ countAllVoices world.voices ∨
    Records turn world proc := by
  have same (voices : (turnOf turn world proc).world.voices = world.voices) :
      countAllVoices (turnOf turn world proc).world.voices ≤ countAllVoices world.voices ∨
        Records turn world proc := .inl (Nat.le_of_eq (congrArg countAllVoices voices))
  have effect : Effect turn world proc (turnOf turn world proc) := turnOf_effect
  cases effect with
  | quiet books _ _ _ _ => exact same (congrArg Books.voices books)
  | registered _ _ _ _ _ _ _ world' => exact same (by rw [world'])
  | recorded c upstreamID voices by_ _ taken stored _ =>
    exact .inr ⟨c, upstreamID, voices, by_, taken, stored⟩
  | refused _ _ _ _ _ world' => exact same (by rw [world'])
  | undone _ _ _ _ voices _ _ _ _ => exact same voices
  | found _ _ _ _ _ _ _ world' => exact same (by rw [world'])
  | withdrawn _ _ _ ends =>
    obtain ⟨provider, world', _⟩ := withdrawn_gone ends
    exact same (by rw [world'])
  | removed d _ _ world' =>
    left
    rw [world']
    exact List.length_filter_le _ _

/-- The call has counted fewer voices than the ceiling. -/
def Counted (ceiling : ℤ) (proc : Proc) : Prop := ∀ c, admitted proc = some c →
  ∃ total : ℕ, c.total = some total ∧ (total : ℤ) < ceiling

theorem counted_idle (empty : admitted proc = none) : Counted ceiling proc := fun c found => by
  rw [empty] at found
  cases found

/-- No call passes a ceiling that is set without counting. -/
theorem counted_turn (positive : 0 < ceiling) (fixed : turn.settings.voiceAccountCeiling = ceiling)
    (counted : Counted ceiling proc) : Counted ceiling (turnOf turn world proc).proc := by
  have ended (after : World) (error : APIError) : Counted ceiling (fail after error).proc :=
    counted_idle rfl
  cases proc with
  | enrollAuthorize installID name leaseID =>
    unfold turnOf admitStep
    dsimp only
    split
    · exact ended _ _
    · exact counted_idle rfl
  | enrollList c =>
    unfold turnOf admitStep
    dsimp only
    split
    · exact ended _ _
    · split
      · exact ended _ _
      · split
        · exact ended _ _
        · exact counted_idle rfl
  | enrollCount c =>
    simp only [turnOf, admitStep, fixed, positive, if_true]
    split
    · exact ended _ _
    · rename_i total _
      split
      · exact ended _ _
      · rename_i below
        intro other found
        cases found
        exact ⟨total, rfl, Int.lt_of_not_ge below⟩
  | enrollReserve c =>
    unfold turnOf admitStep
    dsimp only
    split
    · exact ended _ _
    · split
      · exact ended _ _
      · exact ended _ _
      · exact ended _ _
      · exact counted
  | enrollToken c res =>
    unfold turnOf admitStep
    dsimp only
    split
    · exact counted_idle rfl
    · split
      · exact counted_idle rfl
      · exact counted
  | enrollUpstream c res url =>
    unfold turnOf registerStep
    dsimp only
    split
    · exact counted_idle rfl
    · exact counted
  | enrollCreate c upstreamID =>
    unfold turnOf registerStep
    dsimp only
    split <;> exact counted_idle rfl
  | enrollUndo upstreamID error =>
    unfold turnOf registerStep
    dsimp only
    split <;> exact ended _ _
  | enrollSettle c res upstreamID => exact counted
  | enrollAwait c upstreamID => exact counted
  | enrollRevoke c upstreamID ready => exact counted
  | done => exact counted_idle rfl
  | enrollClose => exact ended _ _
  | deleteAuthorize installID id =>
    unfold turnOf deleteStep
    dsimp only
    split <;> exact counted_idle rfl
  | deleteList installID id =>
    unfold turnOf deleteStep
    dsimp only
    split
    · exact ended _ _
    · split <;> exact counted_idle rfl
  | deleteUpstream d =>
    unfold turnOf deleteStep
    dsimp only
    split <;> exact counted_idle rfl
  | deleteLookup d =>
    unfold turnOf deleteStep
    dsimp only
    split <;> exact counted_idle rfl
  | deleteRow d =>
    unfold turnOf deleteStep
    dsimp only
    split <;> exact counted_idle rfl

end Turn

/-! ## Runs -/

/-- One step keeps the bound exactly if a voice it records finds room. -/
theorem room_left_iff {ceiling : ℤ} {state : State} {event : Event}
    (within : WithinCeiling ceiling state) :
    WithinCeiling ceiling (step state event) ↔ RoomLeft ceiling state event := by
  unfold WithinCeiling at within ⊢
  unfold RoomLeft
  cases event with
  | arrive settings call =>
    refine ⟨fun _ now => now.elim, fun _ => ?_⟩
    unfold step
    dsimp only
    split <;> exact within
  | turn index turn =>
    cases running : state.procs[index]? with
    | none => simp [step, RecordsNow, running, within]
    | some proc =>
      simp only [step, RecordsNow, running, Option.some.injEq, exists_eq_left']
      constructor
      · intro kept records
        rw [records_count records] at kept
        omega
      · intro room
        have counted : countAllVoices (turnOf turn state.world proc).world.voices ≤
            countAllVoices state.world.voices ∨ Records turn state.world proc := count_turn
        rcases counted with fewer | records
        · exact (Int.ofNat_le.mpr fewer).trans within
        · have below := room records
          rw [records_count records]
          omega

/-- Every call in flight that is past the check has counted fewer than the ceiling. -/
def AllCounted (ceiling : ℤ) (state : State) : Prop :=
  ∀ (i : ℕ) p, state.procs[i]? = some p → Counted ceiling p

theorem allCounted_step {ceiling : ℤ} (positive : 0 < ceiling) {state : State} {event : Event}
    (fixed : HasCeiling ceiling event) (counted : AllCounted ceiling state) :
    AllCounted ceiling (step state event) := by
  cases event with
  | arrive settings call =>
    unfold step
    dsimp only
    split
    · rename_i proc begun
      intro i p found
      rcases arrived_cases found with ⟨_, before⟩ | ⟨_, rfl⟩
      · exact counted i p before
      · rcases begin_cases begun with ⟨_, _, _, rfl⟩ | ⟨_, _, rfl⟩ <;> exact counted_idle rfl
    · exact counted
  | turn index turn =>
    unfold step
    dsimp only
    split
    · exact counted
    · rename_i proc running
      intro i p found
      rcases set_cases found with ⟨_, rfl⟩ | ⟨_, before⟩
      · exact counted_turn positive fixed (counted index proc running)
      · exact counted i p before

/-- An undisturbed call finds the room it has counted. -/
theorem room_left_of_undisturbed {ceiling : ℤ} {state : State} {event : Event}
    (undisturbed : Undisturbed state event) (counted : AllCounted ceiling state) :
    RoomLeft ceiling state event := by
  cases event with
  | arrive settings call => exact fun now => now.elim
  | turn index turn =>
    rintro ⟨proc, running, records⟩
    obtain ⟨c, upstreamID, voices, rfl, _⟩ := id records
    obtain ⟨total, known, below⟩ := counted index _ running c rfl
    have most := undisturbed _ c total running records rfl known
    omega

/-- The number of recorded voices stays within the ceiling in every state of a run
exactly if every voice is recorded while there is room for it. The check before the
wallet grants that room only to a call that nobody gets ahead of: as long as each
voice is recorded over no more than its own call has counted, the ceiling holds. -/
theorem ceiling_holds_iff (ceiling : ℤ) (positive : 0 < ceiling) (events : List Event) :
    ((∀ earlier later, events = earlier ++ later → WithinCeiling ceiling (after earlier)) ↔
      AllAlong step (RoomLeft ceiling) .initial events) ∧
    ((∀ event ∈ events, HasCeiling ceiling event) → AllAlong step Undisturbed .initial events →
      ∀ earlier later, events = earlier ++ later → WithinCeiling ceiling (after earlier)) := by
  have exact_ : (∀ earlier later, events = earlier ++ later → WithinCeiling ceiling (after earlier)) ↔
      AllAlong step (RoomLeft ceiling) .initial events :=
    holds_throughout_iff (fun _ _ => room_left_iff) (Int.le_of_lt positive)
  refine ⟨exact_, fun fixed undisturbed => exact_.mpr ?_⟩
  refine allAlong_of_invariant (fun state event may counted => ?_)
    (fun state event may counted => room_left_of_undisturbed may.1 counted) ?_ (undisturbed.and fixed)
  · exact allCounted_step positive may.2 counted
  · intro i p found
    cases found

section Sample

/-- Two installs count before either records. -/
def overfullRun : List Event :=
  [sampleArrival "first", sampleArrival "second"] ++
    List.replicate 9 (.turn 0 (sampleTurn "first" "anselm-1" "vce_1" 1)) ++
    List.replicate 9 (.turn 1 (sampleTurn "second" "anselm-2" "vce_2" 2)) ++
    [.turn 0 (sampleTurn "first" "anselm-1" "vce_1" 1),
      .turn 1 (sampleTurn "second" "anselm-2" "vce_2" 2)]

theorem hasCeiling_overfull : ∀ event ∈ overfullRun, HasCeiling 1 event := by
  intro event member
  simp only [overfullRun, List.mem_append, List.mem_cons, List.mem_replicate, List.not_mem_nil,
    or_false] at member
  rcases member with ((((rfl | rfl) | ⟨_, rfl⟩) | ⟨_, rfl⟩) | (rfl | rfl)) <;> rfl

/-- Under a ceiling of one, two voices. -/
theorem two_voices_under_one : (∀ event ∈ overfullRun, HasCeiling 1 event) ∧
    AllAlong step Fresh .initial overfullRun ∧
      ¬WithinCeiling 1 (after overfullRun) :=
  ⟨hasCeiling_overfull, allAlong_of_check (fun _ _ => fresh_of_check) (by decide +kernel),
    by decide +kernel⟩

/-- `Undisturbed`, checked at every turn of a call past the ceiling check. -/
def undisturbedNow (state : State) : Event → Bool
  | .turn index turn => ((state.procs[index]?.bind admitted).bind Enrollment.total).all fun total =>
      decide (countAllVoices state.world.voices ≤ total)
  | .arrive .. => true

theorem undisturbed_of_check {state : State} {event : Event}
    (checked : undisturbedNow state event = true) : Undisturbed state event := by
  cases event with
  | arrive settings call => trivial
  | turn index turn =>
    intro proc c total running _ past counted
    simpa [undisturbedNow, running, past, counted] using checked

/-- The second install is let in before the first records its voice, and counts after it. -/
def patientRun : List Event :=
  [sampleArrival "first", sampleArrival "second"] ++
    List.replicate 8 (.turn 0 (sampleTurn "first" "anselm-1" "vce_1" 1)) ++
    [.turn 1 (sampleTurn "second" "anselm-2" "vce_2" 2)] ++
    List.replicate 2 (.turn 0 (sampleTurn "first" "anselm-1" "vce_1" 1)) ++
    List.replicate 9 (.turn 1 (sampleTurn "second" "anselm-2" "vce_2" 2))

/-- Of the two, one keeps a ceiling of one. -/
theorem ceiling_holds_iff_patient : WithinCeiling 1 (after patientRun) ∧
    countAllVoices (after patientRun).world.voices = 1 ∧ (after patientRun).procs = [.done, .done] := by
  refine ⟨(ceiling_holds_iff 1 (by decide) _).2 ?_ ?_ _ [] (List.append_nil _).symm, by decide +kernel,
    by decide +kernel⟩
  · intro event member
    simp only [patientRun, List.mem_append, List.mem_cons, List.mem_replicate, List.not_mem_nil, or_false] at member
    rcases member with ((((rfl | rfl) | ⟨_, rfl⟩) | rfl) | ⟨_, rfl⟩) | ⟨_, rfl⟩ <;> rfl
  · exact allAlong_of_check (fun _ _ => undisturbed_of_check) (by decide +kernel)

end Sample

end AnselmGateway.VoiceCeiling
