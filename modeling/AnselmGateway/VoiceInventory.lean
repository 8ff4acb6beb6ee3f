import AnselmGateway.Foundation.Interleaving
import AnselmGateway.VoiceSemantics

/-! The inventory and the provider account, over every interleaving of calls. A
registration is at every moment in the hands of one enrollment, or recorded, or
gone, or reported; and no row outlives by accident what it points to. -/
namespace AnselmGateway.VoiceInventory
open Foundation VoiceStore Voice VoiceSemantics

/-! ## What the claims are about -/

/-- The id drawn in a turn is new, as `idgen` draws sixteen random bytes, and so is
the one the provider gives, which appends entropy of its own. -/
def Fresh (state : State) : Event → Prop
  | .turn index turn => ∀ proc, state.procs[index]? = some proc →
      (∀ c upstreamID, proc = .enrollCreate c upstreamID → turn.voiceID ∉ state.world.drawn) ∧
      ∀ c res url upstreamID, proc = .enrollUpstream c res url → turn.enrolled = .value upstreamID →
        upstreamID ∉ state.world.provider.registered
  | .arrive .. => True

/-- The provider has deleted the registration, or has said that it is absent. -/
def Gone (provider : Provider) (upstreamID : String) : Prop :=
  upstreamID ∈ provider.deleted ∨ upstreamID ∈ provider.absent

/-- Exactly one row carries the registration. -/
def RecordedOnce (voices : Voices) (upstreamID : String) : Prop :=
  (voices.table.rows.map fun row => row.2.upstreamID).count upstreamID = 1

/-- What may have become of a registration that no enrollment holds. -/
def Accounted (world : World) (upstreamID : String) : Prop :=
  RecordedOnce world.voices upstreamID ∨ Gone world.provider upstreamID ∨
    upstreamID ∈ orphaned world.log

/-! ## The invariant -/

/-- What holds of the books. -/
structure Kept (b : Books) : Prop where
  inventory : ∀ installID, (ownedBy installID b.voices).length ≤ perInstallInventory
  known : ∀ id row, b.voices.table.get? id = some row → id ∈ b.drawn
  registered : ∀ id row, b.voices.table.get? id = some row → row.upstreamID ∈ b.provider.registered
  once : (b.voices.table.rows.map fun row => row.2.upstreamID).Nodup

/-- What holds of a call in flight against them. -/
structure Holding (b : Books) (proc : Proc) : Prop where
  registered : ∀ upstreamID, held proc = some upstreamID → upstreamID ∈ b.provider.registered
  unrecorded : ∀ upstreamID, unrecorded proc = some upstreamID → ∀ id row,
    b.voices.table.get? id = some row → row.upstreamID ≠ upstreamID
  target : ∀ d, target proc = some d → d.id ∈ b.drawn ∧ ∀ row,
    b.voices.table.get? d.id = some row → row.upstreamID = d.upstreamID
  cleared : ∀ d, cleared proc = some d → Gone b.provider d.upstreamID

/-- No two enrollments hold one registration. -/
def Apart (_ : Books) (p q : Proc) : Prop := ∀ upstreamID, held p = some upstreamID →
  held q ≠ some upstreamID

def Sound (state : State) : Prop := Stable Kept Holding Apart (books state.world) state.procs

theorem Gone.later {before now : Provider} {upstreamID : String} (gone : Gone before upstreamID)
    (deleted : ∀ other ∈ before.deleted, other ∈ now.deleted)
    (absent : ∀ other ∈ before.absent, other ∈ now.absent) : Gone now upstreamID :=
  gone.imp (deleted upstreamID) (absent upstreamID)

/-- A call that holds nothing has nothing to keep. -/
theorem Holding.idle {b : Books} {proc : Proc} (empty : held proc = none) (aimless : VoiceSemantics.target proc = none) :
    Holding b proc where
  registered := fun upstreamID holds => by rw [empty] at holds; cases holds
  unrecorded := fun upstreamID holds => by rw [held_of_unrecorded holds] at empty; cases empty
  target := fun d found => by rw [aimless] at found; cases found
  cleared := fun d clear => by rw [target_of_cleared clear] at aimless; cases aimless

/-- What a call holds, it holds on to while the books grow. -/
theorem Holding.later {b now : Books} {proc : Proc} (holding : Holding b proc)
    (registered : ∀ upstreamID ∈ b.provider.registered, upstreamID ∈ now.provider.registered)
    (drawn : ∀ id ∈ b.drawn, id ∈ now.drawn)
    (gone : ∀ upstreamID, Gone b.provider upstreamID → Gone now.provider upstreamID)
    (rows : ∀ id row, now.voices.table.get? id = some row → b.voices.table.get? id = some row ∨
      (id ∉ b.drawn ∧ VoiceSemantics.unrecorded proc ≠ some row.upstreamID)) : Holding now proc where
  registered := fun upstreamID holds => registered upstreamID (holding.registered upstreamID holds)
  unrecorded := fun upstreamID holds id row stored => by
    rcases rows id row stored with old | ⟨_, other⟩
    · exact holding.unrecorded upstreamID holds id row old
    · exact fun same => other (same ▸ holds)
  target := fun d found => by
    obtain ⟨known, points⟩ := holding.target d found
    refine ⟨drawn d.id known, fun row stored => ?_⟩
    rcases rows d.id row stored with old | ⟨fresh, _⟩
    · exact points row old
    · exact absurd known fresh
  cleared := fun d clear => gone d.upstreamID (holding.cleared d clear)

/-! ## Rows -/

section Rows
variable {b : Books} {voices : Voices} {installID id : String} {v : VoiceStore.Voice}

theorem get?_created {b : Books} (stored : createVoice installID v b.voices = .ok voices) {row : VoiceRow}
    (found : voices.table.get? id = some row) :
    b.voices.table.get? id = some row ∨ (id = v.id ∧ row = newRow installID v) := by
  rw [Table.get?_eq_some, (createVoice_ok stored).1, List.mem_append, List.mem_singleton] at found
  rcases found with old | same
  · exact .inl (Table.get?_eq_some.mpr old)
  · exact .inr ⟨congrArg Prod.fst same, congrArg Prod.snd same⟩

theorem get?_removed {row : VoiceRow} {key : String}
    (found : (VoiceStore.deleteRow installID id b.voices).table.get? key = some row) :
    b.voices.table.get? key = some row := by
  rw [get?_deleteRow, Option.filter_eq_some_iff] at found
  exact found.1

/-- Only an install that had room records a voice, and only a registration that no
row carries. -/
theorem Kept.recorded (kept : Kept b) (stored : createVoice installID v b.voices = .ok voices)
    (registered : v.upstreamID ∈ b.provider.registered)
    (unrecorded : ∀ id row, b.voices.table.get? id = some row → row.upstreamID ≠ v.upstreamID) :
    Kept { b with voices := voices, drawn := b.drawn ++ [v.id] } := by
  obtain ⟨rows, free, room⟩ := createVoice_ok stored
  refine ⟨fun other => ?_, fun id row found => ?_, fun id row found => ?_, ?_⟩
  · have before := kept.inventory other
    dsimp only [ownedBy] at before room ⊢
    rw [rows, List.filter_append, List.length_append]
    by_cases same : installID = other
    · subst same
      simp only [newRow, decide_true, List.filter_cons_of_pos, List.filter_nil, List.length_singleton]
      exact room
    · have apart : List.filter (fun row : String × VoiceRow => decide (row.2.installID = other))
          [(v.id, newRow installID v)] = [] := by
        simp [newRow, same]
      rw [apart]
      exact before
  · rcases get?_created stored found with old | ⟨rfl, _⟩
    · exact List.mem_append_left _ (kept.known id row old)
    · exact List.mem_append_right _ List.mem_cons_self
  · rcases get?_created stored found with old | ⟨_, rfl⟩
    · exact kept.registered id row old
    · exact registered
  · dsimp only
    rw [rows, List.map_append, List.map_singleton]
    refine List.nodup_append.mpr ⟨kept.once, List.nodup_singleton _, ?_⟩
    intro held member added single
    rw [List.mem_singleton.mp single]
    obtain ⟨⟨key, row⟩, inside, rfl⟩ := List.mem_map.mp member
    exact unrecorded key row (Table.get?_eq_some.mpr inside)

theorem Kept.removed (kept : Kept b) :
    Kept { b with voices := VoiceStore.deleteRow installID id b.voices } where
  inventory := fun other => by
    refine Nat.le_trans ?_ (kept.inventory other)
    exact ((List.filter_sublist (p := _)).filter _).length_le
  known := fun key row found => kept.known key row (get?_removed found)
  registered := fun key row found => kept.registered key row (get?_removed found)
  once := kept.once.sublist (List.filter_sublist.map _)

end Rows

/-! ## Steps -/

/-- A deletion upstream, or the news of an earlier one, is the only thing that
changes at the provider. -/
theorem withdrawn_gone {world after : World} {upstreamID : String}
    (ends : after = { world with provider := { world.provider with
          deleted := world.provider.deleted ++ [upstreamID] } } ∨
      after = { world with provider := { world.provider with
          absent := world.provider.absent ++ [upstreamID] } }) :
    ∃ provider, after = { world with provider := provider } ∧
      provider.registered = world.provider.registered ∧ Gone provider upstreamID ∧
      ∀ other, Gone world.provider other → Gone provider other := by
  rcases ends with rfl | rfl
  · exact ⟨_, rfl, rfl, .inl (List.mem_append_right _ List.mem_cons_self),
      fun other gone => gone.later (fun _ known => List.mem_append_left _ known) fun _ => id⟩
  · exact ⟨_, rfl, rfl, .inr (List.mem_append_right _ List.mem_cons_self),
      fun other gone => gone.later (fun _ => id) fun _ known => List.mem_append_left _ known⟩

section Steps
variable {state : State} {index : ℕ} {turn : Turn} {proc : Proc} {r : Result}

/-- What a turn leaves of the invariant, if the call that takes it takes up nothing
that another one holds. -/
theorem Sound.moved {now : Books} (sound : Sound state) (running : state.procs[index]? = some proc)
    (kept : Kept now) (own : Holding now r.proc)
    (holds : ∀ upstreamID, held r.proc = some upstreamID → held proc = some upstreamID ∨
      upstreamID ∉ state.world.provider.registered)
    (others : ∀ q, Holding (books state.world) q → Apart (books state.world) proc q →
      Holding now q) : Stable Kept Holding Apart now (state.procs.set index r.proc) := by
  refine sound.turn running kept own ?_ fun p q _ _ apart => apart
  intro j q _ _ holding ahead behind
  refine ⟨others q holding ahead, fun upstreamID mine theirs => ?_, fun upstreamID theirs mine => ?_⟩
  · rcases holds upstreamID mine with before | fresh
    · exact ahead upstreamID before theirs
    · exact fresh (holding.registered upstreamID theirs)
  · rcases holds upstreamID mine with before | fresh
    · exact behind upstreamID theirs before
    · exact fresh (holding.registered upstreamID theirs)

/-- A turn that does nothing to any voice. -/
private theorem sound_quiet (sound : Sound state) (running : state.procs[index]? = some proc)
    (same : books r.world = books state.world) (holds : held r.proc = held proc)
    (unrecorded' : unrecorded r.proc = unrecorded proc)
    (targets : ∀ d, VoiceSemantics.target r.proc = some d → VoiceSemantics.target proc = some d)
    (clears : ∀ d, VoiceSemantics.cleared r.proc = some d → VoiceSemantics.cleared proc = some d) :
    Sound ⟨r.world, state.procs.set index r.proc⟩ := by
  have holding := sound.each index proc running
  unfold Sound
  rw [same]
  refine sound.moved running sound.shared ?_ ?_ fun _ holding _ => holding
  · exact {
      registered := fun upstreamID found => holding.registered upstreamID (holds ▸ found)
      unrecorded := fun upstreamID found => holding.unrecorded upstreamID (unrecorded' ▸ found)
      target := fun d found => holding.target d (targets d found)
      cleared := fun d found => holding.cleared d (clears d found) }
  · exact fun upstreamID found => .inl (holds ▸ found)

/-- A new registration is held by the enrollment that asked for it. -/
private theorem sound_registered (sound : Sound state) (running : state.procs[index]? = some proc)
    {c : Enrollment} {res : Quota.Reservation} {upstreamID : String}
    (new : upstreamID ∉ state.world.provider.registered) (next : r.proc = .enrollSettle c res upstreamID)
    (world' : r.world = { state.world with provider := { state.world.provider with
      registered := state.world.provider.registered ++ [upstreamID] } }) :
    Sound ⟨r.world, state.procs.set index r.proc⟩ := by
  unfold Sound
  have more (other : String) (known : other ∈ state.world.provider.registered) :
      other ∈ state.world.provider.registered ++ [upstreamID] := List.mem_append_left _ known
  rw [world']
  refine sound.moved running ?_ ?_ ?_ fun q holding _ => holding.later more (fun _ => id)
    (fun _ => id) fun _ _ => .inl
  · exact ⟨sound.shared.inventory, sound.shared.known,
      fun id row found => more _ (sound.shared.registered id row found), sound.shared.once⟩
  · rw [next]
    refine ⟨fun other found => ?_, fun other found id row stored same => ?_,
      fun _ found => (by cases found), fun _ found => (by cases found)⟩
    · cases found
      exact List.mem_append_right _ List.mem_cons_self
    · cases found
      exact new (same ▸ sound.shared.registered id row stored)
  · intro other found
    rw [next] at found
    cases found
    exact .inr new

/-- A registration goes from the enrollment that holds it into a row. -/
private theorem sound_recorded (sound : Sound state) (running : state.procs[index]? = some proc)
    {c : Enrollment} {upstreamID : String} {voices : Voices}
    (by_ : proc = .enrollCreate c upstreamID) (new : turn.voiceID ∉ state.world.drawn)
    (next : r.proc = .done ∨ r.proc = .enrollUndo upstreamID .failed)
    (stored : createVoice c.installID ⟨turn.voiceID, c.name, upstreamID, turn.now⟩ state.world.voices = .ok voices)
    (world' : r.world = { state.world with voices := voices, drawn := state.world.drawn ++ [turn.voiceID] }) :
    Sound ⟨r.world, state.procs.set index r.proc⟩ := by
  have holding := sound.each index proc running
  unfold Sound
  subst by_
  have mine := holding.registered upstreamID rfl
  rw [world']
  refine sound.moved running (sound.shared.recorded stored mine (holding.unrecorded upstreamID rfl))
    ?_ ?_ fun q theirs apart => ?_
  · rcases next with next | next
    · rw [next]
      exact Holding.idle rfl rfl
    · rw [next]
      refine ⟨fun other found => ?_, fun _ found => (by cases found), fun _ found => (by cases found),
        fun _ found => (by cases found)⟩
      cases found
      exact mine
  · intro other found
    rcases next with next | next
    · rw [next] at found
      cases found
    · rw [next] at found
      exact .inl found
  · refine theirs.later (fun _ => id) (fun _ known => List.mem_append_left _ known) (fun _ => id) ?_
    intro key row found
    rcases get?_created (b := books state.world) stored found with old | ⟨rfl, rfl⟩
    · exact .inl old
    · exact .inr ⟨new, fun holds => apart upstreamID rfl (held_of_unrecorded holds)⟩

/-- A registration that could not be recorded stays with its enrollment. -/
private theorem sound_refused (sound : Sound state) (running : state.procs[index]? = some proc)
    {c : Enrollment} {upstreamID : String} {error : VoiceError}
    (by_ : proc = .enrollCreate c upstreamID) (next : r.proc = .enrollUndo upstreamID error)
    (world' : r.world = { state.world with drawn := state.world.drawn ++ [turn.voiceID] }) :
    Sound ⟨r.world, state.procs.set index r.proc⟩ := by
  have holding := sound.each index proc running
  unfold Sound
  subst by_
  have more (other : String) (known : other ∈ state.world.drawn) :
      other ∈ state.world.drawn ++ [turn.voiceID] := List.mem_append_left _ known
  rw [world']
  refine sound.moved running ?_ ?_ ?_ fun q theirs _ => theirs.later (fun _ => id) more (fun _ => id)
    fun _ _ => .inl
  · exact ⟨sound.shared.inventory, fun id row found => more _ (sound.shared.known id row found),
      sound.shared.registered, sound.shared.once⟩
  · rw [next]
    refine ⟨fun other found => ?_, fun _ found => (by cases found), fun _ found => (by cases found),
      fun _ found => (by cases found)⟩
    cases found
    exact holding.registered upstreamID rfl
  · intro other found
    rw [next] at found
    exact .inl found

/-- A registration is let go of, deleted or reported. -/
private theorem sound_undone (sound : Sound state) (running : state.procs[index]? = some proc)
    {upstreamID : String} (next : r.proc = .done)
    (voices : r.world.voices = state.world.voices) (drawn : r.world.drawn = state.world.drawn)
    (registered : r.world.provider.registered = state.world.provider.registered)
    (absent : r.world.provider.absent = state.world.provider.absent)
    (ends : (r.world.provider.deleted = state.world.provider.deleted ++ [upstreamID] ∧
        r.world.log = state.world.log) ∨
      (r.world.provider.deleted = state.world.provider.deleted ∧
        r.world.log = state.world.log ++ [.voiceOrphaned upstreamID])) :
    Sound ⟨r.world, state.procs.set index r.proc⟩ := by
  unfold Sound
  have deleted : ∀ other ∈ state.world.provider.deleted, other ∈ r.world.provider.deleted := by
    intro other known
    rcases ends with ⟨more, _⟩ | ⟨same, _⟩
    · rw [more]
      exact List.mem_append_left _ known
    · rw [same]
      exact known
  have same : (books r.world).voices = state.world.voices := voices
  have drew : (books r.world).drawn = state.world.drawn := drawn
  have knew : (books r.world).provider.registered = state.world.provider.registered := registered
  refine sound.moved running ?_ ?_ ?_ fun q theirs _ => theirs.later ?_ ?_ ?_ ?_
  · refine ⟨?_, ?_, ?_, ?_⟩
    · rw [same]
      exact sound.shared.inventory
    · rw [same]
      intro id row found
      exact drew ▸ sound.shared.known id row found
    · rw [same]
      intro id row found
      exact knew ▸ sound.shared.registered id row found
    · rw [same]
      exact sound.shared.once
  · rw [next]
    exact Holding.idle rfl rfl
  · intro other found
    rw [next] at found
    cases found
  · exact fun other known => knew ▸ known
  · exact fun other known => drew ▸ known
  · exact fun other gone => gone.later deleted fun _ known => absent ▸ known
  · rw [same]
    exact fun _ _ => .inl

/-- A deletion takes up the registration of the row it found. -/
private theorem sound_found (sound : Sound state) (running : state.procs[index]? = some proc)
    {installID id : String} {row : VoiceRow}
    (stored : state.world.voices.table.get? id = some row)
    (next : r.proc = .deleteUpstream ⟨installID, id, row.upstreamID⟩) (same : r.world = state.world) :
    Sound ⟨r.world, state.procs.set index r.proc⟩ := by
  unfold Sound
  rw [same]
  refine sound.moved running sound.shared ?_ ?_ fun _ holding _ => holding
  · rw [next]
    refine ⟨fun _ found => (by cases found), fun _ found => (by cases found), fun d found => ?_,
      fun _ found => (by cases found)⟩
    cases found
    refine ⟨sound.shared.known id row stored, fun other read => ?_⟩
    cases stored.symm.trans read
    rfl
  · intro other found
    rw [next] at found
    cases found

/-- A registration is gone before its row is. -/
private theorem sound_withdrawn (sound : Sound state) (running : state.procs[index]? = some proc)
    {d : Deletion} (by_ : proc = .deleteUpstream d)
    (next : r.proc = .deleteLookup d)
    (ends : r.world = { state.world with provider := { state.world.provider with
          deleted := state.world.provider.deleted ++ [d.upstreamID] } } ∨
      r.world = { state.world with provider := { state.world.provider with
          absent := state.world.provider.absent ++ [d.upstreamID] } }) :
    Sound ⟨r.world, state.procs.set index r.proc⟩ := by
  have holding := sound.each index proc running
  unfold Sound
  subst by_
  obtain ⟨provider, world', known, gone, more⟩ := withdrawn_gone ends
  rw [world']
  refine sound.moved running ⟨sound.shared.inventory, sound.shared.known,
    fun id row found => known ▸ sound.shared.registered id row found, sound.shared.once⟩ ?_ ?_
    fun q theirs _ => theirs.later (fun _ old => known ▸ old) (fun _ => id) more fun _ _ => .inl
  · rw [next]
    refine ⟨fun _ found => (by cases found), fun _ found => (by cases found), fun e found => ?_,
      fun e found => ?_⟩
    · cases found
      exact holding.target d rfl
    · cases found
      exact gone
  · intro other found
    rw [next] at found
    cases found

/-- A row goes. -/
private theorem sound_removed (sound : Sound state) (running : state.procs[index]? = some proc)
    {d : Deletion} (next : r.proc = .done)
    (world' : r.world = { state.world with
      voices := VoiceStore.deleteRow d.installID d.id state.world.voices }) :
    Sound ⟨r.world, state.procs.set index r.proc⟩ := by
  unfold Sound
  rw [world']
  refine sound.moved running sound.shared.removed ?_ ?_ fun q theirs _ => theirs.later (fun _ => id)
    (fun _ => id) (fun _ => id) fun _ _ found => .inl (get?_removed found)
  · rw [next]
    exact Holding.idle rfl rfl
  · intro other found
    rw [next] at found
    cases found

theorem sound_turn (sound : Sound state) (running : state.procs[index]? = some proc)
    (fresh : Fresh state (.turn index turn)) (effect : Effect turn state.world proc r) :
    Sound ⟨r.world, state.procs.set index r.proc⟩ := by
  obtain ⟨drawnNew, registeredNew⟩ := fresh proc running
  cases effect with
  | quiet same holds unrecorded' targets clears =>
    exact sound_quiet sound running same holds unrecorded' targets clears
  | registered c res url upstreamID by_ answer next world' =>
    exact sound_registered sound running (registeredNew c res url upstreamID by_ answer) next world'
  | recorded c upstreamID voices by_ next taken stored world' =>
    exact sound_recorded sound running by_ (drawnNew c upstreamID by_) next stored world'
  | refused c upstreamID error by_ next world' => exact sound_refused sound running by_ next world'
  | undone upstreamID error by_ next voices drawn registered absent ends =>
    exact sound_undone sound running next voices drawn registered absent ends
  | found installID id row by_ stored owner next same => exact sound_found sound running stored next same
  | withdrawn d by_ next ends => exact sound_withdrawn sound running by_ next ends
  | removed d by_ next world' => exact sound_removed sound running next world'

theorem recordedOnce_iff {voices : Voices} {upstreamID : String}
    (once : (voices.table.rows.map fun row => row.2.upstreamID).Nodup) :
    RecordedOnce voices upstreamID ↔
      ∃ id row, voices.table.get? id = some row ∧ row.upstreamID = upstreamID := by
  constructor
  · intro counted
    have member := List.count_pos_iff.mp (Nat.lt_of_lt_of_eq Nat.one_pos counted.symm)
    obtain ⟨⟨id, row⟩, inside, rfl⟩ := List.mem_map.mp member
    exact ⟨id, row, Table.get?_eq_some.mpr inside, rfl⟩
  · rintro ⟨id, row, stored, rfl⟩
    exact List.count_eq_one_of_mem once
      (List.mem_map.mpr ⟨(id, row), Table.get?_eq_some.mp stored, rfl⟩)

/-- What a deletion takes away points to a registration that is gone. -/
theorem removed_gone (holding : Holding (books state.world) proc) {d : Deletion}
    (clear : cleared proc = some d) {id : String} {row : VoiceRow}
    (stored : state.world.voices.table.get? id = some row) :
    (VoiceStore.deleteRow d.installID d.id state.world.voices).table.get? id = some row ∨
      Gone state.world.provider row.upstreamID := by
  rw [get?_deleteRow, stored, Option.filter_eq_some_iff]
  by_cases here : id = d.id
  · subst here
    have points := (holding.target d (target_of_cleared clear)).2 row stored
    exact .inr (points ▸ holding.cleared d clear)
  · exact .inl ⟨rfl, by simp [here]⟩

/-- A row stays as it is, or its registration is gone. -/
theorem row_turn (holding : Holding (books state.world) proc)
    (effect : Effect turn state.world proc r) {id : String} {row : VoiceRow}
    (stored : state.world.voices.table.get? id = some row) :
    r.world.voices.table.get? id = some row ∨ Gone r.world.provider row.upstreamID := by
  have unmoved (voices : r.world.voices = state.world.voices) :
      r.world.voices.table.get? id = some row ∨ Gone r.world.provider row.upstreamID :=
    .inl (voices ▸ stored)
  cases effect with
  | quiet same holds unrecorded' targets clears => exact unmoved (congrArg Books.voices same)
  | registered c res url upstreamID by_ answer next world' => exact unmoved (by rw [world'])
  | recorded c upstreamID voices by_ next taken created world' =>
    refine .inl ?_
    rw [world', Table.get?_eq_some, (createVoice_ok created).1]
    exact List.mem_append_left _ (Table.get?_eq_some.mp stored)
  | refused c upstreamID error by_ next world' => exact unmoved (by rw [world'])
  | undone upstreamID error by_ next voices drawn registered absent ends => exact unmoved voices
  | found installID key target by_ kept owner next same => exact unmoved (by rw [same])
  | withdrawn d by_ next ends =>
    obtain ⟨provider, world', _⟩ := withdrawn_gone ends
    exact unmoved (by rw [world'])
  | removed d by_ next world' =>
    subst by_
    rw [world']
    exact removed_gone holding rfl stored

/-- What the provider has deleted stays deleted. -/
theorem gone_turn (effect : Effect turn state.world proc r) {upstreamID : String}
    (gone : Gone state.world.provider upstreamID) : Gone r.world.provider upstreamID := by
  cases effect with
  | quiet same holds unrecorded' targets clears =>
    have provider : r.world.provider = state.world.provider := congrArg Books.provider same
    exact provider ▸ gone
  | registered c res url other by_ answer next world' => rw [world']; exact gone
  | recorded c other voices by_ next taken stored world' => rw [world']; exact gone
  | refused c other error by_ next world' => rw [world']; exact gone
  | undone other error by_ next voices drawn registered absent ends =>
    refine gone.later (fun _ known => ?_) fun _ known => absent ▸ known
    rcases ends with ⟨more, _⟩ | ⟨same, _⟩
    · exact more ▸ List.mem_append_left _ known
    · exact same ▸ known
  | found installID id row by_ stored owner next same => rw [same]; exact gone
  | withdrawn d by_ next ends =>
    obtain ⟨provider, world', _, _, more⟩ := withdrawn_gone ends
    rw [world']
    exact more upstreamID gone
  | removed d by_ next world' => rw [world']; exact gone

/-- What was reported stays reported. -/
theorem reported_turn (effect : Effect turn state.world proc r) {upstreamID : String}
    (reported : upstreamID ∈ orphaned state.world.log) : upstreamID ∈ orphaned r.world.log := by
  cases effect with
  | quiet same holds unrecorded' targets clears =>
    have log : orphaned r.world.log = orphaned state.world.log := congrArg Books.orphaned same
    exact log ▸ reported
  | registered c res url other by_ answer next world' => rw [world']; exact reported
  | recorded c other voices by_ next taken stored world' => rw [world']; exact reported
  | refused c other error by_ next world' => rw [world']; exact reported
  | undone other error by_ next voices drawn registered absent ends =>
    rcases ends with ⟨_, same⟩ | ⟨_, more⟩
    · rw [same]
      exact reported
    · rw [more, orphaned_append]
      exact List.mem_append_left _ reported
  | found installID id row by_ stored owner next same => rw [same]; exact reported
  | withdrawn d by_ next ends =>
    obtain ⟨provider, world', _⟩ := withdrawn_gone ends
    rw [world']
    exact reported
  | removed d by_ next world' => rw [world']; exact reported

/-- An enrollment that returns has recorded the registration it held, or undone it, or
reported it. -/
theorem returned_turn (kept : Kept (books r.world)) (effect : Effect turn state.world proc r)
    {upstreamID : String} (holds : held proc = some upstreamID) :
    held r.proc = some upstreamID ∨ RecordedOnce r.world.voices upstreamID ∨
      upstreamID ∈ r.world.provider.deleted ∨ upstreamID ∈ orphaned r.world.log := by
  cases effect with
  | quiet same unchanged unrecorded' targets clears => exact .inl (unchanged.trans holds)
  | registered c res url other by_ answer next world' => subst by_; cases holds
  | recorded c other voices by_ next taken stored world' =>
    subst by_
    cases holds
    refine .inr (.inl ((recordedOnce_iff kept.once).mpr
      ⟨turn.voiceID, newRow c.installID ⟨turn.voiceID, c.name, upstreamID, turn.now⟩, ?_, rfl⟩))
    rw [world', Table.get?_eq_some]
    dsimp only [books]
    rw [(createVoice_ok stored).1]
    exact List.mem_append_right _ List.mem_cons_self
  | refused c other error by_ next world' =>
    subst by_
    rw [next]
    exact .inl holds
  | undone other error by_ next voices drawn registered absent ends =>
    subst by_
    cases holds
    rcases ends with ⟨deleted, _⟩ | ⟨_, logged⟩
    · rw [deleted]
      exact .inr (.inr (.inl (List.mem_append_right _ List.mem_cons_self)))
    · rw [logged, orphaned_append]
      exact .inr (.inr (.inr (List.mem_append_right _ List.mem_cons_self)))
  | found installID id row by_ stored owner next same => subst by_; cases holds
  | withdrawn d by_ next ends => subst by_; cases holds
  | removed d by_ next world' => subst by_; cases holds

/-- What is accounted for stays accounted for. -/
theorem accounted_turn (holding : Holding (books state.world) proc)
    (effect : Effect turn state.world proc r) (before : Kept (books state.world))
    (kept : Kept (books r.world)) {upstreamID : String}
    (accounted : Accounted state.world upstreamID) : Accounted r.world upstreamID := by
  rcases accounted with recorded | gone | reported
  · obtain ⟨id, row, stored, rfl⟩ := (recordedOnce_iff before.once).mp recorded
    rcases row_turn holding effect stored with same | gone
    · exact .inl ((recordedOnce_iff kept.once).mpr ⟨id, row, same, rfl⟩)
    · exact .inr (.inl gone)
  · exact .inr (.inl (gone_turn effect gone))
  · exact .inr (.inr (reported_turn effect reported))

/-- A registration is new, or was there before. -/
theorem registered_turn (effect : Effect turn state.world proc r) {upstreamID : String}
    (registered : upstreamID ∈ r.world.provider.registered) :
    upstreamID ∈ state.world.provider.registered ∨ held r.proc = some upstreamID := by
  cases effect with
  | quiet same holds unrecorded' targets clears =>
    have provider : r.world.provider = state.world.provider := congrArg Books.provider same
    exact .inl (provider ▸ registered)
  | registered c res url other by_ answer next world' =>
    rw [world', List.mem_append, List.mem_singleton] at registered
    rcases registered with old | rfl
    · exact .inl old
    · exact .inr (by rw [next]; rfl)
  | recorded c other voices by_ next taken stored world' => rw [world'] at registered; exact .inl registered
  | refused c other error by_ next world' => rw [world'] at registered; exact .inl registered
  | undone other error by_ next voices drawn known absent ends => exact .inl (known ▸ registered)
  | found installID id row by_ stored owner next same => rw [same] at registered; exact .inl registered
  | withdrawn d by_ next ends =>
    obtain ⟨provider, world', known, _⟩ := withdrawn_gone ends
    rw [world'] at registered
    exact .inl (known ▸ registered)
  | removed d by_ next world' => rw [world'] at registered; exact .inl registered

end Steps

/-! ## Runs -/

/-- Every registration is held by an enrollment in flight, or accounted for. -/
def Settled (state : State) : Prop := ∀ upstreamID ∈ state.world.provider.registered,
  (∃ (i : ℕ) (p : Proc), state.procs[i]? = some p ∧ held p = some upstreamID) ∨ Accounted state.world upstreamID

/-- The whole invariant of a run. -/
def Coherent (state : State) : Prop := Sound state ∧ Settled state

theorem settled_turn {state : State} {index : ℕ} {turn : Turn} {proc : Proc} {r : Result}
    (sound : Sound state) (running : state.procs[index]? = some proc)
    (effect : Effect turn state.world proc r) (kept : Kept (books r.world)) (settled : Settled state) :
    Settled ⟨r.world, state.procs.set index r.proc⟩ := by
  intro upstreamID registered
  obtain ⟨inside, _⟩ := List.getElem?_eq_some_iff.mp running
  have own (holds : held r.proc = some upstreamID) :
      ∃ (i : ℕ) (p : Proc), (state.procs.set index r.proc)[i]? = some p ∧ held p = some upstreamID :=
    ⟨index, r.proc, List.getElem?_set_self inside, holds⟩
  rcases registered_turn effect registered with before | holds
  · rcases settled upstreamID before with ⟨i, p, found, holds⟩ | accounted
    · by_cases here : index = i
      · subst here
        rw [running] at found
        cases found
        rcases returned_turn kept effect holds with still | recorded | deleted | reported
        · exact .inl (own still)
        · exact .inr (.inl recorded)
        · exact .inr (.inr (.inl (.inl deleted)))
        · exact .inr (.inr (.inr reported))
      · exact .inl ⟨i, p, by rw [List.getElem?_set_ne here]; exact found, holds⟩
    · exact .inr (accounted_turn (sound.each index proc running) effect sound.shared kept accounted)
  · exact .inl (own holds)

theorem coherent_step {state : State} {event : Event} (fresh : Fresh state event)
    (coherent : Coherent state) : Coherent (step state event) := by
  obtain ⟨sound, settled⟩ := coherent
  cases event with
  | arrive settings call =>
    unfold step
    dsimp only
    split
    · rename_i proc begun
      obtain ⟨empty, aimless⟩ : held proc = none ∧ target proc = none := by
        rcases begin_cases begun with ⟨_, _, _, rfl⟩ | ⟨_, _, rfl⟩ <;> exact ⟨rfl, rfl⟩
      constructor
      · refine Stable.arrive sound (Holding.idle empty aimless) fun _ q _ => ⟨?_, ?_⟩
        · intro upstreamID holds
          rw [empty] at holds
          cases holds
        · intro upstreamID _ holds
          rw [empty] at holds
          cases holds
      · intro upstreamID registered
        refine (settled upstreamID registered).imp_left ?_
        rintro ⟨i, p, found, holds⟩
        obtain ⟨inside, _⟩ := List.getElem?_eq_some_iff.mp found
        exact ⟨i, p, by rw [List.getElem?_append_left inside]; exact found, holds⟩
    · exact ⟨sound, settled⟩
  | turn index turn =>
    unfold step
    dsimp only
    split
    · exact ⟨sound, settled⟩
    · rename_i proc running
      have next := sound_turn sound running fresh turnOf_effect
      exact ⟨next, settled_turn sound running turnOf_effect next.shared settled⟩

theorem coherent_initial : Coherent .initial := by
  constructor
  · refine Stable.idle ⟨fun _ => Nat.zero_le _, ?_, ?_, List.nodup_nil⟩
    · intro id row found
      cases found
    · intro id row found
      cases found
  · intro upstreamID registered
    cases registered

/-- The invariant holds after every run. -/
theorem coherent_run {events : List Event} (fresh : AllAlong step Fresh .initial events) :
    Coherent (after events) :=
  runSteps_invariant_along (fun _ _ => coherent_step) coherent_initial fresh

/-- The names of one install are distinct. -/
theorem names_distinct (voices : Voices) (installID : String) :
    ((ownedBy installID voices).map fun row => row.2.name).Nodup := by
  unfold ownedBy
  have entries := voices.distinct.sublist ((List.filter_sublist
    (p := fun row : String × VoiceRow => decide (row.2.installID = installID))).map _)
  refine List.Nodup.of_map (fun name => (installID, name)) ?_
  rw [List.map_map]
  refine (List.map_congr_left fun row member => ?_) ▸ entries
  have owner : row.2.installID = installID := of_decide_eq_true (List.mem_filter.mp member).2
  simp [nameEntry, owner]

/-- Over every interleaving, with every answer of the provider and every failure of
the store: an install records at most its inventory, under distinct names; an
enrollment that ends while it holds a registration leaves it in exactly one row, or
deleted, or reported; afterwards it stays accounted for; and a row disappears only
once its registration is deleted or known to be absent. -/
theorem inventory_and_registrations (events : List Event) (event : Event)
    (fresh : AllAlong step Fresh .initial (events ++ [event])) :
    (∀ installID,
      (ownedBy installID (after (events ++ [event])).world.voices).length ≤ perInstallInventory ∧
      ((ownedBy installID (after (events ++ [event])).world.voices).map fun row => row.2.name).Nodup) ∧
    (∀ index turn proc upstreamID, event = .turn index turn →
      (after events).procs[index]? = some proc → held proc = some upstreamID →
      (after (events ++ [event])).procs[index]? = some .done →
        RecordedOnce (after (events ++ [event])).world.voices upstreamID ∨
        upstreamID ∈ (after (events ++ [event])).world.provider.deleted ∨
        upstreamID ∈ orphaned (after (events ++ [event])).world.log) ∧
    (∀ upstreamID ∈ (after (events ++ [event])).world.provider.registered,
      (∃ (i : ℕ) (p : Proc), (after (events ++ [event])).procs[i]? = some p ∧ held p = some upstreamID) ∨
        Accounted (after (events ++ [event])).world upstreamID) ∧
    ∀ id row, (after events).world.voices.table.get? id = some row →
      (after (events ++ [event])).world.voices.table.get? id = some row ∨
        Gone (after (events ++ [event])).world.provider row.upstreamID := by
  obtain ⟨sound, settled⟩ := coherent_run fresh
  have before := (coherent_run (allAlong_append.mp fresh).1).1
  have last : after (events ++ [event]) = step (after events) event := runSteps_append _
  refine ⟨fun installID => ⟨sound.shared.inventory installID, names_distinct _ installID⟩, ?_, settled, ?_⟩
  · rintro index turn proc upstreamID rfl running holds ended
    have kept := sound.shared
    rw [last] at kept ended ⊢
    simp only [step, running] at kept ended ⊢
    obtain ⟨inside, _⟩ := List.getElem?_eq_some_iff.mp running
    rw [List.getElem?_set_self inside] at ended
    rcases returned_turn kept turnOf_effect holds with still | recorded | deleted | reported
    · rw [Option.some.inj ended] at still
      cases still
    · exact .inl recorded
    · exact .inr (.inl deleted)
    · exact .inr (.inr reported)
  · intro id row stored
    rw [last]
    cases event with
    | arrive settings call =>
      left
      unfold step
      dsimp only
      split <;> exact stored
    | turn index turn =>
      unfold step
      dsimp only
      split
      · exact .inl stored
      · rename_i proc running
        exact row_turn (before.each index proc running) turnOf_effect stored

section Sample

/-- A turn in which everything goes through. -/
def sampleTurn (installID upstreamID voiceID : String) (random : UInt8) : Turn where
  outcome := .through
  settings := ⟨true, 1, "media.example.net"⟩
  lookup := some (some (installID, .active))
  allowed := true
  inputs := ⟨[random], 0, 7, ⟨"2026-08", "2026-08-06"⟩, ⟨5, 1000000000000, 3, 4, 0, 0, 0, by decide⟩⟩
  fails _ := false
  token := some "token"
  enrolled := .value upstreamID
  ready := true
  removal := .removed
  voiceID := voiceID
  now := 0

/-- An install asks for its first voice. -/
def sampleArrival (installID : String) : Event :=
  .arrive ⟨true, 1, "media.example.net"⟩ (.enroll installID "narrator" "lease")

def freshNow (state : State) : Event → Bool
  | .turn index turn =>
    match state.procs[index]? with
    | some (.enrollCreate _ _) => !state.world.drawn.contains turn.voiceID
    | some (.enrollUpstream _ _ _) =>
      match turn.enrolled with
      | .value upstreamID => !state.world.provider.registered.contains upstreamID
      | .failed _ _ => true
    | _ => true
  | .arrive .. => true

theorem fresh_of_check {state : State} {event : Event} (checked : freshNow state event = true) :
    Fresh state event := by
  cases event with
  | arrive settings call => trivial
  | turn index turn =>
    intro proc running
    simp only [freshNow, running] at checked
    constructor
    · rintro c upstreamID rfl
      simpa using checked
    · rintro c res url upstreamID rfl answer
      simpa [answer] using checked

/-- An install enrolls twice at once under one name: both calls come as far as a registration, the
first of them is recorded, and the second finds the name taken. -/
def rivalEnrollments : List Event :=
  [sampleArrival "install", sampleArrival "install"] ++
    (List.replicate 9 [.turn 0 (sampleTurn "install" "anselm-1" "vce_1" 1),
      .turn 1 (sampleTurn "install" "anselm-2" "vce_2" 2)]).flatten ++
    [.turn 0 (sampleTurn "install" "anselm-1" "vce_1" 1), .turn 1 (sampleTurn "install" "anselm-2" "vce_2" 2)]

/-- The second then ends, and its registration is accounted for. -/
theorem inventory_and_registrations_rivals :
    let last : Event := .turn 1 (sampleTurn "install" "anselm-2" "vce_2" 2)
    (after (rivalEnrollments ++ [last])).procs = [.done, .done] ∧
      (RecordedOnce (after (rivalEnrollments ++ [last])).world.voices "anselm-2" ∨
        "anselm-2" ∈ (after (rivalEnrollments ++ [last])).world.provider.deleted ∨
        "anselm-2" ∈ orphaned (after (rivalEnrollments ++ [last])).world.log) := by
  have ended : (after (rivalEnrollments ++ [.turn 1 (sampleTurn "install" "anselm-2" "vce_2" 2)])).procs =
      [.done, .done] := by decide +kernel
  have running : (after rivalEnrollments).procs = [.done, .enrollUndo "anselm-2" .nameTaken] := by decide +kernel
  refine ⟨ended, (inventory_and_registrations rivalEnrollments
    (.turn 1 (sampleTurn "install" "anselm-2" "vce_2" 2)) ?_).2.1 1 _ (.enrollUndo "anselm-2" .nameTaken) "anselm-2"
      rfl ?_ rfl ?_⟩
  · exact allAlong_of_check (fun _ _ => fresh_of_check) (by decide +kernel)
  · rw [running]
    rfl
  · rw [ended]
    rfl

end Sample

end AnselmGateway.VoiceInventory
