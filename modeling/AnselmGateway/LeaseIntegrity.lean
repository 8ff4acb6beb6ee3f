import AnselmGateway.UploadCursor

/-! Leases and the bytes under them, over every interleaving of calls. What a
completion has hashed is what an active lease serves, as long as no truncation
cuts a file once it has been hashed. -/
namespace AnselmGateway.LeaseIntegrity
open Foundation MediaFiles MediaStore MediaStoreSemantics Media MediaSemantics MediaInvariants
open UploadCursor (creation stagedBytes stagedID stagingEnvironment turnOfCall fetchToken)

/-- Bytes of the size and digest of a lease, which some completion of its upload
has hashed. -/
structure Sealed (env : Environment) (hashed : List (String × Bytes)) (l : Lease) (bytes : Bytes) :
    Prop where
  size : bytes.length = l.sizeBytes
  digest : env.sha256 bytes = l.sha256
  hashed : (l.uploadID, bytes) ∈ hashed

/-- A truncation that goes through cuts no file of a completed upload, and none
that a completion has hashed and may still seal. -/
def Careful (history : History) : Event → Prop
  | .turn index turn => ∀ proc uploadID size bytes v, history.state.procs[index]? = some proc →
      turn.outcome ≠ .refused → cut proc = some (uploadID, size) →
      history.state.world.files uploadID = some ⟨bytes, true⟩ → size < bytes.length →
      history.state.world.db.uploads.get? uploadID = some v → v.state ≠ .completed ∧
        (v.state = .open → ∀ p ∈ history.state.procs, ∀ c sha size, hashed p = some (c, sha, size) →
          c.uploadID ≠ uploadID)
  | _ => True

/-! ## The invariant -/

/-- The shared state, and the bytes hashed so far by upload. -/
abbrev Log := World × List (String × Bytes)

/-- Every lease lies over its sealed bytes, at a path that leads to them as long as
it is active. -/
def Covered (env : Environment) (log : Log) : Prop :=
  ∀ leaseID l, log.1.db.leases.table.get? leaseID = some l → ∃ file,
    log.1.files l.uploadID = some file ∧ (l.state = .active → file.linked = true) ∧
      Sealed env log.2 l file.bytes

/-- What a completion has read, and what a reader has read so far. -/
structure Reading (env : Environment) (log : Log) (proc : Proc) : Prop where
  hashed : ∀ c sha size, MediaSemantics.hashed proc = some (c, sha, size) → ∀ v,
    log.1.db.uploads.get? c.uploadID = some v → v.state = .open → ∃ bytes,
      log.1.files c.uploadID = some ⟨bytes, true⟩ ∧ env.sha256 bytes = sha ∧
        bytes.length = size ∧ (c.uploadID, bytes) ∈ log.2
  reading : ∀ l taken, reading proc = some (l, taken) → ∃ leaseID m file,
    log.1.db.leases.table.get? leaseID = some m ∧ m.uploadID = l.uploadID ∧ m.sha256 = l.sha256 ∧
      m.sizeBytes = l.sizeBytes ∧ log.1.files l.uploadID = some file ∧
      taken = file.bytes.take taken.length

def Covering (env : Environment) (log : Log) (procs : List Proc) : Prop :=
  Stable (Covered env) (Reading env) (fun _ _ _ => True) log procs

theorem Sealed.later {env : Environment} {hashed : List (String × Bytes)} {l : Lease}
    {bytes : Bytes} (sealed : Sealed env hashed l bytes) (more : List (String × Bytes)) : Sealed env (hashed ++ more) l bytes :=
  ⟨sealed.size, sealed.digest, List.mem_append_left more sealed.hashed⟩

theorem hashed_cursor {proc : Proc} {c : CompleteCall} {sha : String} {size : ℕ}
    (hashes : hashed proc = some (c, sha, size)) : (c.uploadID, c.upload) ∈ cursors proc := by
  cases proc with
  | completeSniff => cases hashes; exact List.mem_singleton_self _
  | completeSeal => cases hashes; exact List.mem_singleton_self _
  | _ => cases hashes

/-- A call that hashes a file is not about to cut one. -/
theorem hashing_uncut {turn : Turn} {world : World} {proc : Proc} {read : String × Bytes}
    (now : hashing turn world proc = some read) : cut proc = none := by
  cases proc with
  | completeHash => rfl
  | _ => cases now

/-- Reading on from a prefix of a file gives a longer prefix of it. -/
theorem read_on {bytes taken : Bytes} (prefix_ : taken = bytes.take taken.length) (n : ℕ) :
    taken ++ (bytes.drop taken.length).take n =
      bytes.take (taken ++ (bytes.drop taken.length).take n).length := by
  have joined : taken ++ (bytes.drop taken.length).take n = bytes.take (taken.length + n) := by
    rw [List.take_add, ← prefix_]
  rw [joined, List.length_take, List.take_eq_take_iff]
  omega

/-! ## A full file through a turn -/

section Turn
variable {env : Environment} {turn : Turn} {state : State} {index : ℕ} {proc : Proc} {r : Result}

/-- A file that holds all its upload declares keeps its bytes through a turn that
does not cut it, and its path too unless nobody needs it. -/
theorem full_file_kept (sound : Sound state) (running : state.procs[index]? = some proc)
    (effect : Effect turn state.world proc r) {id : String} {v : Upload} {file : StagedFile}
    (row : state.world.db.uploads.get? id = some v) (held : state.world.files id = some file)
    (full : file.bytes.length = v.totalBytes)
    (uncut : ∀ size bytes, turn.outcome ≠ .refused → cut proc = some (id, size) →
      state.world.files id = some ⟨bytes, true⟩ → ¬size < bytes.length) :
    ∃ linked, r.world.files id = some ⟨file.bytes, linked⟩ ∧
      (linked = file.linked ∨ Gone id state.world.db) := by
  have safe := sound.each index proc running
  have same (files : r.world.files id = state.world.files id) :
      ∃ linked, r.world.files id = some ⟨file.bytes, linked⟩ ∧
        (linked = file.linked ∨ Gone id state.world.db) :=
    ⟨file.linked, files.trans held, .inl rfl⟩
  cases effect with
  | tables _ files _ _ => exact same (by rw [files])
  | acknowledged _ _ _ files _ => exact same (by rw [files])
  | recorded _ _ _ _ _ files _ _ _ => exact same (by rw [files])
  | advanced _ _ _ _ _ files _ _ _ _ _ => exact same (by rw [files])
  | sealed _ _ _ _ _ _ _ files _ _ _ _ _ _ _ => exact same (by rw [files])
  | staged _ uploadID draft by_ _ world' =>
    refine same ?_
    rw [world']
    refine write_other (fun here => ?_) _
    rw [here, safe.unrecorded uploadID (by rw [by_]; rfl)] at row
    cases row
  | truncated _ uploadID size bytes by_ taken held' fits world' =>
    by_cases here : id = uploadID
    · subst here
      rw [held] at held'
      cases held'
      have whole : bytes.take size = bytes :=
        List.take_of_length_le (Nat.not_lt.mp (uncut size bytes taken by_ held))
      refine ⟨true, ?_, .inl rfl⟩
      rw [world', whole]
      exact write_same _
    · exact same (by rw [world']; exact write_other here _)
  | written c bytes written by_ held' atEnd nonempty part next _ world' =>
    by_cases here : id = c.uploadID
    · subst here by_
      rw [held] at held'
      cases held'
      -- the writer would go past the total of a file that is already full
      have room := safe.within c rfl
      have total := (safe.behind (c.uploadID, c.upload) (List.mem_singleton_self _) v row).total
      have some_ := List.length_pos_iff.mpr nonempty
      dsimp only at total full
      omega
    · exact same (by rw [world']; exact write_other here _)
  | removed _ uploadID bytes by_ held' world' =>
    by_cases here : id = uploadID
    · subst here
      rw [held] at held'
      cases held'
      refine ⟨false, ?_, .inr ?_⟩
      · rw [world']
        exact write_same _
      · rcases by_ with listed | rfl
        · exact safe.gone id listed
        · rw [safe.unrecorded id rfl] at row
          cases row
    · exact same (by rw [world']; exact write_other here _)

/-- What a turn of the run may not do here. -/
def CarefulTurn (state : State) (turn : Turn) (proc : Proc) : Prop :=
  ∀ uploadID size bytes v, turn.outcome ≠ .refused → cut proc = some (uploadID, size) →
    state.world.files uploadID = some ⟨bytes, true⟩ → size < bytes.length →
    state.world.db.uploads.get? uploadID = some v → v.state ≠ .completed ∧
      (v.state = .open → ∀ p ∈ state.procs, ∀ c sha size, hashed p = some (c, sha, size) →
        c.uploadID ≠ uploadID)

/-- The log a turn leaves. -/
abbrev logged (hashed : List (String × Bytes)) (turn : Turn) (world : World) (proc : Proc)
    (r : Result) : Log :=
  (r.world, hashed ++ (hashing turn world proc).toList)

section Leases
variable {hashed : List (String × Bytes)}

/-- The file under a lease keeps its bytes, and its path while the lease is active. -/
private theorem leased_file_kept (sound : Sound state) (running : state.procs[index]? = some proc)
    (effect : Effect turn state.world proc r) (careful : CarefulTurn state turn proc)
    (covered : Covered env (state.world, hashed)) {leaseID : String} {l : Lease}
    (lease : state.world.db.leases.table.get? leaseID = some l) :
    ∃ file, r.world.files l.uploadID = some file ∧ (l.state = .active → file.linked = true) ∧
      Sealed env hashed l file.bytes ∧ ∃ before, state.world.files l.uploadID = some before ∧
        before.bytes = file.bytes := by
  obtain ⟨file, held, linked, sealed⟩ := covered leaseID l lease
  obtain ⟨v, row, completed, _, total⟩ := sound.shared leaseID l lease
  obtain ⟨linked', after, path⟩ := full_file_kept sound running effect row held
    (sealed.size.trans total) fun size bytes taken cuts held' shorter =>
      (careful l.uploadID size bytes v taken cuts held' shorter row).1 completed
  refine ⟨⟨file.bytes, linked'⟩, after, fun active => ?_, sealed, file, held, rfl⟩
  rcases path with same | gone
  · exact same.trans (linked active)
  · exact absurd active (gone.2 leaseID l lease rfl)

/-- A file that a completion has hashed stays as it is while its upload is open. -/
private theorem hashed_file_kept (sound : Sound state) (running : state.procs[index]? = some proc)
    (effect : Effect turn state.world proc r) {id : String} {v : Upload} {bytes : Bytes}
    (row : state.world.db.uploads.get? id = some v) (open_ : v.state = .open)
    (held : state.world.files id = some ⟨bytes, true⟩) (full : bytes.length = v.totalBytes)
    (uncut : ∀ size, turn.outcome ≠ .refused → cut proc = some (id, size) → ¬size < bytes.length) :
    r.world.files id = some ⟨bytes, true⟩ := by
  obtain ⟨linked, after, rfl | gone⟩ := full_file_kept sound running effect row held full
    fun size bytes' taken cuts held' shorter => by
      rw [held] at held'
      cases held'
      exact uncut size taken cuts shorter
  · exact after
  · exact absurd open_ (gone.1 v row)

private theorem covered_turn (sound : Sound state) (covering : Covering env (state.world, hashed) state.procs)
    (running : state.procs[index]? = some proc) (effect : Effect turn state.world proc r)
    (careful : CarefulTurn state turn proc) :
    Covered env (logged hashed turn state.world proc r) := by
  intro leaseID m after
  rcases lease_after effect after with ⟨l, held, upload, sha, size, back⟩ |
    ⟨c, size, v, w, rfl, held, open_, _, upload, sizes, files, _⟩
  · obtain ⟨file, held, linked, sealed, _⟩ :=
      leased_file_kept sound running effect careful covering.shared held
    refine ⟨file, upload ▸ held, fun active => linked (back active), ?_⟩
    have later := sealed.later (hashing turn state.world proc).toList
    exact ⟨later.size.trans size.symm, later.digest.trans sha.symm, upload ▸ later.hashed⟩
  · obtain ⟨bytes, file, digest, length, member⟩ :=
      (covering.each index _ running).hashed c m.sha256 size rfl v (upload ▸ held) open_
    refine ⟨⟨bytes, true⟩, ?_, fun _ => rfl, length.trans sizes.symm, digest, ?_⟩
    · rw [upload]
      exact (congrFun files c.uploadID).trans file
    · rw [upload]
      exact List.mem_append_left _ member

/-- A completion keeps what it has hashed through a turn, its own or another's. -/
private theorem hashed_turn (sound : Sound state) (running : state.procs[index]? = some proc)
    (effect : Effect turn state.world proc r) (careful : CarefulTurn state turn proc) {q : Proc}
    {j : ℕ} (held : state.procs[j]? = some q) (reading : Reading env (state.world, hashed) q)
    {c : CompleteCall} {sha : String} {size : ℕ} (hashes : MediaSemantics.hashed q = some (c, sha, size))
    {w : Upload} (after : r.world.db.uploads.get? c.uploadID = some w) (open_ : w.state = .open) :
    ∃ bytes, r.world.files c.uploadID = some ⟨bytes, true⟩ ∧ env.sha256 bytes = sha ∧
      bytes.length = size ∧ (c.uploadID, bytes) ∈ hashed := by
  rcases row_after effect after with ⟨v, row, onward⟩ | ⟨recorded, _, _⟩
  · have before := onward.open_ open_
    obtain ⟨bytes, file, digest, length, member⟩ := reading.hashed c sha size hashes v row before
    have safe := sound.each j q held
    have total := (safe.behind (c.uploadID, c.upload) (hashed_cursor hashes) v row).total
    refine ⟨bytes, hashed_file_kept sound running effect row before file ?_ fun n taken cuts shorter => ?_,
      digest, length, member⟩
    · rw [length, (safe.digest c sha size hashes).2, total]
    · exact (careful c.uploadID n bytes v taken cuts file shorter row).2 before q
        (List.mem_of_getElem? held) c sha size hashes rfl
  · refine absurd (.inl ⟨c.upload, hashed_cursor hashes⟩) (?_ : ¬Holds q c.uploadID)
    have apart : index ≠ j := by
      rintro rfl
      rw [running] at held
      cases held
      subst recorded
      cases hashes
    exact sound.pair index j proc q apart running held c.uploadID (by rw [recorded]; rfl)

/-- A reader keeps what it has read through a turn, its own or another's. -/
private theorem reading_turn (sound : Sound state)
    (covering : Covering env (state.world, hashed) state.procs)
    (running : state.procs[index]? = some proc) (effect : Effect turn state.world proc r)
    (careful : CarefulTurn state turn proc) {q : Proc}
    (reading : Reading env (state.world, hashed) q) {l : Lease} {taken : Bytes}
    (reads : MediaSemantics.reading q = some (l, taken)) :
    ∃ leaseID m before file, r.world.db.leases.table.get? leaseID = some m ∧ m.uploadID = l.uploadID ∧
      m.sha256 = l.sha256 ∧ m.sizeBytes = l.sizeBytes ∧ state.world.files l.uploadID = some before ∧
      r.world.files l.uploadID = some file ∧ before.bytes = file.bytes ∧
      taken = file.bytes.take taken.length := by
  obtain ⟨leaseID, m, file, lease, upload, sha, size, held, prefix_⟩ := reading.reading l taken reads
  obtain ⟨m', lease', upload', sha', size'⟩ := lease_kept effect lease
  obtain ⟨file', held', _, _, before, held'', same⟩ :=
    leased_file_kept sound running effect careful covering.shared lease
  rw [upload] at held' held''
  rw [held] at held''
  cases held''
  exact ⟨leaseID, m', file, file', lease', upload'.trans upload, sha'.trans sha, size'.trans size, held,
    held', same, same ▸ prefix_⟩

private theorem reading_other (sound : Sound state)
    (covering : Covering env (state.world, hashed) state.procs)
    (running : state.procs[index]? = some proc) (effect : Effect turn state.world proc r)
    (careful : CarefulTurn state turn proc) {q : Proc} {j : ℕ} (held : state.procs[j]? = some q)
    (reading : Reading env (state.world, hashed) q) :
    Reading env (logged hashed turn state.world proc r) q where
  hashed c sha size hashes w after open_ := by
    obtain ⟨bytes, file, digest, length, member⟩ :=
      hashed_turn sound running effect careful held reading hashes after open_
    exact ⟨bytes, file, digest, length, List.mem_append_left _ member⟩
  reading l taken reads := by
    obtain ⟨leaseID, m, _, file, lease, upload, sha, size, _, after, _, prefix_⟩ :=
      reading_turn sound covering running effect careful reading reads
    exact ⟨leaseID, m, file, lease, upload, sha, size, after, prefix_⟩

private theorem reading_own (sound : Sound state)
    (covering : Covering env (state.world, hashed) state.procs)
    (running : state.procs[index]? = some proc) (turned : Turned env turn state.world proc r)
    (careful : CarefulTurn state turn proc) :
    Reading env (logged hashed turn state.world proc r) r.proc where
  hashed c sha size hashes w after open_ := by
    have own := covering.each index proc running
    rcases turned.digest c sha size hashes with kept | ⟨bytes, now, file, digest, length, _, total⟩
    · obtain ⟨bytes, file, digest, length, member⟩ :=
        hashed_turn sound running turned.effect careful running own kept after open_
      exact ⟨bytes, file, digest, length, List.mem_append_left _ member⟩
    · have uncut := hashing_uncut now
      rcases row_after turned.effect after with ⟨v, row, onward⟩ | ⟨recorded, _, _⟩
      · have safe := safe_own turned (sound.each index proc running)
          (sound_turn sound running turned).shared
        have behind := safe.behind (c.uploadID, c.upload) (hashed_cursor hashes) w after
        refine ⟨bytes, hashed_file_kept sound running turned.effect row (onward.open_ open_) file ?_
          fun n _ cuts => ?_, digest, length, ?_⟩
        · rw [length, total, ← behind.total, onward.total]
        · rw [uncut] at cuts
          cases cuts
        · refine List.mem_append_right _ ?_
          rw [now]
          exact List.mem_singleton_self _
      · rw [recorded] at now
        cases now
  reading l taken reads := by
    have own := covering.each index proc running
    rcases turned.admitted l taken reads with ⟨earlier, before, more⟩ | ⟨rfl, leaseID, lease, _⟩
    · obtain ⟨leaseID, m, file, file', lease, upload, sha, size, held, after, same, prefix_⟩ :=
        reading_turn sound covering running turned.effect careful own before
      refine ⟨leaseID, m, file', lease, upload, sha, size, after, ?_⟩
      rcases more with rfl | ⟨file'', n, held', rfl⟩
      · exact prefix_
      · rw [held] at held'
        cases held'
        rw [same]
        exact read_on prefix_ n
    · obtain ⟨m, lease', upload, sha, size⟩ := lease_kept turned.effect lease
      obtain ⟨file, after, _⟩ :=
        leased_file_kept sound running turned.effect careful covering.shared lease
      exact ⟨leaseID, m, file, lease', upload, sha, size, after, rfl⟩

/-- Every careful turn leaves every lease over its sealed bytes. -/
theorem covering_turn (sound : Sound state)
    (covering : Covering env (state.world, hashed) state.procs)
    (running : state.procs[index]? = some proc) (turned : Turned env turn state.world proc r)
    (careful : CarefulTurn state turn proc) :
    Covering env (logged hashed turn state.world proc r) (state.procs.set index r.proc) :=
  Stable.turn covering running (covered_turn sound covering running turned.effect careful)
    (reading_own sound covering running turned careful)
    (fun _ _ _ held reading _ _ =>
      ⟨reading_other sound covering running turned.effect careful held reading, trivial, trivial⟩)
    fun _ _ _ _ _ => trivial

/-- What a reader has been served is what was sealed. -/
theorem served_sealed (covering : Covering env (state.world, hashed) state.procs)
    (running : state.procs[index]? = some proc) (turned : Turned env turn state.world proc r)
    {l : Lease} {body : Bytes} (served : r.reply = some (.served l body)) :
    Sealed env hashed l body := by
  obtain ⟨taken, file, reads, held, rfl⟩ := turned.body l body served
  obtain ⟨leaseID, m, file', lease, upload, sha, size, held', prefix_⟩ :=
    (covering.each index proc running).reading l taken reads
  rw [held] at held'
  cases held'
  obtain ⟨file', held', _, sealed⟩ := covering.shared leaseID m lease
  rw [upload, held] at held'
  cases held'
  have whole : taken ++ file.bytes.drop taken.length = file.bytes := by
    rw [prefix_, List.length_take, ← prefix_]
    have within : taken.length ≤ file.bytes.length := by
      have := congrArg List.length prefix_
      rw [List.length_take] at this
      omega
    rw [Nat.min_eq_left within]
    nth_rewrite 1 [prefix_]
    exact List.take_append_drop _ _
  rw [whole]
  exact ⟨sealed.size.trans size, sealed.digest.trans sha, upload ▸ sealed.hashed⟩

end Leases
end Turn

/-! ## Every run keeps it -/

section Run
variable {env : Environment}

/-- What a run keeps: sound calls, covered leases, and nothing served but what was
sealed. -/
structure Kept (env : Environment) (history : History) : Prop where
  sound : Sound history.state
  covering : Covering env (history.state.world, history.hashed) history.state.procs
  served : ∀ l body, .served l body ∈ history.replies → Sealed env history.hashed l body

theorem kept_step {history : History} {event : Event}
    (careful : Fresh history.state event ∧ Careful history event) (kept : Kept env history) :
    Kept env (record env history event) := by
  have sound : Sound (step env history.state event).2 := sound_step careful.1 kept.sound
  cases event with
  | arrive now call =>
    simp only [record, step, hashedBy] at sound ⊢
    split
    · rename_i proc begun
      obtain ⟨_, _, _, _, idle, unread, _, _⟩ := begin_starts begun
      simp only [begun] at sound
      refine ⟨sound, ?_, fun l body told => ?_⟩
      · dsimp only
        rw [Option.toList_none, List.append_nil]
        refine Stable.arrive kept.covering ⟨?_, ?_⟩ fun _ _ _ => ⟨trivial, trivial⟩
        · simp [idle]
        · simp [unread]
      · rw [Option.toList_none, List.append_nil] at told
        exact (kept.served l body told).later _
    · rename_i error begun
      refine ⟨kept.sound, ?_, fun l body told => ?_⟩
      · dsimp only
        rw [Option.toList_none, List.append_nil]
        exact kept.covering
      · rcases List.mem_append.mp told with old | new
        · exact (kept.served l body old).later _
        · cases List.mem_singleton.mp new
  | turn index turn =>
    simp only [record, step, hashedBy] at sound ⊢
    split
    · rename_i none_
      refine ⟨kept.sound, ?_, fun l body told => ?_⟩
      · dsimp only
        rw [none_, Option.bind_none, Option.toList_none, List.append_nil]
        exact kept.covering
      · rw [Option.toList_none, List.append_nil] at told
        exact (kept.served l body told).later _
    · rename_i proc running
      simp only [running] at sound
      have turned := turnOf_turned env turn history.state.world proc
      rw [running, Option.bind_some]
      refine ⟨sound, covering_turn kept.sound kept.covering running turned
        fun uploadID size bytes v => careful.2 proc uploadID size bytes v running, fun l body told => ?_⟩
      rcases List.mem_append.mp told with old | new
      · exact (kept.served l body old).later _
      · exact (served_sealed kept.covering running turned (Option.mem_toList.mp new)).later _
  | crash =>
    simp only [record, step, hashedBy] at sound ⊢
    refine ⟨sound, ?_, fun l body told => ?_⟩
    · dsimp only
      rw [Option.toList_none, List.append_nil]
      exact Stable.idle kept.covering.shared
    · rw [Option.toList_none, List.append_nil] at told
      exact (kept.served l body told).later _

theorem kept_initial : Kept env .initial where
  sound := sound_initial
  covering := Stable.idle nofun
  served := nofun

end Run

/-- **An active lease serves exactly the sealed bytes**, in any run whose
truncations are careful: its staged file holds bytes of its size and digest that a
completion of its upload has hashed, and every reader was served such bytes. -/
theorem active_leases_serve_sealed_bytes (env : Environment) (events : List Event)
    (careful : AllAlong (record env)
      (fun history event => Fresh history.state event ∧ Careful history event) .initial events) :
    (∀ leaseID l, (after env events).state.world.db.leases.table.get? leaseID = some l →
      l.state = .active → ∃ bytes,
        (after env events).state.world.files l.uploadID = some ⟨bytes, true⟩ ∧
          Sealed env (after env events).hashed l bytes) ∧
    ∀ l body, .served l body ∈ (after env events).replies →
      Sealed env (after env events).hashed l body := by
  have kept : Kept env (after env events) :=
    runSteps_invariant_along (fun _ _ => kept_step) kept_initial careful
  refine ⟨fun leaseID l lease active => ?_, kept.served⟩
  obtain ⟨⟨bytes, linked⟩, held, path, sealed⟩ := kept.covering.shared leaseID l lease
  have linked' : linked = true := path active
  exact ⟨bytes, linked' ▸ held, sealed⟩

/-! ## A stale truncation after the seal -/

/-- The stale append of two at offset 0 once more, but its cut comes after a third
call has completed the upload. -/
def staleSeal : List Event :=
  creation ++
    [.arrive 1 (.append "ins_1" stagedID 0 [1]), .arrive 1 (.append "ins_1" stagedID 0 stagedBytes),
      turnOfCall 1, turnOfCall 2, turnOfCall 2, turnOfCall 2, turnOfCall 2,
      .arrive 1 (.complete "ins_1" stagedID), turnOfCall 3, turnOfCall 3, turnOfCall 3, turnOfCall 3,
      turnOfCall 1, turnOfCall 1]

/-- After it the lease over the eight bytes is active, and its file is empty. -/
theorem active_lease_over_cut_file :
    AllAlong (record stagingEnvironment) (fun history event => Fresh history.state event) .initial
        staleSeal ∧
      ¬∀ leaseID l, (after stagingEnvironment staleSeal).state.world.db.leases.table.get? leaseID =
          some l → l.state = .active → ∃ bytes,
        (after stagingEnvironment staleSeal).state.world.files l.uploadID = some ⟨bytes, true⟩ ∧
          Sealed stagingEnvironment (after stagingEnvironment staleSeal).hashed l bytes := by
  constructor
  · exact allAlong_of_check (fun _ _ => fresh_of_check) (by decide +kernel)
  · intro serves
    have file : (after stagingEnvironment staleSeal).state.world.files stagedID =
        some ⟨[], true⟩ := by decide +kernel
    have lease : ((after stagingEnvironment staleSeal).state.world.db.leases.table.get?
        "mls_00000000000000000000000000000001").map (fun l => (l.state, l.uploadID, l.sizeBytes)) =
          some (.active, stagedID, 8) := by decide +kernel
    obtain ⟨l, row, here⟩ := Option.map_eq_some_iff.mp lease
    obtain ⟨active, rest⟩ := Prod.mk.inj here
    obtain ⟨upload, size⟩ := Prod.mk.inj rest
    obtain ⟨bytes, held, sealed⟩ := serves _ l row active
    rw [upload, file] at held
    cases held
    have empty := sealed.size
    rw [size] at empty
    cases empty

/-- A check that what is cut is not sealed, and that no completion has hashed when it is. -/
def carefulNow (state : State) : Event → Bool
  | .turn index _ => (state.procs[index]?.bind cut).all fun (uploadID, _) =>
      ((state.world.db.uploads.get? uploadID).all fun v => decide (v.state ≠ .completed)) &&
        state.procs.all fun p => (hashed p).isNone
  | _ => true

theorem careful_of_check {history : History} {event : Event}
    (checked : (freshNow history.state event && carefulNow history.state event) = true) :
    Fresh history.state event ∧ Careful history event := by
  obtain ⟨fresh, cautious⟩ := Bool.and_eq_true_iff.mp checked
  refine ⟨fresh_of_check fresh, ?_⟩
  cases event with
  | turn index turn =>
    intro proc uploadID size bytes v running _ cuts _ _ row
    simp only [carefulNow, running, Option.bind_some, cuts, Option.all_some, row, Bool.and_eq_true,
      decide_eq_true_eq, List.all_eq_true] at cautious
    refine ⟨cautious.1, fun _ p listed c sha size' is => ?_⟩
    have free := cautious.2 p listed
    rw [is] at free
    cases free
  | _ => trivial

/-- Bytes whose cursor a crash has lost are cut off and sent again; their upload is completed, and
its lease read. A completion that comes before the bytes waits until they are sealed. -/
def sealedAndServed : List Event :=
  creation ++
    [.arrive 1 (.append "ins_1" stagedID 0 stagedBytes), turnOfCall 1, turnOfCall 1, turnOfCall 1, .crash,
      .arrive 1 (.complete "ins_1" stagedID), .arrive 1 (.append "ins_1" stagedID 0 stagedBytes), turnOfCall 1,
      turnOfCall 1, turnOfCall 1, turnOfCall 1, turnOfCall 1, .arrive 1 (.complete "ins_1" stagedID), turnOfCall 2,
      turnOfCall 2, turnOfCall 2, turnOfCall 2, turnOfCall 2, turnOfCall 0,
      .arrive 1 (.openLease none "mls_00000000000000000000000000000001" fetchToken), turnOfCall 3, turnOfCall 3,
      turnOfCall 3]

theorem served_as_sealed :
    ∃ l body, .served l body ∈ (after stagingEnvironment sealedAndServed).replies ∧
      Sealed stagingEnvironment (after stagingEnvironment sealedAndServed).hashed l body := by
  have answered : ((after stagingEnvironment sealedAndServed).replies.any fun
      | .served _ _ => true
      | _ => false) = true := by decide +kernel
  obtain ⟨reply, given, holds⟩ := List.any_eq_true.mp answered
  cases reply with
  | served l body =>
    refine ⟨l, body, given,
      (active_leases_serve_sealed_bytes stagingEnvironment sealedAndServed ?_).2 l body given⟩
    exact allAlong_of_check (fun _ _ => careful_of_check) (by decide +kernel)
  | _ => cases holds

end AnselmGateway.LeaseIntegrity
