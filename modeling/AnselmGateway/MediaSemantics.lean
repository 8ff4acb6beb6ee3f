import AnselmGateway.Media
import AnselmGateway.MediaStoreSemantics

/-! What one turn of a call can do. Whatever the call, a turn is one of nine
effects on the shared state, and what the call holds afterwards it held before or
has just read. Every invariant of a run is derived from this. -/
namespace AnselmGateway.MediaSemantics
open Foundation MediaFiles MediaStore MediaStoreSemantics Media

/-! ## What a call in flight holds -/

/-- The uploads whose cursor the call still relies on. -/
def cursors : Proc → List (String × Upload)
  | .appendSize c | .appendRepair c | .appendWrite c | .appendAdvance c | .appendUndo c _ =>
    [(c.uploadID, c.upload)]
  | .completeHash c | .completeSniff c _ _ | .completeSeal c _ _ => [(c.uploadID, c.upload)]
  | .recoverSize _ open_ => open_
  | .recoverClose _ _ rest => rest
  | .recoverTruncate _ uploadID u rest => (uploadID, u) :: rest
  | _ => []

/-- The files the call is going to remove. -/
def removals : Proc → List String
  | .cancelRemove uploadID => [uploadID]
  | .recoverRemove _ ids => ids
  | .recoverAcknowledge _ _ rest => rest
  | _ => []

/-- The file the call has removed, and is to acknowledge. -/
def acknowledging : Proc → Option String
  | .recoverAcknowledge _ uploadID _ => some uploadID
  | _ => none

/-- The upload the call is creating. -/
def creating : Proc → Option String
  | .createFile uploadID _ | .createRecord uploadID _ | .createUndo uploadID => some uploadID
  | _ => none

/-- The file and length the call cuts to in its next turn. -/
def cut : Proc → Option (String × ℕ)
  | .appendRepair c | .appendUndo c _ => some (c.uploadID, c.upload.receivedBytes)
  | .recoverTruncate _ uploadID u _ => some (uploadID, u.receivedBytes)
  | _ => none

/-- The append that writes in its next turn. -/
def writing : Proc → Option AppendCall
  | .appendWrite c => some c
  | _ => none

/-- The append whose bytes wait for their cursor. -/
def pending : Proc → Option AppendCall
  | .appendAdvance c => some c
  | _ => none

/-- The digest and size a completion has read off its file. -/
def hashed : Proc → Option (CompleteCall × String × ℕ)
  | .completeSniff c sha size | .completeSeal c sha size => some (c, sha, size)
  | _ => none

/-- The lease a reader has been let in under, and what it has read so far. -/
def reading : Proc → Option (Lease × Bytes)
  | .leaseOpen lease => some (lease, [])
  | .leaseServe lease taken => some (lease, taken)
  | _ => none

/-- The call knows this upload id from the store or from its own draw. -/
def Holds (proc : Proc) (uploadID : String) : Prop :=
  (∃ u, (uploadID, u) ∈ cursors proc) ∨ uploadID ∈ removals proc ∨ creating proc = some uploadID

/-- An upload whose file may go: aborted, expired, or under an expired lease. -/
def Spent (uploadID : String) (db : Database) : Prop :=
  ∃ v, db.uploads.get? uploadID = some v ∧ (v.state = .aborted ∨ v.state = .expired ∨
    ∃ leaseID l, db.leases.table.get? leaseID = some l ∧ l.uploadID = uploadID ∧ l.state = .expired)

/-- The turn reports no append, and leaves none to be recorded. -/
def Quiet (r : Result) : Prop :=
  pending r.proc = none ∧ ∀ uploadID chunk, r.reply ≠ some (.appended uploadID chunk)

/-! ## Effects -/

/-- The effects a turn can have on the shared state. -/
inductive Effect (turn : Turn) (world : World) (proc : Proc) (r : Result) : Prop
  /-- At most states move forward in the tables. -/
  | tables (quiet : Quiet r) (files : r.world.files = world.files)
      (uploads : ∀ id, Steady (world.db.uploads.get? id) (r.world.db.uploads.get? id))
      (leases : ∀ id, Retired (world.db.leases.table.get? id) (r.world.db.leases.table.get? id))
  /-- A removed file is acknowledged in the tables. -/
  | acknowledged (quiet : Quiet r) (uploadID : String) (by_ : acknowledging proc = some uploadID)
      (files : r.world.files = world.files)
      (tables : Acknowledged uploadID world.db r.world.db)
  /-- A new file. -/
  | staged (quiet : Quiet r) (uploadID : String) (row : Upload)
      (by_ : proc = .createFile uploadID row)
      (next : r.proc = .createRecord uploadID row ∨ r.proc = .done)
      (world' : r.world = { world with files := world.files.write uploadID ⟨[], true⟩ })
  /-- Its row. -/
  | recorded (quiet : Quiet r) (uploadID : String) (row : Upload)
      (by_ : proc = .createRecord uploadID row) (next : r.proc = .done)
      (files : r.world.files = world.files) (leases : r.world.db.leases = world.db.leases)
      (fresh : world.db.uploads.get? uploadID = none)
      (uploads : ∀ id, r.world.db.uploads.get? id =
        if id = uploadID then some row else world.db.uploads.get? id)
  /-- A file cut to a cursor. -/
  | truncated (quiet : Quiet r) (uploadID : String) (size : ℕ) (bytes : Bytes)
      (by_ : cut proc = some (uploadID, size)) (taken : turn.outcome ≠ .refused)
      (held : world.files uploadID = some ⟨bytes, true⟩) (fits : size ≤ bytes.length)
      (world' : r.world = { world with files := world.files.write uploadID ⟨bytes.take size, true⟩ })
  /-- Bytes written at the end of a file. -/
  | written (c : AppendCall) (bytes written : Bytes) (by_ : proc = .appendWrite c)
      (held : world.files c.uploadID = some ⟨bytes, true⟩)
      (atEnd : bytes.length = c.upload.receivedBytes) (nonempty : written ≠ [])
      (part : written.length ≤ c.chunk.length)
      (next : (r.proc = .appendAdvance c ∧ written = c.chunk) ∨ r.proc = .done)
      (silent : ∀ uploadID chunk, r.reply ≠ some (.appended uploadID chunk))
      (world' : r.world = { world with
        files := world.files.write c.uploadID ⟨bytes ++ written, true⟩ })
  /-- A cursor advanced over them. -/
  | advanced (c : AppendCall) (v : Upload) (by_ : proc = .appendAdvance c) (next : r.proc = .done)
      (reply : r.reply = some (.appended c.uploadID c.chunk)) (files : r.world.files = world.files)
      (leases : r.world.db.leases = world.db.leases)
      (held : world.db.uploads.get? c.uploadID = some v) (open_ : v.state = .open)
      (expected : v.receivedBytes = c.upload.receivedBytes)
      (uploads : ∀ id, r.world.db.uploads.get? id = if id = c.uploadID then
        some { v with receivedBytes := c.upload.receivedBytes + c.chunk.length, updatedAt := turn.now }
        else world.db.uploads.get? id)
  /-- An upload sealed, with its lease. -/
  | sealed (quiet : Quiet r) (c : CompleteCall) (sha : String) (size : ℕ) (v : Upload) (lease : Lease)
      (by_ : proc = .completeSeal c sha size) (files : r.world.files = world.files)
      (held : world.db.uploads.get? c.uploadID = some v) (open_ : v.state = .open)
      (digest : v.expectedSHA256 = sha)
      (uploads : ∀ id, r.world.db.uploads.get? id = if id = c.uploadID then
        some { v with state := .completed, completedAt := some turn.now, updatedAt := turn.now }
        else world.db.uploads.get? id)
      (of : lease.uploadID = c.uploadID ∧ lease.sha256 = sha ∧ lease.sizeBytes = size ∧
        lease.state = .active)
      (fresh : world.db.leases.table.get? turn.leaseID = none)
      (leases : ∀ id, r.world.db.leases.table.get? id =
        if id = turn.leaseID then some lease else world.db.leases.table.get? id)
  /-- A file unlinked. -/
  | removed (quiet : Quiet r) (uploadID : String) (bytes : Bytes)
      (by_ : uploadID ∈ removals proc ∨ proc = .createUndo uploadID)
      (held : world.files uploadID = some ⟨bytes, true⟩)
      (world' : r.world = { world with files := world.files.write uploadID ⟨bytes, false⟩ })

/-- A completion reads its whole file in this turn, as its upload declares it. -/
def HashedNow (env : Environment) (turn : Turn) (world : World) (proc : Proc) (c : CompleteCall)
    (sha : String) (size : ℕ) : Prop :=
  ∃ bytes, hashing turn world proc = some (c.uploadID, bytes) ∧
    world.files c.uploadID = some ⟨bytes, true⟩ ∧ env.sha256 bytes = sha ∧ bytes.length = size ∧
    sha = c.upload.expectedSHA256 ∧ size = c.upload.totalBytes

/-- A reader goes on from where it was, perhaps with more of its file. -/
def ReadOn (world : World) (proc : Proc) (l : Lease) (taken : Bytes) : Prop :=
  ∃ earlier, reading proc = some (l, earlier) ∧ (taken = earlier ∨ ∃ file n,
    world.files l.uploadID = some file ∧ taken = earlier ++ (file.bytes.drop earlier.length).take n)

/-- A turn: its effect, and where everything the call now holds comes from. -/
structure Turned (env : Environment) (turn : Turn) (world : World) (proc : Proc) (r : Result) :
    Prop where
  effect : Effect turn world proc r
  known : ∀ row ∈ cursors r.proc, row ∈ cursors proc ∨
    world.db.uploads.get? row.1 = some row.2
  spent : ∀ id ∈ removals r.proc, id ∈ removals proc ∨ Spent id r.world.db
  acked : ∀ id, acknowledging r.proc = some id → id ∈ removals proc ∧
    ∀ bytes, r.world.files id ≠ some ⟨bytes, true⟩
  draft : ∀ id, creating r.proc = some id → creating proc = some id
  staged : ∀ id row, r.proc ≠ .createFile id row ∧ (r.proc = .createRecord id row →
    proc = .createFile id row ∧ r.world.files id = some ⟨[], true⟩)
  within : ∀ c, writing r.proc = some c →
    c.upload.receivedBytes + c.chunk.length ≤ c.upload.totalBytes
  digest : ∀ c sha size, hashed r.proc = some (c, sha, size) →
    hashed proc = some (c, sha, size) ∨ HashedNow env turn world proc c sha size
  admitted : ∀ l taken, reading r.proc = some (l, taken) → ReadOn world proc l taken ∨
    (taken = [] ∧ ∃ leaseID, world.db.leases.table.get? leaseID = some l ∧ l.state = .active)
  body : ∀ l body, r.reply = some (.served l body) → ∃ taken file,
    reading proc = some (l, taken) ∧ world.files l.uploadID = some file ∧
      body = taken ++ file.bytes.drop taken.length

/-! ## Operations of a turn -/

section Operations
variable {turn : Turn} {world after : World}

theorem fileStep_cases {operation : Files → Except FileError Files} {ok : Bool}
    (ran : fileStep turn operation world = (ok, after)) :
    (ok = false ∧ after = world) ∨ (turn.outcome ≠ .refused ∧ ∃ files,
      operation world.files = .ok files ∧ after = { world with files := files }) := by
  unfold fileStep at ran
  split at ran
  · rename_i files through ok
    cases ran
    exact .inr ⟨by simp [through], files, ok, rfl⟩
  · rename_i files late ok
    cases ran
    exact .inr ⟨by simp [late], files, ok, rfl⟩
  · cases ran
    exact .inl ⟨rfl, rfl⟩

theorem fileStep_through {operation : Files → Except FileError Files}
    (ran : fileStep turn operation world = (true, after)) : turn.outcome = .through := by
  unfold fileStep at ran
  split at ran
  · assumption
  · cases ran
  · cases ran

theorem statement_cases {α : Type} {operation : Database → Except Refusal (α × Database)}
    {answer : Option α} (ran : statement turn operation world = (answer, after)) :
    (answer = none ∧ after = world) ∨ ∃ value db, answer = some value ∧
      operation world.db = .ok (value, db) ∧ after = { world with db := db } := by
  unfold statement at ran
  split at ran
  · rename_i value db through ok
    cases ran
    exact .inr ⟨value, db, rfl, ok, rfl⟩
  · cases ran
    exact .inl ⟨rfl, rfl⟩

theorem execute_cases {operation : Database → Except Refusal Database} {answer : Option Unit}
    (ran : execute turn operation world = (answer, after)) :
    (answer = none ∧ after = world) ∨ (answer = some () ∧ ∃ db,
      operation world.db = .ok db ∧ after = { world with db := db }) := by
  rcases statement_cases ran with stopped | ⟨value, db, rfl, ok, rfl⟩
  · exact .inl stopped
  · refine .inr ⟨rfl, db, ?_, rfl⟩
    cases stored : operation world.db with
    | error refusal => simp [stored, Except.map] at ok
    | ok after =>
      simp only [stored, Except.map, Except.ok.injEq, Prod.mk.injEq, true_and] at ok
      rw [ok]

theorem query_some {α : Type} {operation : Database → α} {answer : α}
    (ran : query turn operation world = some answer) : operation world.db = answer := by
  unfold query at ran
  split at ran
  · exact Option.some.inj ran
  · cases ran

theorem fileRead_ok {α : Type} {operation : Files → Except FileError α} {answer : α}
    (ran : fileRead turn operation world = .ok answer) : operation world.files = .ok answer := by
  unfold fileRead at ran
  split at ran
  · exact ran
  · cases ran

end Operations

/-! ## The two common shapes of a turn -/

section Shapes
variable {env : Environment} {turn : Turn} {world : World} {proc : Proc}

theorem Effect.unchanged {r : Result} (quiet : Quiet r) (same : r.world = world) :
    Effect turn world proc r :=
  .tables quiet (by rw [same]) (fun _ => by rw [same]; exact Steady.refl _)
    fun _ => by rw [same]; exact Retired.refl _

private theorem nobody {α : Type} {list : List α} {a : α} {p : Prop} (nil : list = []) :
    a ∈ list → p :=
  fun member => absurd (nil ▸ member) List.not_mem_nil

private theorem nothing {α : Type} {value : Option α} {a : α} {p : Prop} (none_ : value = none) :
    value = some a → p :=
  fun same => absurd (none_.symm.trans same) nofun

private theorem undrafted {proc : Proc} {p : String → Upload → Prop} (none_ : creating proc = none)
    (id : String) (row : Upload) :
    proc ≠ .createFile id row ∧ (proc = .createRecord id row → p id row) := by
  constructor
  · intro same
    rw [same] at none_
    cases none_
  · intro same
    rw [same] at none_
    cases none_

/-- At most cursors are left of the call. -/
structure Plain (proc : Proc) : Prop where
  removals : removals proc = []
  acknowledging : acknowledging proc = none
  creating : creating proc = none
  writing : writing proc = none
  hashed : hashed proc = none
  reading : reading proc = none

theorem Turned.plain {r : Result} (effect : Effect turn world proc r) (plain : Plain r.proc)
    (cursors : ∀ row ∈ cursors r.proc, row ∈ cursors proc ∨
      world.db.uploads.get? row.1 = some row.2)
    (unserved : ∀ l body, r.reply ≠ some (.served l body)) : Turned env turn world proc r where
  effect := effect
  known := cursors
  spent := fun _ => nobody plain.removals
  acked := fun _ => nothing plain.acknowledging
  draft := fun _ => nothing plain.creating
  staged := undrafted plain.creating
  within := fun _ => nothing plain.writing
  digest := fun _ _ _ => nothing plain.hashed
  admitted := fun _ _ => nothing plain.reading
  body := fun l body same => absurd same (unserved l body)

/-- A call that is over holds nothing. -/
theorem Turned.over {world' : World} {reply : Option Reply}
    (effect : Effect turn world proc ⟨.done, world', reply⟩)
    (unserved : ∀ l body, reply ≠ some (.served l body)) :
    Turned env turn world proc ⟨.done, world', reply⟩ :=
  .plain effect ⟨rfl, rfl, rfl, rfl, rfl, rfl⟩ (fun _ => nobody rfl) unserved

/-- A call that stops with an error, and has done nothing in this turn. -/
theorem Turned.failed (error : MediaError) : Turned env turn world proc (fail world error) :=
  .over (.unchanged ⟨rfl, nofun⟩ rfl) nofun

/-- A call that has only looked, and goes on with cursors it has or has read. -/
theorem Turned.looked {next : Proc} (unreported : pending next = none) (plain : Plain next)
    (cursors : ∀ row ∈ cursors next, row ∈ cursors proc ∨
      world.db.uploads.get? row.1 = some row.2) : Turned env turn world proc (stay world next) :=
  .plain (.unchanged ⟨unreported, nofun⟩ rfl) plain cursors nofun

/-- A call that goes on to remove files. -/
theorem Turned.removing {world' : World} {next : Proc}
    (effect : Effect turn world proc (stay world' next))
    (only : cursors next = [] ∧ creating next = none ∧ writing next = none ∧
      hashed next = none ∧ reading next = none)
    (removals : ∀ id ∈ removals next, id ∈ removals proc ∨ Spent id world'.db)
    (acked : ∀ id, acknowledging next = some id → id ∈ MediaSemantics.removals proc ∧
      ∀ bytes, world'.files id ≠ some ⟨bytes, true⟩) :
    Turned env turn world proc (stay world' next) where
  effect := effect
  known := fun _ => nobody only.1
  spent := removals
  acked := acked
  draft := fun _ => nothing only.2.1
  staged := undrafted only.2.1
  within := fun _ => nothing only.2.2.1
  digest := fun _ _ _ => nothing only.2.2.2.1
  admitted := fun _ _ => nothing only.2.2.2.2
  body := nofun

/-- A call that goes on creating its upload. -/
theorem Turned.creates {world' : World} {next : Proc}
    (effect : Effect turn world proc (stay world' next))
    (only : cursors next = [] ∧ removals next = [] ∧ acknowledging next = none ∧
      writing next = none ∧ hashed next = none ∧ reading next = none)
    (same : creating next = creating proc)
    (staged : ∀ id row, next ≠ .createFile id row ∧ (next = .createRecord id row →
      proc = .createFile id row ∧ world'.files id = some ⟨[], true⟩)) : Turned env turn world proc (stay world' next) where
  effect := effect
  known := fun _ => nobody only.1
  spent := fun _ => nobody only.2.1
  acked := fun _ => nothing only.2.2.1
  draft := fun _ created => same ▸ created
  staged := staged
  within := fun _ => nothing only.2.2.2.1
  digest := fun _ _ _ => nothing only.2.2.2.2.1
  admitted := fun _ _ => nothing only.2.2.2.2.2
  body := nofun

/-- An append that goes on to write within its total. -/
theorem Turned.writes {world' : World} {c : AppendCall}
    (effect : Effect turn world proc (stay world' (.appendWrite c)))
    (held : (c.uploadID, c.upload) ∈ cursors proc)
    (within : c.upload.receivedBytes + c.chunk.length ≤ c.upload.totalBytes) :
    Turned env turn world proc (stay world' (.appendWrite c)) where
  effect := effect
  known := fun row member => .inl (List.mem_singleton.mp member ▸ held)
  spent := fun _ => nobody rfl
  acked := fun _ => nothing rfl
  draft := fun _ => nothing rfl
  staged := undrafted rfl
  within := fun c' same => by
    cases same
    exact within
  digest := fun _ _ _ => nothing rfl
  admitted := fun _ _ => nothing rfl
  body := nofun

/-- A completion that has looked at its file, and goes on. -/
theorem Turned.hashes {next : Proc} {c : CompleteCall} {sha : String} {size : ℕ}
    (next_ : next = .completeSniff c sha size ∨ next = .completeSeal c sha size)
    (held : (c.uploadID, c.upload) ∈ cursors proc)
    (read : hashed proc = some (c, sha, size) ∨ HashedNow env turn world proc c sha size) :
    Turned env turn world proc (stay world next) := by
  rcases next_ with rfl | rfl
  all_goals
    refine ⟨.unchanged ⟨rfl, nofun⟩ rfl, fun row member => .inl (List.mem_singleton.mp member ▸ held),
      fun _ => nobody rfl, fun _ => nothing rfl, fun _ => nothing rfl, undrafted rfl,
      fun _ => nothing rfl, fun _ _ _ same => ?_, fun _ _ => nothing rfl, nofun⟩
    cases same
    exact read

/-- A reader that goes on. -/
theorem Turned.reads {next : Proc} {l : Lease} {taken : Bytes}
    (next_ : next = .leaseOpen l ∧ taken = [] ∨ next = .leaseServe l taken)
    (read : ReadOn world proc l taken ∨ (taken = [] ∧ ∃ leaseID,
      world.db.leases.table.get? leaseID = some l ∧ l.state = .active)) :
    Turned env turn world proc (stay world next) := by
  rcases next_ with ⟨rfl, rfl⟩ | rfl
  all_goals
    refine ⟨.unchanged ⟨rfl, nofun⟩ rfl, fun _ => nobody rfl, fun _ => nobody rfl,
      fun _ => nothing rfl, fun _ => nothing rfl, undrafted rfl, fun _ => nothing rfl, fun _ _ _ => nothing rfl,
      fun _ _ same => ?_, nofun⟩
    cases same
    exact read

end Shapes

/-! ## Each call -/

section Calls
variable (env : Environment) (turn : Turn) (world : World)

private theorem createFile_turned (uploadID : String) (row : Upload) :
    Turned env turn world (.createFile uploadID row)
      (createStep turn world (.createFile uploadID row)) := by
  unfold createStep
  dsimp only
  generalize ran : fileStep turn (create uploadID) world = outcome
  rcases outcome with ⟨ok, after⟩
  rcases fileStep_cases ran with ⟨rfl, rfl⟩ | ⟨_, files, created, rfl⟩
  · exact .failed _
  · have stored := create_ok created
    subst stored
    cases ok with
    | false => exact .over (.staged ⟨rfl, nofun⟩ uploadID row rfl (.inr rfl) rfl) nofun
    | true =>
      refine .creates (.staged ⟨rfl, nofun⟩ uploadID row rfl (.inl rfl) rfl)
        ⟨rfl, rfl, rfl, rfl, rfl, rfl⟩ rfl fun id row' => ⟨nofun, fun same => ?_⟩
      cases same
      exact ⟨rfl, write_same _⟩

private theorem createRecord_turned (uploadID : String) (row : Upload) :
    Turned env turn world (.createRecord uploadID row)
      (createStep turn world (.createRecord uploadID row)) := by
  unfold createStep
  dsimp only
  generalize ran : execute turn (createUpload uploadID row) world = outcome
  rcases outcome with ⟨answer, after⟩
  rcases execute_cases ran with ⟨rfl, rfl⟩ | ⟨rfl, db, stored, rfl⟩
  · exact .creates (.unchanged ⟨rfl, nofun⟩ rfl) ⟨rfl, rfl, rfl, rfl, rfl, rfl⟩ rfl
      fun id row => ⟨nofun, nofun⟩
  · obtain ⟨fresh, leases, reads⟩ := createUpload_ok stored
    exact .over (.recorded ⟨rfl, nofun⟩ uploadID row rfl rfl rfl leases fresh reads) nofun

/-- Unlinking one of the files a call may remove. -/
private theorem removed_effect {proc : Proc} {uploadID : String} {ok : Bool} {after : World}
    {next : Proc} {reply : Option Reply}
    (quiet : Quiet ⟨next, after, reply⟩) (by_ : uploadID ∈ removals proc ∨ proc = .createUndo uploadID)
    (ran : fileStep turn (remove uploadID) world = (ok, after)) :
    Effect turn world proc ⟨next, after, reply⟩ := by
  rcases fileStep_cases ran with ⟨_, rfl⟩ | ⟨_, files, gone, rfl⟩
  · exact .unchanged quiet rfl
  · rcases remove_ok gone with rfl | ⟨bytes, held, rfl⟩
    · exact .unchanged quiet rfl
    · exact .removed quiet uploadID bytes by_ held rfl

private theorem createUndo_turned (uploadID : String) :
    Turned env turn world (.createUndo uploadID) (createStep turn world (.createUndo uploadID)) := by
  unfold createStep
  dsimp only
  generalize ran : fileStep turn (remove uploadID) world = outcome
  exact .over (removed_effect turn world ⟨rfl, nofun⟩ (.inr rfl) ran) nofun

/-- Cutting a file back to a cursor. -/
private theorem cut_effect {proc : Proc} {uploadID : String} {size : ℕ} {ok : Bool} {after : World}
    {next : Proc} {reply : Option Reply} (quiet : Quiet ⟨next, after, reply⟩)
    (by_ : cut proc = some (uploadID, size))
    (ran : fileStep turn (truncate uploadID size) world = (ok, after)) :
    Effect turn world proc ⟨next, after, reply⟩ := by
  rcases fileStep_cases ran with ⟨_, rfl⟩ | ⟨taken, files, shorter, rfl⟩
  · exact .unchanged quiet rfl
  · obtain ⟨bytes, held, fits, rfl⟩ := truncate_ok shorter
    exact .truncated quiet uploadID size bytes by_ taken held fits rfl

private theorem openOwned_ok {now : ℤ} {row : Option Upload} {u : Upload}
    (owned : openOwned now row = .ok u) : row = some u := by
  unfold openOwned at owned
  split at owned
  · cases owned
  · split at owned
    · cases owned
    · cases owned
      rfl

private theorem appendRead_turned (installID uploadID : String) (expectedOffset : ℤ) (chunk : Bytes) :
    Turned env turn world (.appendRead installID uploadID expectedOffset chunk)
      (appendStep turn world (.appendRead installID uploadID expectedOffset chunk)) := by
  unfold appendStep
  dsimp only
  split
  · exact .failed _
  · rename_i row found
    split
    · exact .failed _
    · rename_i u owned
      split
      · exact .failed _
      · obtain rfl := openOwned_ok owned
        have held := getUploadForInstall_some (query_some found)
        refine .looked rfl ⟨rfl, rfl, rfl, rfl, rfl, rfl⟩ fun row member => .inr ?_
        rw [List.mem_singleton.mp member]
        exact held

private theorem appendSize_turned (c : AppendCall) :
    Turned env turn world (.appendSize c) (appendStep turn world (.appendSize c)) := by
  unfold appendStep
  dsimp only
  split
  · exact .failed _
  · split
    · exact .failed _
    · split
      · exact .looked rfl ⟨rfl, rfl, rfl, rfl, rfl, rfl⟩ fun _ member => .inl member
      · split
        · exact .failed _
        · rename_i within
          exact .writes (.unchanged ⟨rfl, nofun⟩ rfl) (List.mem_singleton_self _)
            (Nat.not_lt.mp within)

private theorem appendRepair_turned (c : AppendCall) :
    Turned env turn world (.appendRepair c) (appendStep turn world (.appendRepair c)) := by
  unfold appendStep
  dsimp only
  generalize ran : fileStep turn (truncate c.uploadID c.upload.receivedBytes) world = outcome
  rcases outcome with ⟨_ | _, after⟩
  · exact .over (cut_effect turn world ⟨rfl, nofun⟩ rfl ran) nofun
  · dsimp only
    split
    · exact .over (cut_effect turn world ⟨rfl, nofun⟩ rfl ran) nofun
    · rename_i within
      exact .writes (cut_effect turn world ⟨rfl, nofun⟩ rfl ran) (List.mem_singleton_self _)
        (Nat.not_lt.mp within)

private theorem writtenBytes_length (chunk : Bytes) :
    (writtenBytes turn chunk).length ≤ chunk.length := by
  unfold writtenBytes
  split
  · exact List.length_take_le' _ _
  · exact Nat.le_refl _

private theorem appendWrite_turned (c : AppendCall) :
    Turned env turn world (.appendWrite c) (appendStep turn world (.appendWrite c)) := by
  unfold appendStep
  dsimp only
  generalize ran : fileStep turn (append c.uploadID c.upload.receivedBytes
    (writtenBytes turn c.chunk)) world = outcome
  rcases outcome with ⟨ok, after⟩
  rcases fileStep_cases ran with ⟨rfl, rfl⟩ | ⟨_, files, appended, rfl⟩
  · exact .failed _
  · obtain ⟨bytes, held, atEnd, nonempty, rfl⟩ := append_ok appended
    have part := writtenBytes_length turn c.chunk
    cases ok with
    | false =>
      exact .over (.written c bytes _ rfl held atEnd nonempty part (.inr rfl) nofun rfl) nofun
    | true =>
      have whole : writtenBytes turn c.chunk = c.chunk := by
        rw [writtenBytes, fileStep_through ran]
      exact .plain (.written c bytes _ rfl held atEnd nonempty part (.inl ⟨rfl, whole⟩) nofun rfl)
        ⟨rfl, rfl, rfl, rfl, rfl, rfl⟩ (fun _ member => .inl member) nofun

private theorem appendAdvance_turned (c : AppendCall) :
    Turned env turn world (.appendAdvance c) (appendStep turn world (.appendAdvance c)) := by
  unfold appendStep
  dsimp only
  generalize ran : statement turn (advanceReceived c.installID c.uploadID c.upload.receivedBytes
    (c.upload.receivedBytes + c.chunk.length) turn.now) world = outcome
  rcases outcome with ⟨answer, after⟩
  rcases statement_cases ran with ⟨rfl, rfl⟩ | ⟨advanced, db, rfl, stored, rfl⟩
  · exact .looked rfl ⟨rfl, rfl, rfl, rfl, rfl, rfl⟩ fun _ member => .inl member
  · obtain ⟨leases, others, lost, won⟩ := advanceReceived_ok stored
    cases advanced with
    | false =>
      refine .plain (.tables ⟨rfl, nofun⟩ rfl (fun id => ?_) fun id => ?_) ⟨rfl, rfl, rfl, rfl, rfl, rfl⟩
        (fun _ member => .inl member) nofun
      · by_cases same : id = c.uploadID
        · dsimp only [stay]
          rw [same, lost rfl]
          exact Steady.refl _
        · dsimp only [stay]
          rw [others id same]
          exact Steady.refl _
      · dsimp only [stay]
        rw [leases]
        exact Retired.refl _
    | true =>
      obtain ⟨v, _, held, open_, expected, reads⟩ := won rfl
      refine .over (.advanced c v rfl rfl rfl rfl leases held open_ expected fun id => ?_) nofun
      dsimp only
      split
      · rename_i same
        rw [same, reads]
      · rename_i apart
        exact others id apart

private theorem appendUndo_turned (c : AppendCall) (error : MediaError) :
    Turned env turn world (.appendUndo c error) (appendStep turn world (.appendUndo c error)) := by
  unfold appendStep
  dsimp only
  generalize ran : fileStep turn (truncate c.uploadID c.upload.receivedBytes) world = outcome
  exact .over (cut_effect turn world ⟨rfl, nofun⟩ rfl ran) nofun

private theorem completeRead_turned (installID uploadID : String) :
    Turned env turn world (.completeRead installID uploadID)
      (completeStep env turn world (.completeRead installID uploadID)) := by
  unfold completeStep
  dsimp only
  split
  · exact .failed _
  · rename_i row found
    split
    · exact .failed _
    · rename_i u owned
      split
      · exact .failed _
      · obtain rfl := openOwned_ok owned
        have held := getUploadForInstall_some (query_some found)
        refine .looked rfl ⟨rfl, rfl, rfl, rfl, rfl, rfl⟩ fun row member => .inr ?_
        rw [List.mem_singleton.mp member]
        exact held

private theorem completeHash_turned (c : CompleteCall) :
    Turned env turn world (.completeHash c) (completeStep env turn world (.completeHash c)) := by
  unfold completeStep
  dsimp only
  split
  · exact .failed _
  · rename_i bytes found
    split
    · exact .failed _
    · rename_i whole
      obtain ⟨length, digest⟩ := not_or.mp whole
      refine .hashes (.inl rfl) (List.mem_singleton_self _) (.inr ⟨bytes, ?_, read_ok (fileRead_ok found), rfl, rfl,
        not_not.mp digest, not_not.mp length⟩)
      rw [hashing, found]

private theorem completeSniff_turned (c : CompleteCall) (sha : String) (size : ℕ) :
    Turned env turn world (.completeSniff c sha size)
      (completeStep env turn world (.completeSniff c sha size)) := by
  unfold completeStep
  dsimp only
  split
  · exact .failed _
  · split
    · exact .failed _
    · exact .hashes (.inr rfl) (List.mem_singleton_self _) (.inl rfl)

private theorem completeSeal_turned (c : CompleteCall) (sha : String) (size : ℕ) :
    Turned env turn world (.completeSeal c sha size)
      (completeStep env turn world (.completeSeal c sha size)) := by
  unfold completeStep
  dsimp only
  generalize ran : statement turn (completeUpload c.installID c.uploadID sha turn.now turn.leaseID
    (newLease env turn c sha size)) world = outcome
  rcases outcome with ⟨answer, after⟩
  rcases statement_cases ran with ⟨rfl, rfl⟩ | ⟨completed, db, rfl, stored, rfl⟩
  · exact .failed _
  · obtain ⟨lost, won⟩ := completeUpload_ok stored
    cases completed with
    | false =>
      obtain ⟨uploads, leases⟩ := lost rfl
      refine .over (.tables ⟨rfl, nofun⟩ rfl (fun id => ?_) fun id => ?_) nofun
      · dsimp only
        rw [uploads]
        exact Steady.refl _
      · dsimp only
        rw [leases]
        exact Retired.refl _
    | true =>
      obtain ⟨v, held, open_, _, digest, uploads, fresh, leases⟩ := won rfl
      exact .plain (.sealed ⟨rfl, nofun⟩ c sha size v _ rfl rfl held open_ digest uploads
        ⟨rfl, rfl, rfl, rfl⟩ fresh leases) ⟨rfl, rfl, rfl, rfl, rfl, rfl⟩ (fun _ => nobody rfl) nofun

private theorem completeReport_turned (installID leaseID : String) :
    Turned env turn world (.completeReport installID leaseID)
      (completeStep env turn world (.completeReport installID leaseID)) := by
  unfold completeStep
  dsimp only
  split
  · exact .failed _
  · exact .failed _
  · exact .over (.unchanged ⟨rfl, nofun⟩ rfl) nofun

/-- A call goes on to remove a file it has found to be spent. -/
private theorem removal_looked {proc next : Proc} {uploadID : String}
    (next_ : next = .cancelRemove uploadID) (spent : Spent uploadID world.db) :
    Turned env turn world proc (stay world next) := by
  subst next_
  refine .removing (.unchanged ⟨rfl, nofun⟩ rfl) ⟨rfl, rfl, rfl, rfl, rfl⟩
    (fun id member => .inr ?_) fun _ => nothing rfl
  rw [List.mem_singleton.mp member]
  exact spent

private theorem cancelRead_turned (installID uploadID : String) :
    Turned env turn world (.cancelRead installID uploadID)
      (cancelStep turn world (.cancelRead installID uploadID)) := by
  unfold cancelStep
  dsimp only
  split
  · exact .failed _
  · exact .failed _
  · rename_i u found
    split
    · rename_i aborted
      exact removal_looked env turn world rfl
        ⟨u, getUploadForInstall_some (query_some found), .inl aborted⟩
    · split
      · exact .failed _
      · exact .looked rfl ⟨rfl, rfl, rfl, rfl, rfl, rfl⟩ fun _ => nobody rfl

private theorem cancelAbort_turned (installID uploadID : String) (now : ℤ) :
    Turned env turn world (.cancelAbort installID uploadID now)
      (cancelStep turn world (.cancelAbort installID uploadID now)) := by
  unfold cancelStep
  dsimp only
  generalize ran : statement turn (abortOpen installID uploadID now) world = outcome
  rcases outcome with ⟨answer, after⟩
  rcases statement_cases ran with ⟨rfl, rfl⟩ | ⟨aborted, db, rfl, stored, rfl⟩
  · exact .failed _
  · obtain ⟨steady, leases, reported⟩ := abortOpen_ok stored
    have tables {next : Proc} (unreported : pending next = none) :
        Effect turn world (.cancelAbort installID uploadID now)
          (stay { world with db := db } next) := by
      refine .tables ⟨unreported, nofun⟩ rfl steady fun id => ?_
      dsimp only [stay]
      rw [leases]
      exact Retired.refl _
    cases aborted with
    | false => exact .plain (tables rfl) ⟨rfl, rfl, rfl, rfl, rfl, rfl⟩ (fun _ => nobody rfl) nofun
    | true =>
      refine .removing (tables rfl) ⟨rfl, rfl, rfl, rfl, rfl⟩ (fun id member => .inr ?_)
        fun _ => nothing rfl
      rw [List.mem_singleton.mp member]
      obtain ⟨v, held, state⟩ := reported rfl
      exact ⟨v, held, .inl state⟩

private theorem cancelResolve_turned (installID uploadID : String) :
    Turned env turn world (.cancelResolve installID uploadID)
      (cancelStep turn world (.cancelResolve installID uploadID)) := by
  unfold cancelStep
  dsimp only
  split
  · exact .failed _
  · exact .failed _
  · rename_i u found
    split
    · exact .failed _
    · rename_i aborted
      exact removal_looked env turn world rfl
        ⟨u, getUploadForInstall_some (query_some found), .inl (not_not.mp aborted)⟩

private theorem cancelRemove_turned (uploadID : String) :
    Turned env turn world (.cancelRemove uploadID)
      (cancelStep turn world (.cancelRemove uploadID)) := by
  unfold cancelStep
  dsimp only
  generalize ran : fileStep turn (remove uploadID) world = outcome
  have listed : uploadID ∈ removals (.cancelRemove uploadID) := List.mem_singleton_self _
  rcases outcome with ⟨_ | _, after⟩
  · exact .over (removed_effect turn world ⟨rfl, nofun⟩ (.inl listed) ran) nofun
  · exact .over (removed_effect turn world ⟨rfl, nofun⟩ (.inl listed) ran) nofun

private theorem recoverExpire_turned :
    Turned env turn world .recoverExpire (recoverStep turn world .recoverExpire) := by
  unfold recoverStep
  dsimp only
  generalize ran : execute turn (expire turn.now) world = outcome
  rcases outcome with ⟨answer, after⟩
  rcases execute_cases ran with ⟨rfl, rfl⟩ | ⟨rfl, db, stored, rfl⟩
  · exact .failed _
  · obtain ⟨uploads, leases⟩ := expire_ok stored
    exact .plain (.tables ⟨rfl, nofun⟩ rfl uploads leases) ⟨rfl, rfl, rfl, rfl, rfl, rfl⟩
      (fun _ => nobody rfl) nofun

private theorem recoverOpen_turned (now : ℤ) :
    Turned env turn world (.recoverOpen now) (recoverStep turn world (.recoverOpen now)) := by
  unfold recoverStep
  dsimp only
  split
  · exact .failed _
  · rename_i open_ found
    refine .looked rfl ⟨rfl, rfl, rfl, rfl, rfl, rfl⟩ fun row member => .inr ?_
    have same := query_some found
    subst same
    exact mem_openUploads member

private theorem recoverSize_turned (now : ℤ) (open_ : List (String × Upload)) :
    Turned env turn world (.recoverSize now open_)
      (recoverStep turn world (.recoverSize now open_)) := by
  cases open_ with
  | nil =>
    unfold recoverStep
    dsimp only
    split
    · exact .failed _
    · rename_i ids found
      refine .removing (.unchanged ⟨rfl, nofun⟩ rfl) ⟨rfl, rfl, rfl, rfl, rfl⟩
        (fun id member => .inr ?_) fun _ => nothing rfl
      have same := query_some found
      subst same
      exact mem_expiredFileIDs member
  | cons row rest =>
    rcases row with ⟨uploadID, u⟩
    have rest_ (member : String × Upload) (held : member ∈ rest) :
        member ∈ cursors (.recoverSize now ((uploadID, u) :: rest)) ∨
          world.db.uploads.get? member.1 = some member.2 :=
      .inl (List.mem_cons_of_mem _ held)
    unfold recoverStep
    dsimp only
    split
    · exact .looked rfl ⟨rfl, rfl, rfl, rfl, rfl, rfl⟩ rest_
    · exact .failed _
    · split
      · exact .looked rfl ⟨rfl, rfl, rfl, rfl, rfl, rfl⟩ rest_
      · split
        · exact .looked rfl ⟨rfl, rfl, rfl, rfl, rfl, rfl⟩ fun _ member => .inl member
        · exact .looked rfl ⟨rfl, rfl, rfl, rfl, rfl, rfl⟩ rest_

private theorem recoverClose_turned (now : ℤ) (uploadID : String) (rest : List (String × Upload)) :
    Turned env turn world (.recoverClose now uploadID rest)
      (recoverStep turn world (.recoverClose now uploadID rest)) := by
  unfold recoverStep
  dsimp only
  generalize ran : execute turn (expireOpen uploadID now) world = outcome
  rcases outcome with ⟨answer, after⟩
  rcases execute_cases ran with ⟨rfl, rfl⟩ | ⟨rfl, db, stored, rfl⟩
  · exact .failed _
  · obtain ⟨uploads, leases⟩ := expireOpen_ok stored
    refine .plain (.tables ⟨rfl, nofun⟩ rfl uploads fun id => ?_) ⟨rfl, rfl, rfl, rfl, rfl, rfl⟩
      (fun _ member => .inl member) nofun
    dsimp only [stay]
    rw [leases]
    exact Retired.refl _

private theorem recoverTruncate_turned (now : ℤ) (uploadID : String) (u : Upload)
    (rest : List (String × Upload)) :
    Turned env turn world (.recoverTruncate now uploadID u rest)
      (recoverStep turn world (.recoverTruncate now uploadID u rest)) := by
  unfold recoverStep
  dsimp only
  generalize ran : fileStep turn (truncate uploadID u.receivedBytes) world = outcome
  rcases outcome with ⟨_ | _, after⟩
  · exact .over (cut_effect turn world ⟨rfl, nofun⟩ rfl ran) nofun
  · exact .plain (cut_effect turn world ⟨rfl, nofun⟩ rfl ran) ⟨rfl, rfl, rfl, rfl, rfl, rfl⟩
      (fun _ member => .inl (List.mem_cons_of_mem _ member)) nofun

private theorem recoverRemove_turned (now : ℤ) (ids : List String) :
    Turned env turn world (.recoverRemove now ids)
      (recoverStep turn world (.recoverRemove now ids)) := by
  cases ids with
  | nil =>
    unfold recoverStep
    dsimp only
    exact .over (.unchanged ⟨rfl, nofun⟩ rfl) nofun
  | cons uploadID rest =>
    unfold recoverStep
    dsimp only
    generalize ran : fileStep turn (remove uploadID) world = outcome
    have listed : uploadID ∈ removals (.recoverRemove now (uploadID :: rest)) := List.mem_cons_self
    rcases outcome with ⟨_ | _, after⟩
    · exact .over (removed_effect turn world ⟨rfl, nofun⟩ (.inl listed) ran) nofun
    · refine .removing (removed_effect turn world ⟨rfl, nofun⟩ (.inl listed) ran)
        ⟨rfl, rfl, rfl, rfl, rfl⟩ (fun _ member => .inl (List.mem_cons_of_mem _ member))
        fun id same => ?_
      cases same
      rcases fileStep_cases ran with ⟨failed, _⟩ | ⟨_, files, gone, rfl⟩
      · cases failed
      · exact ⟨listed, remove_unlinked gone⟩

private theorem recoverAcknowledge_turned (now : ℤ) (uploadID : String) (rest : List String) :
    Turned env turn world (.recoverAcknowledge now uploadID rest)
      (recoverStep turn world (.recoverAcknowledge now uploadID rest)) := by
  unfold recoverStep
  dsimp only
  generalize ran : execute turn (acknowledgeRemoved uploadID now) world = outcome
  rcases outcome with ⟨answer, after⟩
  rcases execute_cases ran with ⟨rfl, rfl⟩ | ⟨rfl, db, stored, rfl⟩
  · exact .failed _
  · exact .removing (.acknowledged ⟨rfl, nofun⟩ uploadID rfl rfl (acknowledgeRemoved_ok stored))
      ⟨rfl, rfl, rfl, rfl, rfl⟩ (fun _ member => .inl member) fun _ => nothing rfl

private theorem leaseRead_turned (owner : Option String) (leaseID token : String) :
    Turned env turn world (.leaseRead owner leaseID token)
      (leaseStep env turn world (.leaseRead owner leaseID token)) := by
  unfold leaseStep
  dsimp only
  split
  · exact .failed _
  · exact .failed _
  · rename_i lease found
    split
    · rename_i opened
      simp only [mayOpen, Bool.and_eq_true, decide_eq_true_eq] at opened
      exact .reads (.inl ⟨rfl, rfl⟩) (.inr ⟨rfl, leaseID, query_some found, opened.1.1.1.2⟩)
    · exact .failed _

private theorem leaseOpen_turned (lease : Lease) :
    Turned env turn world (.leaseOpen lease) (leaseStep env turn world (.leaseOpen lease)) := by
  unfold leaseStep
  dsimp only
  split
  · exact .failed _
  · exact .reads (.inr rfl) (.inl ⟨[], rfl, .inl rfl⟩)

private theorem leaseServe_turned (lease : Lease) (taken : Bytes) :
    Turned env turn world (.leaseServe lease taken)
      (leaseStep env turn world (.leaseServe lease taken)) := by
  unfold leaseStep
  dsimp only
  split
  · rename_i file held _
    refine ⟨.unchanged ⟨rfl, nofun⟩ rfl, fun _ => nobody rfl, fun _ => nobody rfl, fun _ => nothing rfl,
      fun _ => nothing rfl, undrafted rfl, fun _ => nothing rfl, fun _ _ _ => nothing rfl, fun _ _ => nothing rfl,
      fun l body same => ?_⟩
    cases same
    exact ⟨taken, file, rfl, held, rfl⟩
  · rename_i file n held _
    exact .reads (.inr rfl) (.inl ⟨taken, rfl, .inr ⟨file, n, held, rfl⟩⟩)
  · exact .failed _

private theorem revoke_turned (installID leaseID : String) :
    Turned env turn world (.revoke installID leaseID)
      (leaseStep env turn world (.revoke installID leaseID)) := by
  unfold leaseStep
  dsimp only
  generalize ran : statement turn (revokeLease installID leaseID) world = outcome
  rcases outcome with ⟨answer, after⟩
  rcases statement_cases ran with ⟨rfl, rfl⟩ | ⟨revoked, db, rfl, stored, rfl⟩
  · exact .failed _
  · obtain ⟨uploads, leases⟩ := revokeLease_ok stored
    refine .over (.tables ⟨rfl, nofun⟩ rfl (fun id => ?_) leases) nofun
    dsimp only
    rw [uploads]
    exact Steady.refl _

/-- Every turn of every call is one of the nine effects. -/
theorem turnOf_turned (proc : Proc) : Turned env turn world proc (turnOf env turn world proc) := by
  cases proc with
  | done => exact .over (.unchanged ⟨rfl, nofun⟩ rfl) nofun
  | createFile uploadID row => exact createFile_turned env turn world uploadID row
  | createRecord uploadID row => exact createRecord_turned env turn world uploadID row
  | createUndo uploadID => exact createUndo_turned env turn world uploadID
  | appendRead installID uploadID offset chunk =>
    exact appendRead_turned env turn world installID uploadID offset chunk
  | appendSize c => exact appendSize_turned env turn world c
  | appendRepair c => exact appendRepair_turned env turn world c
  | appendWrite c => exact appendWrite_turned env turn world c
  | appendAdvance c => exact appendAdvance_turned env turn world c
  | appendUndo c error => exact appendUndo_turned env turn world c error
  | completeRead installID uploadID => exact completeRead_turned env turn world installID uploadID
  | completeHash c => exact completeHash_turned env turn world c
  | completeSniff c sha size => exact completeSniff_turned env turn world c sha size
  | completeSeal c sha size => exact completeSeal_turned env turn world c sha size
  | completeReport installID leaseID => exact completeReport_turned env turn world installID leaseID
  | cancelRead installID uploadID => exact cancelRead_turned env turn world installID uploadID
  | cancelAbort installID uploadID now => exact cancelAbort_turned env turn world installID uploadID now
  | cancelResolve installID uploadID => exact cancelResolve_turned env turn world installID uploadID
  | cancelRemove uploadID => exact cancelRemove_turned env turn world uploadID
  | recoverExpire => exact recoverExpire_turned env turn world
  | recoverOpen now => exact recoverOpen_turned env turn world now
  | recoverSize now open_ => exact recoverSize_turned env turn world now open_
  | recoverClose now uploadID rest => exact recoverClose_turned env turn world now uploadID rest
  | recoverTruncate now uploadID u rest =>
    exact recoverTruncate_turned env turn world now uploadID u rest
  | recoverRemove now ids => exact recoverRemove_turned env turn world now ids
  | recoverAcknowledge now uploadID rest =>
    exact recoverAcknowledge_turned env turn world now uploadID rest
  | leaseRead owner leaseID token => exact leaseRead_turned env turn world owner leaseID token
  | leaseOpen lease => exact leaseOpen_turned env turn world lease
  | leaseServe lease taken => exact leaseServe_turned env turn world lease taken
  | revoke installID leaseID => exact revoke_turned env turn world installID leaseID

end Calls
end AnselmGateway.MediaSemantics
