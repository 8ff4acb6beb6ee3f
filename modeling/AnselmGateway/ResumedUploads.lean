import AnselmGateway.FaithfulUploads
import AnselmGateway.LeaseAuthorization
import AnselmGateway.RequestsAlone

/-! Uploads taken up again. Whatever has interrupted the requests of an upload before, its owner asks
where it stands, sends the rest of the file in chunks, completes, and the lease it is given serves the
file. -/
namespace AnselmGateway.ResumedUploads
open Foundation MediaFiles MediaStore MediaStoreSemantics Media MediaSemantics MediaInvariants MediaHandler
open FaithfulUploads RequestsAlone
open LeaseAuthorization (signed)

/-! ## An upload that stands at an offset -/

/-- An open upload of the file, with its staged bytes: the file's as far as the offset, and perhaps
more behind it that nobody has answered for. -/
structure Standing (env : Environment) (owner uploadID : String) (file : Bytes) (deadline : ℤ) (offset : ℕ)
    (world : World) (row : Upload) (bytes : Bytes) : Prop where
  held : world.db.uploads.get? uploadID = some row
  registered : Registered env owner uploadID file uploadID row
  open_ : row.state = .open
  expires : row.expiresAt = deadline
  received : row.receivedBytes = offset
  named : validUploadID uploadID = true
  staged : world.files uploadID = some ⟨bytes, true⟩
  within : offset ≤ bytes.length
  bounded : bytes.length ≤ file.length
  taken : bytes.take offset = file.take offset

section Standing
variable {env : Environment} {owner uploadID : String} {file : Bytes} {deadline : ℤ} {offset : ℕ} {world : World}
  {row : Upload} {bytes chunk : Bytes} {turn : Turn}

theorem read_staged {files : Files} (named : validUploadID uploadID = true)
    (staged : files uploadID = some ⟨bytes, true⟩) : files.read uploadID = .ok bytes := by
  simp [Files.read, named, staged]

/-- Its owner finds it. -/
theorem Standing.found (stands : Standing env owner uploadID file deadline offset world row bytes)
    (through : turn.outcome = .through) (timely : turn.now < deadline) :
    query turn (getUploadForInstall owner uploadID) world = some (some row) ∧
      openOwned turn.now (some row) = .ok row := by
  constructor
  · simp [query, through, getUploadForInstall, stands.held, (stands.registered.declared rfl).1]
  · simp [openOwned, stands.open_, stands.expires, timely]

/-- The read, and a look at the size: what lies behind the cursor is to be cut. -/
theorem Standing.sized (stands : Standing env owner uploadID file deadline offset world row bytes)
    (through : turn.outcome = .through) (timely : turn.now < deadline)
    (fits : offset + chunk.length ≤ file.length) :
    turnOf env turn world (.appendRead owner uploadID offset chunk) =
        stay world (.appendSize ⟨owner, uploadID, row, chunk⟩) ∧
      turnOf env turn world (.appendSize ⟨owner, uploadID, row, chunk⟩) = stay world
        (if bytes.length = offset then .appendWrite ⟨owner, uploadID, row, chunk⟩
          else .appendRepair ⟨owner, uploadID, row, chunk⟩) := by
  obtain ⟨found, mine⟩ := stands.found through timely
  have total := (stands.registered.declared rfl).2.2.2
  constructor
  · simp [turnOf, appendStep, found, mine, stands.received]
  · have sized : fileRead turn (size uploadID) world = .ok bytes.length := by
      simp [fileRead, through, size, read_staged stands.named stands.staged, Except.map]
    have above := stands.within
    simp only [turnOf, appendStep, sized, stands.received, total]
    by_cases atEnd : bytes.length = offset
    · rw [if_neg (by omega), if_neg (by omega), if_neg (by omega), if_pos atEnd]
    · rw [if_neg (by omega), if_pos (by omega), if_neg atEnd]

/-- The repair leaves what lies before the cursor. -/
theorem Standing.repaired (stands : Standing env owner uploadID file deadline offset world row bytes)
    (through : turn.outcome = .through) (fits : offset + chunk.length ≤ file.length) :
    turnOf env turn world (.appendRepair ⟨owner, uploadID, row, chunk⟩) =
      stay { world with files := world.files.write uploadID ⟨file.take offset, true⟩ }
        (.appendWrite ⟨owner, uploadID, row, chunk⟩) := by
  have cuts : truncate uploadID offset world.files = .ok (world.files.write uploadID ⟨file.take offset, true⟩) := by
    simp [truncate, read_staged stands.named stands.staged, stands.within, stands.taken]
  have total := (stands.registered.declared rfl).2.2.2
  simp only [turnOf, appendStep, fileStep, through, stands.received, cuts, total]
  rw [if_neg (by omega)]

/-- The write, and the cursor moved on over it. -/
theorem Standing.advanced (stands : Standing env owner uploadID file deadline offset world row (file.take offset))
    (through : turn.outcome = .through) (timely : turn.now < deadline) (nonempty : chunk ≠ [])
    (fits : offset + chunk.length ≤ file.length) (piece : chunk <+: file.drop offset) :
    ∃ written after moved,
      turnOf env turn world (.appendWrite ⟨owner, uploadID, row, chunk⟩) =
          stay written (.appendAdvance ⟨owner, uploadID, row, chunk⟩) ∧
        turnOf env turn written (.appendAdvance ⟨owner, uploadID, row, chunk⟩) =
          finish after (.appended uploadID chunk) ∧
        after.db.leases = world.db.leases ∧
        Standing env owner uploadID file deadline (offset + chunk.length) after moved
          (file.take (offset + chunk.length)) := by
  have total := (stands.registered.declared rfl).2.2.2
  have own := (stands.registered.declared rfl).1
  have length : (file.take offset).length = offset := by
    rw [List.length_take]
    omega
  have some_ := List.length_pos_iff.mpr nonempty
  have longer : file.take offset ++ chunk = file.take (offset + chunk.length) := by
    rw [List.take_add, ← List.prefix_iff_eq_take.mp piece]
  have writes : append uploadID offset chunk world.files =
      .ok (world.files.write uploadID ⟨file.take (offset + chunk.length), true⟩) := by
    simp only [append, read_staged stands.named stands.staged, longer]
    rw [if_neg nonempty, if_neg (not_not.mpr length)]
  have updates : ∃ uploads, world.db.uploads.updateWhere
      (Table.at' uploadID fun row => decide (row.installID = owner) && decide (row.state = .open) &&
        decide (row.expiresAt > turn.now) && decide (row.receivedBytes = offset) &&
        decide (offset + chunk.length ≤ row.totalBytes))
      (fun row => { row with receivedBytes := offset + chunk.length, updatedAt := turn.now }) = .ok (uploads, 1) := by
    refine Table.updateAt_succeeds stands.held ?_ ?_
    · simp [own, stands.open_, stands.expires, timely, stands.received, total, fits]
    · simp only [mediaUploadsSchema, Upload.check, total, Bool.and_eq_true, decide_eq_true_eq]
      omega
  obtain ⟨uploads, updated⟩ := updates
  have advances : advanceReceived owner uploadID offset (offset + chunk.length) turn.now world.db =
      .ok (true, { world.db with uploads := uploads }) := by
    rw [advanceReceived, if_neg (by omega)]
    simp only [updateUploads, updated, bind, Except.bind, pure, Except.pure, decide_true]
  have met : (decide (row.installID = owner) && decide (row.state = .open) &&
      decide (row.expiresAt > turn.now) && decide (row.receivedBytes = offset) &&
      decide (offset + chunk.length ≤ row.totalBytes)) = true := by
    simp [own, stands.open_, stands.expires, timely, stands.received, total, fits]
  refine ⟨{ world with files := world.files.write uploadID ⟨file.take (offset + chunk.length), true⟩ },
    ⟨{ world.db with uploads := uploads }, world.files.write uploadID ⟨file.take (offset + chunk.length), true⟩⟩,
    { row with receivedBytes := offset + chunk.length, updatedAt := turn.now }, ?_, ?_, rfl, ?_⟩
  · simp only [turnOf, appendStep, fileStep, writtenBytes, through, stands.received, writes]
  · simp only [turnOf, appendStep, statement, through, stands.received, advances]
  · exact {
      held := by rw [Table.get?_updateAt updated stands.held met, if_pos rfl]
      registered := ⟨stands.registered.owned, stands.registered.fits, stands.registered.declared⟩
      open_ := stands.open_
      expires := stands.expires
      received := rfl
      named := stands.named
      staged := write_same _
      within := by rw [List.length_take]; omega
      bounded := by rw [List.length_take]; omega
      taken := List.take_take.trans (by rw [Nat.min_self]) }

/-- An append at the offset, driven alone, moves the upload on by its chunk. -/
theorem Standing.appended (stands : Standing env owner uploadID file deadline offset world row bytes)
    (through : turn.outcome = .through) (timely : turn.now < deadline) (nonempty : chunk ≠ [])
    (fits : offset + chunk.length ≤ file.length) (piece : chunk <+: file.drop offset) :
    ∃ after moved, drive env turn requestTurns world (.appendRead owner uploadID offset chunk) =
        ([.appended uploadID chunk], after, .done) ∧ after.db.leases = world.db.leases ∧
      Standing env owner uploadID file deadline (offset + chunk.length) after moved
        (file.take (offset + chunk.length)) := by
  obtain ⟨read, sized⟩ := stands.sized through timely fits
  have length : (file.take offset).length = offset := by
    rw [List.length_take]
    omega
  by_cases atEnd : bytes.length = offset
  · rw [if_pos atEnd] at sized
    have exactly : bytes = file.take offset := by
      rw [← stands.taken, ← atEnd, List.take_length]
    subst exactly
    obtain ⟨written, after, moved, writes, advances, leases, stands'⟩ :=
      stands.advanced through timely nonempty fits piece
    refine ⟨after, moved, ?_, leases, stands'⟩
    rw [requestTurns, drive_stay read, drive_stay sized, drive_stay writes, drive_finish advances]
  · rw [if_neg atEnd] at sized
    have cleaned : Standing env owner uploadID file deadline offset
        { world with files := world.files.write uploadID ⟨file.take offset, true⟩ } row (file.take offset) :=
      { stands with
        staged := write_same _
        within := Nat.le_of_eq length.symm
        bounded := by omega
        taken := List.take_take.trans (by rw [Nat.min_self]) }
    obtain ⟨written, after, moved, writes, advances, leases, stands'⟩ :=
      cleaned.advanced through timely nonempty fits piece
    refine ⟨after, moved, ?_, leases, stands'⟩
    rw [requestTurns, drive_stay read, drive_stay sized, drive_stay (stands.repaired through fits),
      drive_stay writes, drive_finish advances]

/-! ## Completion -/

/-- The lease id drawn for an owner can be recorded: it is new, the digest of its token is that of no
other lease, and there is a row number left. -/
structure Drawn (env : Environment) (leases : Leases) (leaseID owner : String) (expiresAt : ℤ) : Prop where
  fresh : leases.table.get? leaseID = none
  token : ∀ id l, leases.table.get? id = some l →
    l.fetchTokenHash ≠ env.hashSecret (env.token leaseID owner expiresAt)
  room : leases.table.rows.length < maxRowid

theorem insert_lease {leases : Leases} {id : String} {lease : Lease} (fresh : leases.table.get? id = none)
    (upload : ∀ other l, leases.table.get? other = some l → l.uploadID ≠ lease.uploadID)
    (token : ∀ other l, leases.table.get? other = some l → l.fetchTokenHash ≠ lease.fetchTokenHash)
    (size : 0 < lease.sizeBytes) (room : leases.table.rows.length < maxRowid) :
    ∃ after, leases.insert id lease = .ok after ∧ after.table.get? id = some lease := by
  have untaken : ¬(lease.uploadID ∈ leases.table.rows.map (fun row => row.2.uploadID) ∨
      lease.fetchTokenHash ∈ leases.table.rows.map fun row => row.2.fetchTokenHash) := by
    rintro (taken | taken)
    · obtain ⟨⟨other, l⟩, member, same⟩ := List.mem_map.mp taken
      exact upload other l (Table.get?_eq_some.mpr member) same
    · obtain ⟨⟨other, l⟩, member, same⟩ := List.mem_map.mp taken
      exact token other l (Table.get?_eq_some.mpr member) same
  have valid : mediaLeasesSchema.check id lease = true := decide_eq_true size
  have stores : ∃ table, leases.table.insert id lease = .ok table := by
    rw [Table.insert, dif_neg (Table.get?_eq_none.mp fresh), dif_pos valid, dif_pos room]
    exact ⟨_, rfl⟩
  obtain ⟨table, stored⟩ := stores
  rw [Leases.insert, dif_neg untaken]
  split
  · rename_i refusal ran
    rw [stored] at ran
    cases ran
  · rename_i made ran
    exact ⟨_, rfl, by rw [Table.get?_insert ran, if_pos rfl]⟩

/-- A completion at the end of the file, driven alone, seals the file under the lease it has drawn. -/
theorem Standing.completed (stands : Standing env owner uploadID file deadline file.length world row bytes)
    (unleased : ∀ id l, world.db.leases.table.get? id = some l → l.uploadID ≠ uploadID)
    (through : turn.outcome = .through) (timely : turn.now < deadline)
    (drawn : Drawn env world.db.leases turn.leaseID owner (turn.now + env.limits.leaseTTL)) :
    ∃ after, drive env turn requestTurns world (.completeRead owner uploadID) =
        ([.completed turn.leaseID], after, .done) ∧ after.files uploadID = some ⟨file, true⟩ ∧
      after.db.leases.table.get? turn.leaseID =
        some (newLease env turn ⟨owner, uploadID, row⟩ (env.sha256 file) file.length) := by
  obtain ⟨own, digest, type, total⟩ := stands.registered.declared rfl
  obtain ⟨found, mine⟩ := stands.found through timely
  have whole : bytes = file := by
    have taken := stands.taken
    rwa [List.take_length, List.take_of_length_le stands.bounded] at taken
  subst whole
  have positive : 0 < bytes.length := by
    have checked := Table.checked_get? stands.held
    simp only [mediaUploadsSchema, Upload.check, Bool.and_eq_true, decide_eq_true_eq] at checked
    omega
  have reads := read_staged stands.named stands.staged
  have read : turnOf env turn world (.completeRead owner uploadID) =
      stay world (.completeHash ⟨owner, uploadID, row⟩) := by
    simp [turnOf, completeStep, found, mine, stands.received, total]
  have hashes : turnOf env turn world (.completeHash ⟨owner, uploadID, row⟩) =
      stay world (.completeSniff ⟨owner, uploadID, row⟩ (env.sha256 bytes) bytes.length) := by
    simp [turnOf, completeStep, fileRead, through, reads, total, digest]
  have sniffs : turnOf env turn world (.completeSniff ⟨owner, uploadID, row⟩ (env.sha256 bytes) bytes.length) =
      stay world (.completeSeal ⟨owner, uploadID, row⟩ (env.sha256 bytes) bytes.length) := by
    simp [turnOf, completeStep, fileRead, through, mimeType, reads, Except.map, type]
  have updates : ∃ uploads, world.db.uploads.updateWhere
      (Table.at' uploadID fun row => decide (row.installID = owner) && decide (row.state = .open) &&
        decide (row.expiresAt > turn.now) && decide (row.receivedBytes = row.totalBytes) &&
        decide (row.expectedSHA256 = env.sha256 bytes))
      (fun row => { row with state := .completed, completedAt := some turn.now, updatedAt := turn.now }) =
        .ok (uploads, 1) := by
    refine Table.updateAt_succeeds stands.held ?_ ?_
    · simp [own, stands.open_, stands.expires, timely, stands.received, total, digest]
    · simpa only [mediaUploadsSchema, Upload.check] using Table.checked_get? stands.held
  obtain ⟨uploads, updated⟩ := updates
  have inserts : ∃ after, world.db.leases.insert turn.leaseID
      (newLease env turn ⟨owner, uploadID, row⟩ (env.sha256 bytes) bytes.length) = .ok after ∧
        after.table.get? turn.leaseID =
          some (newLease env turn ⟨owner, uploadID, row⟩ (env.sha256 bytes) bytes.length) :=
    insert_lease drawn.fresh unleased drawn.token positive drawn.room
  obtain ⟨leases, inserted, leased⟩ := inserts
  have seals : completeUpload owner uploadID (env.sha256 bytes) turn.now turn.leaseID
      (newLease env turn ⟨owner, uploadID, row⟩ (env.sha256 bytes) bytes.length) world.db =
        .ok (true, ⟨uploads, leases⟩) := by
    have same : ({ newLease env turn ⟨owner, uploadID, row⟩ (env.sha256 bytes) bytes.length with
        installID := owner, uploadID := uploadID, sha256 := env.sha256 bytes, state := .active,
        deletedAt := none } : Lease) =
          newLease env turn ⟨owner, uploadID, row⟩ (env.sha256 bytes) bytes.length := rfl
    simp only [completeUpload, updateUploads, updated, bind, Except.bind, pure, Except.pure, same, inserted]
    rfl
  have reports : turnOf env turn ⟨⟨uploads, leases⟩, world.files⟩ (.completeReport owner turn.leaseID) =
      finish ⟨⟨uploads, leases⟩, world.files⟩ (.completed turn.leaseID) := by
    have looks : getLeaseForInstall owner turn.leaseID ⟨uploads, leases⟩ =
        some (newLease env turn ⟨owner, uploadID, row⟩ (env.sha256 bytes) bytes.length) := by
      rw [getLeaseForInstall, leased]
      exact Option.filter_some_pos (decide_eq_true rfl)
    simp only [turnOf, completeStep, query, through, looks]
  have sealed : turnOf env turn world (.completeSeal ⟨owner, uploadID, row⟩ (env.sha256 bytes) bytes.length) =
      stay ⟨⟨uploads, leases⟩, world.files⟩ (.completeReport owner turn.leaseID) := by
    simp only [turnOf, completeStep, statement, through, seals]
  refine ⟨⟨⟨uploads, leases⟩, world.files⟩, ?_, stands.staged, leased⟩
  rw [requestTurns, drive_stay read, drive_stay hashes, drive_stay sniffs, drive_stay sealed,
    drive_finish reports]

theorem openOwned_open {now : ℤ} {found : Option Upload} {u : Upload} (mine : openOwned now found = .ok u) :
    found = some u ∧ u.state = .open := by
  unfold openOwned at mine
  split at mine
  · cases mine
  · split at mine
    · cases mine
    · rename_i usable
      cases mine
      exact ⟨rfl, not_not.mp (not_or.mp usable).1⟩

/-- What the handler answers is read off the row of an open upload. -/
theorem status_ok {h : Handler} {r : UploadResponse} (asked : h.status (.ok owner) turn uploadID world = .ok r) :
    h.serves = true ∧ blank uploadID = false ∧ ∃ u, world.db.uploads.get? uploadID = some u ∧ u.state = .open ∧
      r = ⟨uploadID, u.receivedBytes, u.expiresAt, h.chunkMaxBytes⟩ := by
  unfold Handler.status Handler.admit at asked
  cases serves : h.serves with
  | false => simp [serves] at asked
  | true =>
    simp only [serves, if_true] at asked
    split at asked
    · cases asked
    · rename_i u answered
      cases asked
      unfold MediaHandler.status at answered
      split at answered
      · cases answered
      · rename_i unnamed
        split at answered
        · cases answered
        · rename_i row found
          obtain ⟨rfl, open_⟩ := openOwned_open answered
          exact ⟨rfl, (Bool.or_eq_false_iff.mp (Bool.eq_false_iff.mpr unnamed)).2, u,
            getUploadForInstall_some (query_some found), open_, rfl⟩

/-- It is where the upload stands. -/
theorem status_standing {history : History} {h : Handler} {r : UploadResponse}
    (faithful : Faithful env owner uploadID file history)
    (asked : h.status (.ok owner) turn uploadID history.state.world = .ok r) :
    h.serves = true ∧ blank uploadID = false ∧ r.chunkMaxBytes = h.chunkMaxBytes ∧
      (∀ id l, history.state.world.db.leases.table.get? id = some l → l.uploadID ≠ uploadID) ∧
      ∃ row bytes, Standing env owner uploadID file r.expiresAt r.offset history.state.world row bytes := by
  obtain ⟨serves, unblank, u, held, open_, rfl⟩ := status_ok asked
  obtain ⟨bytes, staged, within, taken, length⟩ := faithful.received held open_
  have begins := List.prefix_iff_eq_take.mp (faithful.accepted u held open_)
  refine ⟨serves, unblank, rfl, fun id l lease same => ?_, u, bytes, ?_⟩
  · obtain ⟨v, row, completed, _⟩ := faithful.kept.1.shared id l lease
    rw [same, held] at row
    cases row
    rw [completed] at open_
    cases open_
  · exact {
      held := held
      registered := faithful.rows uploadID u held
      open_ := open_
      expires := rfl
      received := rfl
      named := faithful.named uploadID (by rw [staged]; exact Option.some_ne_none _)
      staged := staged
      within := within
      bounded := faithful.bounded u bytes held open_ staged
      taken := by rw [taken, begins, length] }

end Standing

/-! ## The rest of the file -/

/-- What the owner does next: the chunks from an offset on, each at the offset that the ones before it
lead to, then the completion, and a fetch under the lease it is given. -/
def resumption (h : Handler) (owner uploadID token : String) (completing fetching : Turn) :
    ℕ → ℕ → List (Turn × Bytes) → List Event
  | index, _, [] => requested h owner index completing (.complete uploadID (some [])) ++
      requested h owner (index + 1) fetching (.fetch completing.leaseID token)
  | index, offset, (turn, chunk) :: rest =>
      requested h owner index turn (.append uploadID (toString (offset : ℤ)) (some chunk)) ++
        resumption h owner uploadID token completing fetching (index + 1) (offset + chunk.length) rest

section Resumption
variable {env : Environment} {h : Handler} {owner uploadID : String} {file : Bytes} {deadline : ℤ}
  {completing fetching : Turn}

/-- The signer accepts what it has signed. -/
def Verifies (env : Environment) : Prop :=
  ∀ leaseID installID expiresAt,
    env.verify (env.token leaseID installID expiresAt) leaseID installID expiresAt = true

theorem signed_verifies (hmac : LeaseSigner.Hmac) (s : LeaseSigner.HMACSigner) (sha256 : Bytes → String)
    (limits : Limits) : Verifies (signed hmac s sha256 limits) :=
  fun _ _ _ => LeaseSigner.verify_iff.mpr rfl

/-- The lease of a completion, opened alone under its token, serves the file. -/
theorem lease_served (verifies : Verifies env) {world : World} {c : CompleteCall} {sha : String} {size : ℕ}
    (named : validUploadID c.uploadID = true) (staged : world.files c.uploadID = some ⟨file, true⟩)
    (leased : world.db.leases.table.get? completing.leaseID = some (newLease env completing c sha size))
    (through : fetching.outcome = .through) (timely : fetching.now < completing.now + env.limits.leaseTTL) :
    drive env fetching requestTurns world (.leaseRead none completing.leaseID
        (env.token completing.leaseID c.installID (completing.now + env.limits.leaseTTL))) =
      ([.served (newLease env completing c sha size) file], world, .done) := by
  have may : mayOpen env fetching.now none completing.leaseID
      (env.token completing.leaseID c.installID (completing.now + env.limits.leaseTTL))
      (newLease env completing c sha size) = true := by
    simp [mayOpen, newLease, timely, verifies _ _ _]
  have read : turnOf env fetching world (.leaseRead none completing.leaseID
      (env.token completing.leaseID c.installID (completing.now + env.limits.leaseTTL))) =
        stay world (.leaseOpen (newLease env completing c sha size)) := by
    simp only [turnOf, leaseStep, query, through, getLease, leased, may, if_true]
  have opens : turnOf env fetching world (.leaseOpen (newLease env completing c sha size)) =
      stay world (.leaseServe (newLease env completing c sha size) []) := by
    have reads : world.files.read (newLease env completing c sha size).uploadID = .ok file :=
      read_staged named staged
    simp only [turnOf, leaseStep, fileRead, through, reads]
  have serves : turnOf env fetching world (.leaseServe (newLease env completing c sha size) []) =
      finish world (.served (newLease env completing c sha size) file) := by
    have held : world.files (newLease env completing c sha size).uploadID = some ⟨file, true⟩ := staged
    simp only [turnOf, leaseStep, held, through, List.nil_append, List.length_nil, List.drop_zero]
  rw [requestTurns, drive_stay read, drive_stay opens, drive_finish serves]

/-- A chunk as the handler takes it. -/
theorem append_called (serves : h.serves = true) {offset : ℕ} {chunk : Bytes} (small : offset < 2 ^ 63)
    (allowed : (chunk.length : ℤ) ≤ h.chunkMaxBytes) :
    h.call (.ok owner) "" (.append uploadID (toString (offset : ℤ)) (some chunk)) =
      .ok (.append owner uploadID offset chunk) := by
  simp only [Handler.call, Handler.admit, serves, if_true, parseOffset_toString small]
  rw [if_neg (not_lt.mpr allowed)]

theorem append_begun {now : ℤ} {offset : ℕ} {chunk : Bytes} (owned : blank owner = false)
    (named : blank uploadID = false) (nonempty : chunk ≠ []) (fits : chunk.length ≤ env.limits.maxBytes) :
    begin_ env now (.append owner uploadID offset chunk) = .inl (.appendRead owner uploadID offset chunk) := by
  simp [begin_, owned, named, nonempty, fits]

/-- From wherever the upload stands, the rest of the file is accepted, sealed and served. -/
theorem standing_delivered (verifies : Verifies env) (machine : env.limits.maxBytes < 2 ^ 63)
    (serves : h.serves = true) (unblank : blank uploadID = false) (sends : List (Turn × Bytes)) {history : History}
    {offset : ℕ} {row : Upload} {bytes : Bytes}
    (stands : Standing env owner uploadID file deadline offset history.state.world row bytes)
    (unleased : ∀ id l, history.state.world.db.leases.table.get? id = some l → l.uploadID ≠ uploadID)
    (drawn : Drawn env history.state.world.db.leases completing.leaseID owner (completing.now + env.limits.leaseTTL))
    (pieces : ∀ send ∈ sends, send.2 ≠ [] ∧ (send.2.length : ℤ) ≤ h.chunkMaxBytes ∧
      send.1.outcome = .through ∧ send.1.now < deadline)
    (whole : sends.flatMap Prod.snd = file.drop offset)
    (seals : completing.outcome = .through ∧ completing.now < deadline)
    (fetches : fetching.outcome = .through ∧ fetching.now < completing.now + env.limits.leaseTTL) :
    ∃ lease, (runSteps (record env) history (resumption h owner uploadID
        (env.token completing.leaseID owner (completing.now + env.limits.leaseTTL)) completing fetching
        history.state.procs.length offset sends)).replies =
          history.replies ++ (sends.map fun send => .appended uploadID send.2) ++
            [.completed completing.leaseID, .served lease file] ∧
      lease.installID = owner ∧ lease.uploadID = uploadID ∧ lease.mimeType = detectMIME (file.take 64) ∧
        lease.expiresAt = completing.now + env.limits.leaseTTL := by
  have owned : blank owner = false := (stands.registered.declared rfl).1 ▸ stands.registered.owned
  have most : file.length ≤ env.limits.maxBytes := (stands.registered.declared rfl).2.2.2 ▸ stands.registered.fits
  have within := stands.within.trans stands.bounded
  induction sends generalizing history offset row bytes with
  | nil =>
    have atEnd : offset = file.length := by
      have none_ := List.drop_eq_nil_iff.mp whole.symm
      omega
    subst atEnd
    obtain ⟨sealed, completes, staged, leased⟩ := stands.completed unleased seals.1 seals.2 drawn
    have called : h.call (.ok owner) "" (.complete uploadID (some [])) = .ok (.complete owner uploadID) := by
      simp [Handler.call, Handler.admit, serves]
    have begun : begin_ env completing.now (.complete owner uploadID) = .inl (.completeRead owner uploadID) := by
      simp [begin_, owned, unblank]
    have completed := requested_run called begun completes
    have fetched : h.call (.ok owner) "" (.fetch completing.leaseID
        (env.token completing.leaseID owner (completing.now + env.limits.leaseTTL))) =
          .ok (.openLease none completing.leaseID
            (env.token completing.leaseID owner (completing.now + env.limits.leaseTTL))) := by
      simp [Handler.call, serves]
    generalize ran : runSteps (record env) history
      (requested h owner history.state.procs.length completing (.complete uploadID (some []))) = middle at completed
    obtain ⟨world, count, replies⟩ := completed
    rw [← world] at staged leased
    obtain ⟨_, _, served⟩ := requested_run fetched rfl
      (lease_served verifies stands.named staged leased fetches.1 fetches.2)
    rw [count] at served
    refine ⟨newLease env completing ⟨owner, uploadID, row⟩ (env.sha256 file) file.length, ?_,
      rfl, rfl, (stands.registered.declared rfl).2.2.1, rfl⟩
    rw [resumption, runSteps_append, ran, served, replies, List.map_nil, List.append_nil, List.append_assoc]
    rfl
  | cons send rest ih =>
    obtain ⟨turn, chunk⟩ := send
    obtain ⟨nonempty, allowed, through, timely⟩ := pieces _ List.mem_cons_self
    rw [List.flatMap_cons] at whole
    have piece : chunk <+: file.drop offset := ⟨_, whole⟩
    have fits : offset + chunk.length ≤ file.length := by
      have short := piece.length_le
      rw [List.length_drop] at short
      omega
    obtain ⟨after, moved, accepts, leases, stands'⟩ := stands.appended through timely nonempty fits piece
    have called : h.call (.ok owner) "" (.append uploadID (toString (offset : ℤ)) (some chunk)) =
        .ok (.append owner uploadID offset chunk) := append_called serves (by omega) allowed
    have appended := requested_run called (append_begun owned unblank nonempty (by omega)) accepts
    generalize ran : runSteps (record env) history (requested h owner
      history.state.procs.length turn (.append uploadID (toString (offset : ℤ)) (some chunk))) = middle at appended
    obtain ⟨world, count, replies⟩ := appended
    have remaining : rest.flatMap Prod.snd = file.drop (offset + chunk.length) := by
      rw [← List.drop_drop, ← whole, List.drop_left]
    rw [← world] at stands' leases
    rw [← leases] at unleased drawn
    obtain ⟨lease, later, terms⟩ := ih stands' unleased drawn
      (fun other member => pieces other (List.mem_cons_of_mem _ member)) remaining fits
    rw [count] at later
    refine ⟨lease, ?_, terms⟩
    rw [resumption, runSteps_append, ran, later, replies, List.map_cons, List.append_assoc history.replies]
    rfl

end Resumption

/-- **An upload is taken up where it stands**, after any run in which its owner has sent nothing but the
file and no truncation was stale: lost requests, repeats, cut writes, failed statements, other calls at
any point and crashes included. Once the owner is told an offset, the rest of the file from there on, in
whatever chunks the handler takes, then a completion and a fetch, one by one, each without a failure and
in time, have the answers of an upload that was never interrupted, and the last of them is the file. -/
theorem resumed_upload_delivered (hmac : LeaseSigner.Hmac) (s : LeaseSigner.HMACSigner) (sha256 : Bytes → String)
    (limits : Limits) (machine : limits.maxBytes < 2 ^ 63) (h : Handler) (owner uploadID : String) (file : Bytes)
    (events : List Event)
    (careful : AllAlong (record (signed hmac s sha256 limits)) (fun history event =>
      (Fresh history.state event ∧ UploadCursor.Careful history event) ∧
        Genuine sha256 owner uploadID file event) .initial events)
    (asking completing fetching : Turn) (r : UploadResponse)
    (told : h.status (.ok owner) asking uploadID (after (signed hmac s sha256 limits) events).state.world = .ok r)
    (sends : List (Turn × Bytes))
    (pieces : ∀ send ∈ sends, send.2 ≠ [] ∧ (send.2.length : ℤ) ≤ r.chunkMaxBytes ∧
      send.1.outcome = .through ∧ send.1.now < r.expiresAt)
    (whole : sends.flatMap Prod.snd = file.drop r.offset)
    (seals : completing.outcome = .through ∧ completing.now < r.expiresAt)
    (drawn : Drawn (signed hmac s sha256 limits) (after (signed hmac s sha256 limits) events).state.world.db.leases
      completing.leaseID owner (completing.now + limits.leaseTTL))
    (fetches : fetching.outcome = .through ∧ fetching.now < completing.now + limits.leaseTTL) :
    ∃ lease, (after (signed hmac s sha256 limits) (events ++ resumption h owner uploadID
        (LeaseSigner.token hmac s completing.leaseID owner (completing.now + limits.leaseTTL)) completing fetching
        (after (signed hmac s sha256 limits) events).state.procs.length r.offset sends)).replies =
          (after (signed hmac s sha256 limits) events).replies ++
            (sends.map fun send => .appended uploadID send.2) ++
              [.completed completing.leaseID, .served lease file] ∧
      lease.installID = owner ∧ lease.uploadID = uploadID ∧ lease.mimeType = detectMIME (file.take 64) ∧
        lease.expiresAt = completing.now + limits.leaseTTL := by
  have faithful : Faithful (signed hmac s sha256 limits) owner uploadID file
      (after (signed hmac s sha256 limits) events) :=
    runSteps_invariant_along (fun _ _ => faithful_step) faithful_initial careful
  obtain ⟨serves, unblank, chunks, unleased, row, bytes, stands⟩ := status_standing faithful told
  rw [after, runSteps_append]
  exact standing_delivered (signed_verifies hmac s sha256 limits) machine serves unblank sends stands unleased drawn
    (chunks ▸ pieces) whole seals fetches

/-! ## An interrupted upload -/

open UploadCursor (stagedID stagedBytes creation turnOfCall)
open LeaseAuthorization (sampleHmac sampleSigner sampleSHA256 sampleLimits sampleLeaseID)

/-- Two bytes of the file are accepted. Three more are written, and the process dies before the cursor
moves over them. -/
def interrupted : List Event :=
  creation ++
    [.arrive 1 (.append "ins_1" stagedID 0 [137, 80]), turnOfCall 1, turnOfCall 1, turnOfCall 1, turnOfCall 1,
      .arrive 1 (.append "ins_1" stagedID 2 [78, 71, 13]), turnOfCall 2, turnOfCall 2, turnOfCall 2, .crash]

/-- The rest of it, in chunks of its own. -/
def remainder : List (Turn × Bytes) := [(⟨2, "", .through⟩, [78, 71, 13, 10]), (⟨3, "", .through⟩, [26, 10])]

theorem resumed_upload_delivered_interrupted :
    ∃ lease, (after (signed sampleHmac sampleSigner sampleSHA256 sampleLimits) (interrupted ++
        resumption ⟨true, 4⟩ "ins_1" stagedID (LeaseSigner.token sampleHmac sampleSigner sampleLeaseID "ins_1"
          (4 + sampleLimits.leaseTTL)) ⟨4, sampleLeaseID, .through⟩ ⟨5, "", .through⟩
          (after (signed sampleHmac sampleSigner sampleSHA256 sampleLimits) interrupted).state.procs.length 2
          remainder)).replies =
          (after (signed sampleHmac sampleSigner sampleSHA256 sampleLimits) interrupted).replies ++
            (remainder.map fun send => .appended stagedID send.2) ++
              [.completed sampleLeaseID, .served lease stagedBytes] ∧
      lease.installID = "ins_1" ∧ lease.uploadID = stagedID ∧ lease.mimeType = detectMIME (stagedBytes.take 64) ∧
        lease.expiresAt = 4 + sampleLimits.leaseTTL := by
  have empty : (after (signed sampleHmac sampleSigner sampleSHA256 sampleLimits)
      interrupted).state.world.db.leases.table.rows = [] := by decide +kernel
  have unread (id : String) : (after (signed sampleHmac sampleSigner sampleSHA256 sampleLimits)
      interrupted).state.world.db.leases.table.get? id = none := by
    rw [Table.get?, empty]
    rfl
  refine resumed_upload_delivered sampleHmac sampleSigner sampleSHA256 sampleLimits (by decide) ⟨true, 4⟩ "ins_1"
    stagedID stagedBytes interrupted ?_ ⟨2, "", .through⟩ ⟨4, sampleLeaseID, .through⟩ ⟨5, "", .through⟩
    ⟨stagedID, 2, 3600 * second, 4⟩ (by decide +kernel) remainder (by decide) rfl ⟨rfl, by decide⟩ ?_
    ⟨rfl, by decide⟩
  · exact AllAlong.and (allAlong_of_check (fun _ _ => UploadCursor.careful_of_check) (by decide +kernel))
      (by decide +kernel)
  · refine ⟨unread _, fun id l held => ?_, ?_⟩
    · rw [unread] at held
      cases held
    · rw [empty]
      decide

end AnselmGateway.ResumedUploads
