import AnselmGateway.MediaInvariants

/-! The upload cursor and the staged bytes, over every interleaving of calls. A
cursor points at bytes that are there, in the order they were accepted, as long as
no truncation cuts below it or into bytes that are about to be recorded. -/
namespace AnselmGateway.UploadCursor
open Foundation MediaFiles MediaStore MediaStoreSemantics Media MediaSemantics MediaInvariants

/-- The chunks accepted for an upload, in order. -/
def acceptedBytes (replies : List Reply) (uploadID : String) : Bytes :=
  replies.flatMap fun reply =>
    match reply with
    | .appended id chunk => if id = uploadID then chunk else []
    | _ => []

/-- The cursor of an open upload is within its staged file, and what lies before
it is what was accepted. -/
def Durable (world : World) (replies : List Reply) (uploadID : String) : Prop :=
  ∀ v, world.db.uploads.get? uploadID = some v → v.state = .open → ∃ bytes,
    world.files uploadID = some ⟨bytes, true⟩ ∧ v.receivedBytes ≤ bytes.length ∧
      bytes.take v.receivedBytes = acceptedBytes replies uploadID

/-- A truncation that goes through leaves every byte before the cursor of an open
upload, and every byte that an append has written there and not yet recorded. -/
def Careful (history : History) : Event → Prop
  | .turn index turn => ∀ proc uploadID size bytes v, history.state.procs[index]? = some proc →
      turn.outcome ≠ .refused → cut proc = some (uploadID, size) →
      history.state.world.files uploadID = some ⟨bytes, true⟩ → size < bytes.length →
      history.state.world.db.uploads.get? uploadID = some v → v.state = .open →
      v.receivedBytes ≤ size ∧ ∀ c, .appendAdvance c ∈ history.state.procs →
        c.uploadID = uploadID → c.upload.receivedBytes ≠ v.receivedBytes
  | _ => True

/-! ## The invariant -/

/-- The bytes of an append that has written and not yet recorded, as long as its
cursor is current. -/
def Tail (world : World) (replies : List Reply) (c : AppendCall) : Prop :=
  ∀ v, world.db.uploads.get? c.uploadID = some v → v.state = .open →
    v.receivedBytes = c.upload.receivedBytes →
    world.files c.uploadID = some ⟨acceptedBytes replies c.uploadID ++ c.chunk, true⟩

theorem pending_advance {proc : Proc} {c : AppendCall} (waits : pending proc = some c) :
    proc = .appendAdvance c := by
  cases proc with
  | appendAdvance => cases waits; rfl
  | _ => cases waits

theorem pending_cursor {proc : Proc} {c : AppendCall} (waits : pending proc = some c) :
    (c.uploadID, c.upload) ∈ cursors proc := by
  rw [pending_advance waits]
  exact List.mem_singleton_self _

theorem pending_held {proc : Proc} {c : AppendCall} (waits : pending proc = some c) :
    Holds proc c.uploadID :=
  .inl ⟨c.upload, pending_cursor waits⟩

/-- The shared state and what has been told, as one. -/
abbrev Log := World × List Reply

structure Tracked (log : Log) : Prop where
  durable : ∀ id, Durable log.1 log.2 id
  unused : ∀ id, log.1.files id = none → acceptedBytes log.2 id = []

structure Waiting (log : Log) (proc : Proc) : Prop where
  tail : ∀ c, pending proc = some c → c.chunk ≠ [] ∧ Tail log.1 log.2 c
  new : ∀ id, creating proc = some id → acceptedBytes log.2 id = []

def Tracking (log : Log) (procs : List Proc) : Prop :=
  Stable Tracked Waiting (fun _ _ _ => True) log procs

theorem acceptedBytes_append (replies : List Reply) (reply : Option Reply) (id : String) :
    acceptedBytes (replies ++ reply.toList) id =
      acceptedBytes replies id ++ acceptedBytes reply.toList id :=
  List.flatMap_append

theorem acceptedBytes_silent (replies : List Reply) {reply : Option Reply}
    (silent : ∀ uploadID chunk, reply ≠ some (.appended uploadID chunk)) (id : String) :
    acceptedBytes (replies ++ reply.toList) id = acceptedBytes replies id := by
  rw [acceptedBytes_append]
  have nothing : acceptedBytes reply.toList id = [] := by
    cases reply with
    | none => rfl
    | some reply =>
      cases reply with
      | appended uploadID chunk => exact absurd rfl (silent uploadID chunk)
      | _ => rfl
  rw [nothing, List.append_nil]

/-! ## One upload through a turn -/

/-- Nothing this argument reads of an upload has changed; it may have closed. -/
structure Untouched (before after : Log) (id : String) : Prop where
  files : after.1.files id = before.1.files id
  accepted : acceptedBytes after.2 id = acceptedBytes before.2 id
  rows : ∀ w, after.1.db.uploads.get? id = some w → w.state = .open → ∃ v,
    before.1.db.uploads.get? id = some v ∧ v.state = .open ∧ v.receivedBytes = w.receivedBytes

section Upload
variable {before after : Log} {id : String}

theorem Untouched.durable (same : Untouched before after id) (durable : Durable before.1 before.2 id) :
    Durable after.1 after.2 id := by
  intro w row open_
  obtain ⟨v, held, open_, received⟩ := same.rows w row open_
  rw [same.files, same.accepted, ← received]
  exact durable v held open_

theorem Untouched.tail {c : AppendCall} (same : Untouched before after c.uploadID)
    (tail : Tail before.1 before.2 c) : Tail after.1 after.2 c := by
  intro w row open_ current
  obtain ⟨v, held, open_, received⟩ := same.rows w row open_
  rw [same.files, same.accepted]
  exact tail v held open_ (received.trans current)

/-- The cursor of an upload nobody receives any more. -/
theorem durable_closed {world : World} {replies : List Reply}
    (closed : ∀ v, world.db.uploads.get? id = some v → v.state ≠ .open) : Durable world replies id :=
  fun v row open_ => absurd open_ (closed v row)

theorem tail_closed {world : World} {replies : List Reply} {c : AppendCall}
    (closed : ∀ v, world.db.uploads.get? c.uploadID = some v → v.state ≠ .open) :
    Tail world replies c :=
  fun v row open_ => absurd open_ (closed v row)

end Upload

/-! ## Every turn keeps it -/

section Turn
variable {env : Environment} {turn : Turn} {state : State} {index : ℕ} {proc : Proc} {r : Result}
  {replies : List Reply}

/-- The log a turn leaves. -/
abbrev logged (replies : List Reply) (r : Result) : Log := (r.world, replies ++ r.reply.toList)

/-- A call that reports nothing waits for nothing. -/
private theorem waiting_quiet {world : World} (turned : Turned env turn world proc r) (quiet : Quiet r)
    (waiting : Waiting (world, replies) proc) : Waiting (logged replies r) r.proc where
  tail c same := by
    rw [quiet.1] at same
    cases same
  new id created :=
    (acceptedBytes_silent replies quiet.2 id).trans (waiting.new id (turned.draft id created))

/-- A turn that touches at most one upload need only answer for that one. -/
private theorem tracking_touched (tracking : Tracking (state.world, replies) state.procs)
    (running : state.procs[index]? = some proc) (touched : String)
    (only : ∀ id, id ≠ touched → Untouched (state.world, replies) (logged replies r) id)
    (durable : Durable r.world (replies ++ r.reply.toList) touched)
    (accepted : acceptedBytes (replies ++ r.reply.toList) touched = acceptedBytes replies touched ∨
      ∀ (j : ℕ) q, state.procs[j]? = some q → creating q ≠ some touched)
    (unused : r.world.files touched = none →
      acceptedBytes (replies ++ r.reply.toList) touched = [])
    (tails : ∀ (j : ℕ) q c, j ≠ index → state.procs[j]? = some q → pending q = some c →
      c.uploadID = touched → c.chunk ≠ [] → Tail state.world replies c →
      Tail r.world (replies ++ r.reply.toList) c)
    (own : Waiting (logged replies r) r.proc) :
    Tracking (logged replies r) (state.procs.set index r.proc) := by
  refine Stable.turn tracking running ⟨fun id => ?_, fun id free => ?_⟩ own
    (fun j q apart held waiting _ _ => ⟨⟨fun c same => ?_, fun id created => ?_⟩, trivial, trivial⟩)
    fun _ _ _ _ _ => trivial
  · by_cases same : id = touched
    · exact same ▸ durable
    · exact (only id same).durable (tracking.shared.durable id)
  · by_cases same : id = touched
    · exact same ▸ unused (same ▸ free)
    · have untouched := only id same
      exact untouched.accepted.trans (tracking.shared.unused id (untouched.files.symm.trans free))
  · obtain ⟨nonempty, tail⟩ := waiting.tail c same
    by_cases here : c.uploadID = touched
    · exact ⟨nonempty, tails j q c apart held same here nonempty tail⟩
    · exact ⟨nonempty, (only _ here).tail tail⟩
  · have before := waiting.new id created
    by_cases same : id = touched
    · rcases accepted with same' | never
      · exact same ▸ same'.trans (same ▸ before)
      · exact absurd (same ▸ created) (never j q held)
    · exact (only id same).accepted.trans before

/-- A turn that touches no upload need not answer for any. -/
private theorem tracking_untouched (tracking : Tracking (state.world, replies) state.procs)
    (running : state.procs[index]? = some proc)
    (only : ∀ id, Untouched (state.world, replies) (logged replies r) id)
    (own : Waiting (logged replies r) r.proc) :
    Tracking (logged replies r) (state.procs.set index r.proc) :=
  tracking_touched tracking running "" (fun id _ => only id)
    ((only "").durable (tracking.shared.durable ""))
    (.inl (only "").accepted)
    (fun free => (only "").accepted.trans (tracking.shared.unused "" ((only "").files.symm.trans free)))
    (fun _ _ _ _ _ _ here _ tail => (here ▸ only "").tail tail) own

/-- Two states with the same row of an upload. -/
private theorem same_rows {before after : Log} {id : String}
    (rows : after.1.db.uploads.get? id = before.1.db.uploads.get? id) (w : Upload)
    (row : after.1.db.uploads.get? id = some w) (open_ : w.state = .open) :
    ∃ v, before.1.db.uploads.get? id = some v ∧ v.state = .open ∧ v.receivedBytes = w.receivedBytes :=
  ⟨w, rows.symm.trans row, open_, rfl⟩

private theorem file_written {file : StagedFile} {uploadID : String}
    (world' : r.world = { state.world with files := state.world.files.write uploadID file }) :
    r.world.files uploadID = some file := by
  rw [world']
  exact write_same file

/-- A turn that writes one file and leaves the tables touches no other upload. -/
private theorem untouched_write {file : StagedFile} {uploadID : String}
    (silent : ∀ id, acceptedBytes (replies ++ r.reply.toList) id = acceptedBytes replies id)
    (world' : r.world = { state.world with files := state.world.files.write uploadID file })
    (id : String) (same : id = uploadID → state.world.files uploadID = some file) :
    Untouched (state.world, replies) (logged replies r) id where
  files := by
    dsimp only
    rw [world']
    by_cases here : id = uploadID
    · subst here
      exact (write_same file).trans (same rfl).symm
    · exact write_other here file
  accepted := silent id
  rows := same_rows (by
    dsimp only
    rw [world'])

/-- What has been accepted of an upload whose cursor is durable is as long as the
cursor says. -/
private theorem accepted_length {world : World} {id : String} {v : Upload} {bytes : Bytes}
    (durable : Durable world replies id) (row : world.db.uploads.get? id = some v)
    (open_ : v.state = .open) (held : world.files id = some ⟨bytes, true⟩) :
    v.receivedBytes ≤ bytes.length ∧ bytes.take v.receivedBytes = acceptedBytes replies id ∧
      (acceptedBytes replies id).length = v.receivedBytes := by
  obtain ⟨bytes', held', within, taken⟩ := durable v row open_
  rw [held] at held'
  cases held'
  refine ⟨within, taken, ?_⟩
  rw [← taken, List.length_take]
  omega

/-- Where rows only move forward, no cursor moves. -/
private theorem tracking_tables (tracking : Tracking (state.world, replies) state.procs)
    (running : state.procs[index]? = some proc)
    (files : r.world.files = state.world.files)
    (uploads : ∀ id, Steady (state.world.db.uploads.get? id) (r.world.db.uploads.get? id))
    (silent : ∀ id, acceptedBytes (replies ++ r.reply.toList) id = acceptedBytes replies id)
    (own : Waiting (logged replies r) r.proc) :
    Tracking (logged replies r) (state.procs.set index r.proc) := by
  refine tracking_untouched tracking running (fun id => ⟨by rw [files],
    silent id, fun w row open_ => ?_⟩) own
  have steady := uploads id
  rw [row] at steady
  cases held : state.world.db.uploads.get? id with
  | none => rw [held] at steady; cases steady
  | some v =>
    rw [held] at steady
    obtain ⟨received, _, _, same | ⟨_, aborted | expired⟩⟩ := steady
    · exact ⟨v, rfl, same ▸ open_, received.symm⟩
    · rw [aborted] at open_
      cases open_
    · rw [expired] at open_
      cases open_

/-- A row that is cleared away takes its cursor with it. -/
private theorem tracking_acknowledged (tracking : Tracking (state.world, replies) state.procs)
    (running : state.procs[index]? = some proc)
    {uploadID : String} (files : r.world.files = state.world.files)
    (acknowledged : Acknowledged uploadID state.world.db r.world.db)
    (silent : ∀ id, acceptedBytes (replies ++ r.reply.toList) id = acceptedBytes replies id)
    (own : Waiting (logged replies r) r.proc) :
    Tracking (logged replies r) (state.procs.set index r.proc) := by
  refine tracking_untouched tracking running (fun id => ⟨by rw [files],
    silent id, fun w row open_ => ?_⟩)
    own
  rcases acknowledged.uploads id with kept | ⟨_, gone, _⟩
  · exact ⟨w, kept.symm.trans row, open_, rfl⟩
  · rw [gone] at row
    cases row

/-- A sealed upload has no cursor to keep. -/
private theorem tracking_sealed (tracking : Tracking (state.world, replies) state.procs)
    (running : state.procs[index]? = some proc)
    {c : CompleteCall} {v : Upload} (files : r.world.files = state.world.files)
    (uploads : ∀ id, r.world.db.uploads.get? id = if id = c.uploadID then
      some { v with state := .completed, completedAt := some turn.now, updatedAt := turn.now }
      else state.world.db.uploads.get? id)
    (silent : ∀ id, acceptedBytes (replies ++ r.reply.toList) id = acceptedBytes replies id)
    (own : Waiting (logged replies r) r.proc) :
    Tracking (logged replies r) (state.procs.set index r.proc) := by
  refine tracking_untouched tracking running (fun id => ⟨by rw [files],
    silent id, fun w row open_ => ?_⟩) own
  rw [uploads] at row
  split at row
  · cases row
    cases open_
  · exact ⟨w, row, open_, rfl⟩

/-- A new file is there before its row. -/
private theorem tracking_staged (tracking : Tracking (state.world, replies) state.procs)
    (running : state.procs[index]? = some proc)
    {uploadID : String}
    (unrecorded : state.world.db.uploads.get? uploadID = none)
    (world' : r.world = { state.world with files := state.world.files.write uploadID ⟨[], true⟩ })
    (silent : ∀ id, acceptedBytes (replies ++ r.reply.toList) id = acceptedBytes replies id)
    (own : Waiting (logged replies r) r.proc) :
    Tracking (logged replies r) (state.procs.set index r.proc) := by
  have closed (v : Upload) (row : r.world.db.uploads.get? uploadID = some v) : v.state ≠ .open := by
    rw [world', unrecorded] at row
    cases row
  refine tracking_touched tracking running uploadID
    (fun id apart => untouched_write silent world' id fun same => absurd same apart)
    (durable_closed closed) (.inl (silent uploadID)) (fun free => ?_)
    (fun j q c _ _ _ here _ _ => tail_closed (here ▸ closed)) own
  rw [file_written world'] at free
  cases free

/-- A new row points at the front of an empty file. -/
private theorem tracking_recorded (tracking : Tracking (state.world, replies) state.procs)
    (running : state.procs[index]? = some proc)
    (sound : Sound state) {uploadID : String} {row : Upload}
    (by_ : proc = .createRecord uploadID row) (files : r.world.files = state.world.files)
    (uploads : ∀ id, r.world.db.uploads.get? id =
      if id = uploadID then some row else state.world.db.uploads.get? id)
    (silent : ∀ id, acceptedBytes (replies ++ r.reply.toList) id = acceptedBytes replies id)
    (own : Waiting (logged replies r) r.proc) :
    Tracking (logged replies r) (state.procs.set index r.proc) := by
  have safe := sound.each index proc running
  have waiting := tracking.each index proc running
  subst by_
  refine tracking_touched tracking running uploadID (fun id apart => ⟨by rw [files], silent id,
    same_rows ?_⟩) ?_ (.inl (silent uploadID)) (fun free => ?_) ?_
    own
  · exact (uploads id).trans (if_neg apart)
  · intro v held _
    rw [uploads, if_pos rfl] at held
    cases held
    refine ⟨[], by rw [files, safe.staged uploadID row rfl], ?_, ?_⟩
    · rw [(safe.blank uploadID row (.inr rfl)).1]
      exact Nat.zero_le _
    · rw [silent, waiting.new uploadID rfl, List.take_nil]
  · rw [files, safe.staged uploadID row rfl] at free
    cases free
  · intro j q c apart held same here _ _
    exact absurd (here ▸ pending_held same)
      (sound.pair index j _ q (Ne.symm apart) running held uploadID rfl)

/-- A careful truncation leaves what lies before a cursor, and what is about to. -/
private theorem tracking_truncated (tracking : Tracking (state.world, replies) state.procs)
    (running : state.procs[index]? = some proc)
    {uploadID : String} {size : ℕ} {bytes : Bytes}
    (careful : ∀ uploadID size bytes v, turn.outcome ≠ .refused → cut proc = some (uploadID, size) →
      state.world.files uploadID = some ⟨bytes, true⟩ → size < bytes.length →
      state.world.db.uploads.get? uploadID = some v → v.state = .open →
      v.receivedBytes ≤ size ∧ ∀ c, .appendAdvance c ∈ state.procs →
        c.uploadID = uploadID → c.upload.receivedBytes ≠ v.receivedBytes)
    (by_ : cut proc = some (uploadID, size)) (taken : turn.outcome ≠ .refused)
    (held : state.world.files uploadID = some ⟨bytes, true⟩)
    (world' : r.world = { state.world with files := state.world.files.write uploadID ⟨bytes.take size, true⟩ })
    (silent : ∀ id, acceptedBytes (replies ++ r.reply.toList) id = acceptedBytes replies id)
    (own : Waiting (logged replies r) r.proc) :
    Tracking (logged replies r) (state.procs.set index r.proc) := by
  by_cases cuts : size < bytes.length
  · refine tracking_touched tracking running uploadID
      (fun id apart => untouched_write silent world' id fun same => absurd same apart)
      (fun v row open_ => ?_) (.inl (silent uploadID)) (fun free => ?_)
      (fun j q c _ running same here _ _ v row open_ current => ?_)
      own
    · rw [world'] at row
      obtain ⟨within, before, _⟩ := accepted_length (tracking.shared.durable uploadID) row open_ held
      have above := (careful uploadID size bytes v taken by_ held cuts row open_).1
      refine ⟨bytes.take size, by rw [file_written world'], ?_, ?_⟩
      · rw [List.length_take]
        omega
      · rw [silent, ← before, List.take_take, Nat.min_eq_left above]
    · rw [file_written world'] at free
      cases free
    · rw [world', here] at row
      have unwritten := (careful uploadID size bytes v taken by_ held cuts row open_).2 c
      refine absurd current.symm (unwritten ?_ here)
      rw [← pending_advance same]
      exact List.mem_of_getElem? running
  · have whole : bytes.take size = bytes := List.take_of_length_le (Nat.not_lt.mp cuts)
    rw [whole] at world'
    exact tracking_untouched tracking running
      (fun id => untouched_write silent world' id fun _ => held) own

/-- Bytes are written behind the cursor of the append that writes them. -/
private theorem tracking_written (tracking : Tracking (state.world, replies) state.procs)
    (running : state.procs[index]? = some proc)
    (sound : Sound state) {c : AppendCall} {bytes written : Bytes}
    (by_ : proc = .appendWrite c) (held : state.world.files c.uploadID = some ⟨bytes, true⟩)
    (atEnd : bytes.length = c.upload.receivedBytes) (nonempty : written ≠ [])
    (next : (r.proc = .appendAdvance c ∧ written = c.chunk) ∨ r.proc = .done)
    (world' : r.world = { state.world with
      files := state.world.files.write c.uploadID ⟨bytes ++ written, true⟩ })
    (told : ∀ id, acceptedBytes (replies ++ r.reply.toList) id = acceptedBytes replies id) :
    Tracking (logged replies r) (state.procs.set index r.proc) := by
  have safe := sound.each index proc running
  subst by_
  -- the end of the file is the cursor, so the file holds what was accepted and no more
  have exactly {v : Upload} (row : r.world.db.uploads.get? c.uploadID = some v)
      (open_ : v.state = .open) :
      bytes = acceptedBytes replies c.uploadID ∧ v.receivedBytes = bytes.length := by
    rw [world'] at row
    obtain ⟨within, before, length⟩ :=
      accepted_length (tracking.shared.durable c.uploadID) row open_ held
    have behind := (safe.behind (c.uploadID, c.upload) (List.mem_singleton_self _) v row).received
    have all : v.receivedBytes = bytes.length := by
      dsimp only at behind
      omega
    rw [all, List.take_length] at before
    exact ⟨before, all⟩
  refine tracking_touched tracking running c.uploadID
    (fun id apart => untouched_write told world' id fun same => absurd same apart)
    (fun v row open_ => ?_) (.inl (told c.uploadID)) (fun free => ?_)
    (fun j q d _ running _ here full tail v row open_ current => ?_) ⟨fun d same => ?_, ?_⟩
  · obtain ⟨accepted, all⟩ := exactly row open_
    refine ⟨bytes ++ written, by rw [file_written world'], ?_, ?_⟩
    · rw [List.length_append]
      omega
    · rw [all, List.take_left, told, ← accepted]
  · rw [file_written world'] at free
    cases free
  · obtain ⟨accepted, _⟩ := exactly (here ▸ row) open_
    have also := tail v (by rw [world'] at row; exact row) open_ current
    rw [here, held, ← accepted] at also
    have empty : d.chunk = [] := by simpa using also
    exact absurd empty full
  · rcases next with ⟨next, rfl⟩ | next
    · rw [next] at same
      cases same
      refine ⟨nonempty, fun v row open_ _ => ?_⟩
      dsimp only
      rw [file_written world', told, ← (exactly row open_).1]
    · rw [next] at same
      cases same
  · intro id created
    have none_ : creating r.proc = none := by
      rcases next with ⟨next, _⟩ | next
      · rw [next]
        rfl
      · rw [next]
        rfl
    rw [none_] at created
    cases created

/-- A cursor advances over bytes that are there. -/
private theorem tracking_advanced (tracking : Tracking (state.world, replies) state.procs)
    (running : state.procs[index]? = some proc)
    (sound : Sound state) {c : AppendCall} {v : Upload}
    (by_ : proc = .appendAdvance c) (next : r.proc = .done)
    (reply : r.reply = some (.appended c.uploadID c.chunk)) (files : r.world.files = state.world.files)
    (held : state.world.db.uploads.get? c.uploadID = some v) (open_ : v.state = .open)
    (expected : v.receivedBytes = c.upload.receivedBytes)
    (uploads : ∀ id, r.world.db.uploads.get? id = if id = c.uploadID then
      some { v with receivedBytes := c.upload.receivedBytes + c.chunk.length, updatedAt := turn.now }
      else state.world.db.uploads.get? id) :
    Tracking (logged replies r) (state.procs.set index r.proc) := by
  have waiting := tracking.each index proc running
  subst by_
  obtain ⟨nonempty, tail⟩ := waiting.tail c rfl
  have staged : state.world.files c.uploadID =
      some ⟨acceptedBytes replies c.uploadID ++ c.chunk, true⟩ := tail v held open_ expected
  obtain ⟨_, _, length⟩ := accepted_length (tracking.shared.durable c.uploadID) held open_ staged
  dsimp only at length
  have told (id : String) : acceptedBytes (replies ++ r.reply.toList) id =
      acceptedBytes replies id ++ if c.uploadID = id then c.chunk else [] := by
    rw [acceptedBytes_append, reply]
    simp [acceptedBytes]
  refine tracking_touched tracking running c.uploadID (fun id apart => ⟨?_, ?_, same_rows ?_⟩)
    (fun w row _ => ?_) (.inr fun j q running created => ?_) (fun free => ?_)
    (fun j q d _ running same here _ _ w row _ current => ?_) ?_
  · dsimp only
    rw [files]
  · dsimp only
    rw [told, if_neg (Ne.symm apart), List.append_nil]
  · exact (uploads id).trans (if_neg apart)
  · rw [uploads, if_pos rfl] at row
    cases row
    refine ⟨acceptedBytes replies c.uploadID ++ c.chunk, by rw [files]; exact staged, ?_, ?_⟩
    · rw [List.length_append]
      dsimp only
      omega
    · rw [told, if_pos rfl, List.take_of_length_le]
      rw [List.length_append]
      dsimp only
      omega
  · rw [(sound.each j q running).unrecorded c.uploadID created] at held
    cases held
  · rw [files, staged] at free
    cases free
  · rw [here, uploads, if_pos rfl] at row
    cases row
    have behind := ((sound.each j q running).behind (d.uploadID, d.upload)
      (pending_cursor same) v (here ▸ held)).received
    have some_ := List.length_pos_iff.mpr nonempty
    dsimp only at behind current
    omega
  · rw [next]
    refine ⟨fun d waits => ?_, fun id created => ?_⟩
    · cases waits
    · cases created

/-- A file goes when no cursor points into it. -/
private theorem tracking_removed (tracking : Tracking (state.world, replies) state.procs)
    (running : state.procs[index]? = some proc)
    {uploadID : String} {bytes : Bytes}
    (closed : ∀ v, state.world.db.uploads.get? uploadID = some v → v.state ≠ .open)
    (world' : r.world = { state.world with files := state.world.files.write uploadID ⟨bytes, false⟩ })
    (silent : ∀ id, acceptedBytes (replies ++ r.reply.toList) id = acceptedBytes replies id)
    (own : Waiting (logged replies r) r.proc) :
    Tracking (logged replies r) (state.procs.set index r.proc) := by
  have closed' (v : Upload) (row : r.world.db.uploads.get? uploadID = some v) : v.state ≠ .open := by
    rw [world'] at row
    exact closed v row
  refine tracking_touched tracking running uploadID
    (fun id apart => untouched_write silent world' id fun same => absurd same apart)
    (durable_closed closed') (.inl (silent uploadID)) (fun free => ?_)
    (fun j q c _ _ _ here _ _ => tail_closed (here ▸ closed')) own
  rw [file_written world'] at free
  cases free

/-- Every careful turn keeps the cursors durable. -/
theorem tracking_turn (sound : Sound state) (tracking : Tracking (state.world, replies) state.procs)
    (running : state.procs[index]? = some proc) (turned : Turned env turn state.world proc r)
    (careful : ∀ uploadID size bytes v, turn.outcome ≠ .refused → cut proc = some (uploadID, size) →
      state.world.files uploadID = some ⟨bytes, true⟩ → size < bytes.length →
      state.world.db.uploads.get? uploadID = some v → v.state = .open →
      v.receivedBytes ≤ size ∧ ∀ c, .appendAdvance c ∈ state.procs →
        c.uploadID = uploadID → c.upload.receivedBytes ≠ v.receivedBytes) :
    Tracking (logged replies r) (state.procs.set index r.proc) := by
  have safe := sound.each index proc running
  have waiting := tracking.each index proc running
  cases turned.effect with
  | tables quiet files uploads leases =>
    exact tracking_tables tracking running files uploads (acceptedBytes_silent replies quiet.2)
      (waiting_quiet turned quiet waiting)
  | acknowledged quiet uploadID _ files acknowledged =>
    exact tracking_acknowledged tracking running files acknowledged (acceptedBytes_silent replies quiet.2)
      (waiting_quiet turned quiet waiting)
  | sealed quiet c sha size v lease by_ files held open_ digest uploads of fresh leases =>
    exact tracking_sealed tracking running files uploads (acceptedBytes_silent replies quiet.2)
      (waiting_quiet turned quiet waiting)
  | staged quiet uploadID row by_ next world' =>
    exact tracking_staged tracking running (safe.unrecorded uploadID (by rw [by_]; rfl)) world'
      (acceptedBytes_silent replies quiet.2) (waiting_quiet turned quiet waiting)
  | recorded quiet uploadID row by_ next files leases fresh uploads =>
    exact tracking_recorded tracking running sound by_ files uploads (acceptedBytes_silent replies quiet.2)
      (waiting_quiet turned quiet waiting)
  | truncated quiet uploadID size bytes by_ taken held fits world' =>
    exact tracking_truncated tracking running careful by_ taken held world' (acceptedBytes_silent replies quiet.2)
      (waiting_quiet turned quiet waiting)
  | written c bytes written by_ held atEnd nonempty part next silent world' =>
    exact tracking_written tracking running sound by_ held atEnd nonempty next world'
      (acceptedBytes_silent replies silent)
  | advanced c v by_ next reply files leases held open_ expected uploads =>
    exact tracking_advanced tracking running sound by_ next reply files held open_ expected uploads
  | removed quiet uploadID bytes by_ held world' =>
    have closed (v : Upload) (row : state.world.db.uploads.get? uploadID = some v) : v.state ≠ .open := by
      rcases by_ with listed | rfl
      · exact (safe.gone uploadID listed).1 v row
      · rw [safe.unrecorded uploadID rfl] at row
        cases row
    exact tracking_removed tracking running closed world' (acceptedBytes_silent replies quiet.2)
      (waiting_quiet turned quiet waiting)

end Turn

/-! ## Every run keeps it -/

/-- What a run keeps: the calls in flight are sound, and every cursor durable. -/
def Kept (history : History) : Prop :=
  Sound history.state ∧ Tracking (history.state.world, history.replies) history.state.procs

/-- An answer that reports no append changes nothing. -/
private theorem tracking_told {world : World} {replies later : List Reply} {procs : List Proc}
    (told : ∀ id, acceptedBytes later id = acceptedBytes replies id)
    (tracking : Tracking (world, replies) procs) : Tracking (world, later) procs := by
  have untouched (id : String) : Untouched (world, replies) (world, later) id :=
    ⟨rfl, told id, same_rows rfl⟩
  refine ⟨⟨fun id => (untouched id).durable (tracking.shared.durable id),
    fun id free => (told id).trans (tracking.shared.unused id free)⟩,
    fun i p running => ⟨fun c waits => ?_, fun id created => ?_⟩, fun _ _ _ _ _ _ _ => trivial⟩
  · obtain ⟨nonempty, tail⟩ := (tracking.each i p running).tail c waits
    exact ⟨nonempty, (untouched c.uploadID).tail tail⟩
  · exact (told id).trans ((tracking.each i p running).new id created)

theorem kept_step {env : Environment} {history : History} {event : Event}
    (careful : Fresh history.state event ∧ Careful history event) (kept : Kept history) :
    Kept (record env history event) := by
  obtain ⟨sound, tracking⟩ := kept
  refine ⟨sound_step careful.1 sound, ?_⟩
  cases event with
  | arrive now call =>
    simp only [record, step]
    split
    · rename_i proc begun
      obtain ⟨_, _, _, idle, _, _, _, creates⟩ := begin_starts begun
      rw [Option.toList_none, List.append_nil]
      refine Stable.arrive tracking ⟨?_, fun id created => ?_⟩ fun _ _ _ => ⟨trivial, trivial⟩
      · simp [idle]
      · rcases creates with unborn | ⟨uploadID, row, installID, sha, mimeType, total, rfl, rfl, _⟩
        · rw [unborn] at created
          cases created
        · cases created
          exact tracking.shared.unused id careful.1.2.1
    · exact tracking_told (acceptedBytes_silent history.replies (by simp)) tracking
  | turn index turn =>
    simp only [record, step]
    split
    · rw [Option.toList_none, List.append_nil]
      exact tracking
    · rename_i proc running
      exact tracking_turn sound tracking running (turnOf_turned env turn history.state.world proc)
        fun uploadID size bytes v => careful.2 proc uploadID size bytes v running
  | crash =>
    simp only [record, step]
    rw [Option.toList_none, List.append_nil]
    exact Stable.idle tracking.shared

theorem kept_initial : Kept .initial :=
  ⟨sound_initial, Stable.idle ⟨fun _ => durable_closed nofun, fun _ _ => rfl⟩⟩

/-- **A cursor never points past the staged bytes**, in any run whose truncations
are careful: at every moment, and for every open upload, its cursor is within the
staged file, and the bytes before it are the accepted chunks in order. -/
theorem cursor_within_staged_bytes (env : Environment) (events : List Event)
    (careful : AllAlong (record env)
      (fun history event => Fresh history.state event ∧ Careful history event) .initial events)
    (uploadID : String) :
    Durable (after env events).state.world (after env events).replies uploadID :=
  (runSteps_invariant_along (fun _ _ => kept_step) kept_initial careful).2.shared.durable uploadID

/-! ## A stale truncation -/

def stagedID : String := "mup_00000000000000000000000000000001"

/-- A PNG signature, and its digest. -/
def stagedBytes : Bytes := [137, 80, 78, 71, 13, 10, 26, 10]
def stagedSHA256 : String := "4c4b6a3be1314ab86138bef4314dde022e600960d8689a2c8f8631802d20dab6"

/-- The fetch token of the one lease, under a key of 32 bytes, and its digest. -/
def fetchToken : String := "3601.316ccb1397fd44ac8a7bb6c1b3aea1252ef036af477ee541c9e8f9671bc2b039"
def fetchTokenHash : String := "31306039448c4a22d69d23123fba43253d188449b2ffc83208019100ec56cf69"

/-- What the standard library answers on them. -/
def stagingEnvironment : Environment where
  sha256 bytes := if bytes = stagedBytes then stagedSHA256 else ""
  hashSecret secret := if secret = fetchToken then fetchTokenHash else ""
  token _ _ _ := fetchToken
  verify token _ _ _ := decide (token = fetchToken)
  limits := ⟨1048576, 3600, 3600, by decide⟩

/-- A turn of one call, a second after the start, that goes through. -/
def turnOfCall (index : ℕ) : Event := .turn index ⟨1, "mls_00000000000000000000000000000001", .through⟩

/-- An upload of eight bytes is created. -/
def creation : List Event :=
  [.arrive 0 (.create stagedID "ins_1" stagedSHA256 "image/png" 8), turnOfCall 0, turnOfCall 0]

/-- Two appends at offset 0 find the cursor there. The second one writes its eight
bytes and advances the cursor; the first one then takes them for the tail of a
crash, and cuts the file to the cursor it has read. -/
def staleAppend : List Event :=
  creation ++
    [.arrive 1 (.append "ins_1" stagedID 0 [1]),
      .arrive 1 (.append "ins_1" stagedID 0 stagedBytes),
      turnOfCall 1, turnOfCall 2, turnOfCall 2, turnOfCall 2, turnOfCall 2, turnOfCall 1, turnOfCall 1]

/-- After it the cursor of the open upload stands at 8, and its file is empty. -/
theorem cursor_past_staged_bytes :
    AllAlong (record stagingEnvironment) (fun history event => Fresh history.state event) .initial
        staleAppend ∧
      ¬Durable (after stagingEnvironment staleAppend).state.world
        (after stagingEnvironment staleAppend).replies stagedID := by
  constructor
  · exact allAlong_of_check (fun _ _ => fresh_of_check) (by decide +kernel)
  · intro durable
    have file : (after stagingEnvironment staleAppend).state.world.files stagedID =
        some ⟨[], true⟩ := by decide +kernel
    have cursor : ((after stagingEnvironment staleAppend).state.world.db.uploads.get? stagedID).map
        (fun v => (v.state, v.receivedBytes)) = some (.open, 8) := by decide +kernel
    obtain ⟨v, row, here⟩ := Option.map_eq_some_iff.mp cursor
    obtain ⟨open_, received⟩ := Prod.mk.inj here
    obtain ⟨bytes, held, within, _⟩ := durable v row open_
    rw [file] at held
    cases held
    rw [received] at within
    exact absurd within (by decide)

/-! ## A careful truncation -/

/-- A check that nothing waits for its cursor when a file is cut, and that none is cut below its
own. -/
def carefulNow (state : State) : Event → Bool
  | .turn index _ => (state.procs[index]?.bind cut).all fun (uploadID, size) =>
      ((state.world.db.uploads.get? uploadID).all fun v => decide (v.receivedBytes ≤ size)) &&
        state.procs.all fun p => (pending p).isNone
  | _ => true

theorem careful_of_check {history : History} {event : Event}
    (checked : (freshNow history.state event && carefulNow history.state event) = true) :
    Fresh history.state event ∧ Careful history event := by
  obtain ⟨fresh, cautious⟩ := Bool.and_eq_true_iff.mp checked
  refine ⟨fresh_of_check fresh, ?_⟩
  cases event with
  | turn index turn =>
    intro proc uploadID size bytes v running _ cuts _ _ row _
    simp only [carefulNow, running, Option.bind_some, cuts, Option.all_some, row, Bool.and_eq_true,
      decide_eq_true_eq, List.all_eq_true] at cautious
    refine ⟨cautious.1, fun c waits => ?_⟩
    have free := cautious.2 _ waits
    cases free
  | _ => trivial

/-- The process stops between the bytes of an append and its cursor. Of two appends after it, one
takes the eight bytes for the tail that they are, cuts them off and sends them again; the other
comes too late. -/
def repairedAppend : List Event :=
  creation ++ [.arrive 1 (.append "ins_1" stagedID 0 stagedBytes), turnOfCall 1, turnOfCall 1, turnOfCall 1, .crash,
    .arrive 1 (.append "ins_1" stagedID 0 stagedBytes), turnOfCall 0, turnOfCall 0,
    .arrive 1 (.append "ins_1" stagedID 0 [1]), turnOfCall 0, turnOfCall 0, turnOfCall 0, turnOfCall 1]

theorem cursor_within_repaired_append :
    Durable (after stagingEnvironment repairedAppend).state.world
      (after stagingEnvironment repairedAppend).replies stagedID := by
  refine cursor_within_staged_bytes stagingEnvironment repairedAppend ?_ stagedID
  exact allAlong_of_check (fun _ _ => careful_of_check) (by decide +kernel)

end AnselmGateway.UploadCursor
