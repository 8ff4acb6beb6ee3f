import AnselmGateway.UploadCursor
import AnselmGateway.UploadRows

/-! Uploads whose owner sends nothing but the file, over every interleaving of calls: what has been
accepted of one is a beginning of its file, and no more is staged than the file has. -/
namespace AnselmGateway.FaithfulUploads
open Foundation MediaFiles MediaStore MediaStoreSemantics Media MediaSemantics MediaInvariants
open UploadRows (SameTerms Statement turnOf_statement advanceReceived_owner)
open UploadCursor (acceptedBytes acceptedBytes_append acceptedBytes_silent)

/-! ## What the owner sends -/

/-- The upload is declared as what the file is, by its owner, and the owner sends at every offset only
what the file holds there. Nothing is asked of anyone else. -/
def Genuine (sha256 : Bytes → String) (owner uploadID : String) (file : Bytes) : Event → Prop
  | .arrive _ (.create id installID expectedSHA256 mimeType totalBytes) => id = uploadID →
      installID = owner ∧ expectedSHA256 = sha256 file ∧ mimeType = detectMIME (file.take 64) ∧
        totalBytes = file.length
  | .arrive _ (.append installID id offset chunk) =>
      installID = owner → id = uploadID → chunk <+: file.drop offset.toNat
  | _ => True

instance (sha256 : Bytes → String) (owner uploadID : String) (file : Bytes) :
    DecidablePred (Genuine sha256 owner uploadID file)
  | .arrive _ (.create id installID expectedSHA256 mimeType totalBytes) => inferInstanceAs (Decidable
      (id = uploadID → installID = owner ∧ expectedSHA256 = sha256 file ∧ mimeType = detectMIME (file.take 64) ∧
        totalBytes = file.length))
  | .arrive _ (.append installID id offset chunk) => inferInstanceAs (Decidable
      (installID = owner → id = uploadID → chunk <+: file.drop offset.toNat))
  | .arrive _ (.complete ..) | .arrive _ (.cancel ..) | .arrive _ .recover | .arrive _ (.openLease ..)
  | .arrive _ (.revokeSample ..) | .turn .. | .crash => inferInstanceAs (Decidable True)

/-- What an append in flight sends: for whom, to which upload, at which offset. -/
def sending : Proc → Option (String × String × ℕ × Bytes)
  | .appendRead installID uploadID offset chunk => some (installID, uploadID, offset.toNat, chunk)
  | .appendSize c | .appendRepair c | .appendWrite c | .appendAdvance c | .appendUndo c _ =>
    some (c.installID, c.uploadID, c.upload.receivedBytes, c.chunk)
  | _ => none

/-- The row a creation in flight is to record. -/
def drafting : Proc → Option (String × Upload)
  | .createFile uploadID row | .createRecord uploadID row => some (uploadID, row)
  | _ => none

section Turns
variable {env : Environment} {turn : Turn} {world : World} {proc : Proc}

/-- An append goes on sending what it came with. -/
theorem sending_turn {sent : String × String × ℕ × Bytes}
    (sends : sending (turnOf env turn world proc).proc = some sent) : sending proc = some sent := by
  cases proc with
  | appendRead installID uploadID offset chunk =>
    simp only [turnOf, appendStep] at sends
    split at sends
    · cases sends
    · split at sends
      · cases sends
      · split at sends
        · cases sends
        · rename_i u _ atCursor
          cases sends
          have same := not_not.mp atCursor
          rw [sending, ← same, Int.toNat_natCast]
  | appendSize c | appendRepair c | appendWrite c | appendAdvance c =>
    simp only [turnOf, appendStep] at sends
    repeat' split at sends
    all_goals first | exact sends | cases sends
  | appendUndo c error => cases sends
  | createFile uploadID row | createRecord uploadID row | createUndo uploadID =>
    simp only [turnOf, createStep] at sends
    repeat' split at sends
    all_goals cases sends
  | completeRead | completeHash | completeSniff | completeSeal | completeReport =>
    simp only [turnOf, completeStep] at sends
    repeat' split at sends
    all_goals cases sends
  | cancelRead | cancelAbort | cancelResolve | cancelRemove =>
    simp only [turnOf, cancelStep] at sends
    repeat' split at sends
    all_goals cases sends
  | leaseRead | leaseOpen | leaseServe | revoke =>
    simp only [turnOf, leaseStep] at sends
    repeat' split at sends
    all_goals cases sends
  | recoverSize now open_ =>
    cases open_ <;> simp only [turnOf, recoverStep] at sends <;> repeat' split at sends
    all_goals cases sends
  | recoverRemove now ids =>
    cases ids <;> simp only [turnOf, recoverStep] at sends <;> repeat' split at sends
    all_goals cases sends
  | done => cases sends
  | _ =>
    simp only [turnOf, recoverStep] at sends
    repeat' split at sends
    all_goals cases sends

/-- A creation records the row it came with. -/
theorem drafting_turn {draft : String × Upload}
    (drafts : drafting (turnOf env turn world proc).proc = some draft) : drafting proc = some draft := by
  have staged := (turnOf_turned env turn world proc).staged
  cases next : (turnOf env turn world proc).proc with
  | createFile uploadID row => exact absurd next (staged uploadID row).1
  | createRecord uploadID row =>
    rw [next] at drafts
    rw [((staged uploadID row).2 next).1]
    exact drafts
  | _ =>
    rw [next] at drafts
    cases drafts

/-- Every file is under an id that is one. -/
theorem named_turn {id : String} (staged : (turnOf env turn world proc).world.files id ≠ none) :
    world.files id ≠ none ∨ validUploadID id = true := by
  have elsewhere {uploadID : String} {file : StagedFile} {bytes : Bytes}
      (held : world.files uploadID = some ⟨bytes, true⟩)
      (files : (turnOf env turn world proc).world.files = world.files.write uploadID file) :
      world.files id ≠ none := by
    by_cases here : id = uploadID
    · rw [here, held]
      exact Option.some_ne_none _
    · rw [files, write_other here] at staged
      exact staged
  have same (files : (turnOf env turn world proc).world.files = world.files) : world.files id ≠ none :=
    files ▸ staged
  cases (turnOf_turned env turn world proc).effect with
  | tables _ files => exact .inl (same files)
  | acknowledged _ _ _ files => exact .inl (same files)
  | recorded _ _ _ _ _ files => exact .inl (same files)
  | advanced _ _ _ _ _ files => exact .inl (same files)
  | sealed _ _ _ _ _ _ _ files => exact .inl (same files)
  | truncated _ _ _ _ _ _ held _ world' => exact .inl (elsewhere held (congrArg World.files world'))
  | written _ _ _ _ held _ _ _ _ _ world' => exact .inl (elsewhere held (congrArg World.files world'))
  | removed _ _ _ _ held world' => exact .inl (elsewhere held (congrArg World.files world'))
  | staged _ uploadID row by_ _ world' =>
    subst by_
    by_cases here : id = uploadID
    · subst here
      by_cases valid : validUploadID id = true
      · exact .inr valid
      · have refused : create id world.files = .error .badUploadID := by
          rw [create, Files.read, if_neg valid]
        refine .inl (same ?_)
        cases outcome : turn.outcome <;> simp [turnOf, createStep, fileStep, outcome, refused, fail, finish]
    · rw [world'] at staged
      exact .inl fun free => staged ((write_other here _).trans free)

/-- A turn that reports an append has advanced the cursor of its upload, for the owner. -/
theorem told_turn (env : Environment) (turn : Turn) (world : World) (proc : Proc) :
    (∀ id chunk, (turnOf env turn world proc).reply ≠ some (.appended id chunk)) ∨
      ∃ c v, proc = .appendAdvance c ∧ (turnOf env turn world proc).reply = some (.appended c.uploadID c.chunk) ∧
        world.db.uploads.get? c.uploadID = some v ∧ v.state = .open ∧ v.installID = c.installID ∧
          v.receivedBytes = c.upload.receivedBytes := by
  cases (turnOf_turned env turn world proc).effect with
  | tables quiet => exact .inl quiet.2
  | acknowledged quiet => exact .inl quiet.2
  | staged quiet => exact .inl quiet.2
  | recorded quiet => exact .inl quiet.2
  | truncated quiet => exact .inl quiet.2
  | sealed quiet => exact .inl quiet.2
  | removed quiet => exact .inl quiet.2
  | written _ _ _ _ _ _ _ _ _ silent => exact .inl silent
  | advanced c v by_ _ reply _ _ held open_ expected =>
    subst by_
    refine .inr ⟨c, v, rfl, reply, held, open_, ?_, expected⟩
    simp only [turnOf, appendStep] at reply
    split at reply
    · cases reply
    · cases reply
    · rename_i world' ran
      rcases statement_cases ran with ⟨none_, _⟩ | ⟨won, db, answer, ok, _⟩
      · cases none_
      · cases answer
        exact advanceReceived_owner ok held

end Turns

/-! ## What a run keeps of an upload -/

/-- What a row says that `Create` has recorded, this upload's above all. -/
structure Registered (env : Environment) (owner uploadID : String) (file : Bytes) (id : String) (row : Upload) :
    Prop where
  owned : blank row.installID = false
  fits : row.totalBytes ≤ env.limits.maxBytes
  declared : id = uploadID → row.installID = owner ∧ row.expectedSHA256 = env.sha256 file ∧
    row.mimeType = detectMIME (file.take 64) ∧ row.totalBytes = file.length

structure Faithful (env : Environment) (owner uploadID : String) (file : Bytes) (history : History) : Prop where
  kept : UploadCursor.Kept history
  pieces : ∀ p ∈ history.state.procs, ∀ offset chunk, sending p = some (owner, uploadID, offset, chunk) →
    chunk <+: file.drop offset
  drafts : ∀ p ∈ history.state.procs, ∀ id row, drafting p = some (id, row) →
    Registered env owner uploadID file id row
  rows : ∀ id v, history.state.world.db.uploads.get? id = some v → Registered env owner uploadID file id v
  named : ∀ id, history.state.world.files id ≠ none → validUploadID id = true
  accepted : ∀ v, history.state.world.db.uploads.get? uploadID = some v → v.state = .open →
    acceptedBytes history.replies uploadID <+: file
  bounded : ∀ v bytes, history.state.world.db.uploads.get? uploadID = some v → v.state = .open →
    history.state.world.files uploadID = some ⟨bytes, true⟩ → bytes.length ≤ file.length

section Run
variable {env : Environment} {owner uploadID : String} {file : Bytes} {history : History}

theorem Registered.later {id : String} {v w : Upload} (registered : Registered env owner uploadID file id v)
    (same : SameTerms v w) : Registered env owner uploadID file id w := by
  rw [same]
  exact ⟨registered.owned, registered.fits, registered.declared⟩

/-- A piece of the file at the end of a beginning of it makes a longer beginning. -/
theorem piece_append {before chunk : Bytes} (beginning : before <+: file)
    (piece : chunk <+: file.drop before.length) : before ++ chunk <+: file := by
  obtain ⟨rest, rfl⟩ := beginning
  rw [List.drop_left] at piece
  exact (List.prefix_append_right_inj before).mpr piece

/-- The cursor of an open upload counts what was accepted. -/
theorem Faithful.received (faithful : Faithful env owner uploadID file history) {id : String} {v : Upload}
    (row : history.state.world.db.uploads.get? id = some v) (open_ : v.state = .open) :
    ∃ bytes, history.state.world.files id = some ⟨bytes, true⟩ ∧ v.receivedBytes ≤ bytes.length ∧
      bytes.take v.receivedBytes = acceptedBytes history.replies id ∧
        (acceptedBytes history.replies id).length = v.receivedBytes := by
  obtain ⟨bytes, held, within, taken⟩ := faithful.kept.2.shared.durable id v row open_
  refine ⟨bytes, held, within, taken, ?_⟩
  rw [← taken, List.length_take, Nat.min_eq_left within]

/-- What is accepted stays a beginning of the file through a turn. -/
theorem accepted_turn (faithful : Faithful env owner uploadID file history) {index : ℕ} {turn : Turn} {proc : Proc}
    (running : history.state.procs[index]? = some proc) {w : Upload}
    (row : (turnOf env turn history.state.world proc).world.db.uploads.get? uploadID = some w)
    (open_ : w.state = .open) :
    acceptedBytes (history.replies ++ (turnOf env turn history.state.world proc).reply.toList) uploadID <+: file := by
  have effect := (turnOf_turned env turn history.state.world proc).effect
  rcases row_after effect row with ⟨v, before, onward⟩ | ⟨creates, fresh, _⟩
  · have beginning := faithful.accepted v before (onward.open_ open_)
    rcases told_turn env turn history.state.world proc with silent | ⟨c, u, advances, told, held, _, owned, at_⟩
    · rw [acceptedBytes_silent history.replies silent]
      exact beginning
    · rw [told, acceptedBytes_append]
      by_cases here : c.uploadID = uploadID
      · subst here
        rw [before] at held
        cases held
        obtain ⟨_, _, _, _, length⟩ := faithful.received before (onward.open_ open_)
        have own := ((faithful.rows _ v before).declared rfl).1
        have piece := faithful.pieces proc (List.mem_of_getElem? running) c.upload.receivedBytes c.chunk
          (by rw [advances, sending, ← owned, own])
        rw [← at_, ← length] at piece
        simpa [acceptedBytes] using piece_append beginning piece
      · simpa [acceptedBytes, here] using beginning
  · subst creates
    have none_ := (faithful.kept.2.each index _ running).new uploadID rfl
    have silent (id : String) (chunk : Bytes) : (turnOf env turn history.state.world
        (.createRecord uploadID w)).reply ≠ some (.appended id chunk) := by
      rcases told_turn env turn history.state.world (.createRecord uploadID w) with
        silent | ⟨c, _, advances, _⟩
      · exact silent id chunk
      · cases advances
    rw [acceptedBytes_silent history.replies silent]
    exact none_ ▸ List.nil_prefix

/-- A call that neither sends nor drafts. -/
theorem nothing_sent {proc : Proc} (unsent : sending proc = none) (undrafted : drafting proc = none) :
    (∀ offset chunk, sending proc = some (owner, uploadID, offset, chunk) → chunk <+: file.drop offset) ∧
      ∀ id row, drafting proc = some (id, row) → Registered env owner uploadID file id row := by
  constructor
  · intro offset chunk sends
    rw [unsent] at sends
    cases sends
  · intro id row drafts
    rw [undrafted] at drafts
    cases drafts

/-- What a call sends or drafts when it arrives is what its request says. -/
theorem begin_sends {now : ℤ} {call : Call} {proc : Proc} (begun : begin_ env now call = .inl proc)
    (genuine : Genuine env.sha256 owner uploadID file (.arrive now call)) :
    (∀ offset chunk, sending proc = some (owner, uploadID, offset, chunk) → chunk <+: file.drop offset) ∧
      ∀ id row, drafting proc = some (id, row) → Registered env owner uploadID file id row := by
  cases call with
  | create id installID expectedSHA256 mimeType totalBytes =>
    simp only [begin_] at begun
    split at begun
    · cases begun
    · rename_i passed
      cases begun
      simp only [Bool.or_eq_true, decide_eq_true_eq, not_or] at passed
      refine ⟨fun offset chunk sends => ?_, fun other row drafts => ?_⟩
      · cases sends
      · cases drafts
        refine ⟨Bool.eq_false_iff.mpr passed.1.1.1.1, ?_, fun same => ?_⟩
        · have most := passed.2
          change totalBytes.toNat ≤ env.limits.maxBytes
          omega
        · obtain ⟨owned, digest, type, length⟩ := genuine same
          refine ⟨owned, digest, type, ?_⟩
          change totalBytes.toNat = file.length
          rw [length, Int.toNat_natCast]
  | append installID id offset chunk =>
    simp only [begin_] at begun
    split at begun
    · cases begun
    · cases begun
      refine ⟨fun at_ piece sends => ?_, fun other row drafts => ?_⟩
      · cases sends
        exact genuine rfl rfl
      · cases drafts
  | complete installID id | cancel installID id =>
    simp only [begin_] at begun
    split at begun
    · cases begun
    · cases begun
      exact nothing_sent rfl rfl
  | recover | revokeSample =>
    cases begun
    exact nothing_sent rfl rfl
  | openLease named leaseID token =>
    cases named with
    | none =>
      cases begun
      exact nothing_sent rfl rfl
    | some installID =>
      simp only [begin_] at begun
      split at begun
      · cases begun
      · cases begun
        exact nothing_sent rfl rfl

/-- No more is staged of an open upload than the file has. -/
theorem bounded_turn (faithful : Faithful env owner uploadID file history) {index : ℕ} {turn : Turn} {proc : Proc}
    (running : history.state.procs[index]? = some proc) {w : Upload} {bytes : Bytes}
    (row : (turnOf env turn history.state.world proc).world.db.uploads.get? uploadID = some w)
    (open_ : w.state = .open)
    (staged : (turnOf env turn history.state.world proc).world.files uploadID = some ⟨bytes, true⟩) :
    bytes.length ≤ file.length := by
  have effect := (turnOf_turned env turn history.state.world proc).effect
  have safe := faithful.kept.1.each index proc running
  rcases row_after effect row with ⟨v, before, onward⟩ | ⟨creates, _, _⟩
  · have kept (same : (turnOf env turn history.state.world proc).world.files = history.state.world.files) :
        bytes.length ≤ file.length :=
      faithful.bounded v bytes before (onward.open_ open_) (same ▸ staged)
    have elsewhere {id : String} {other : StagedFile}
        (world' : (turnOf env turn history.state.world proc).world.files =
          history.state.world.files.write id other)
        (here : uploadID = id → other = ⟨bytes, true⟩ → bytes.length ≤ file.length) :
        bytes.length ≤ file.length := by
      rw [world'] at staged
      by_cases same : uploadID = id
      · rw [same, write_same] at staged
        exact here same (Option.some.inj staged)
      · rw [write_other same] at staged
        exact faithful.bounded v bytes before (onward.open_ open_) staged
    cases effect with
    | tables _ files => exact kept files
    | acknowledged _ _ _ files => exact kept files
    | recorded _ _ _ _ _ files => exact kept files
    | advanced _ _ _ _ _ files => exact kept files
    | sealed _ _ _ _ _ _ _ files => exact kept files
    | staged _ id row by_ _ world' =>
      refine elsewhere (congrArg World.files world') fun _ same => ?_
      cases same
      exact Nat.zero_le _
    | truncated _ id size old by_ _ held _ world' =>
      refine elsewhere (congrArg World.files world') fun here same => ?_
      cases same
      exact Nat.le_trans (List.length_take_le' _ _) (faithful.bounded v old before (onward.open_ open_) (here ▸ held))
    | written c old written by_ held atEnd _ part _ _ world' =>
      refine elsewhere (congrArg World.files world') fun here same => ?_
      cases same
      subst by_
      subst here
      have within := safe.within c rfl
      have total := (safe.behind (c.uploadID, c.upload) (List.mem_singleton_self _) v before).total
      have declared := ((faithful.rows _ v before).declared rfl).2.2.2
      dsimp only at total
      rw [List.length_append]
      omega
    | removed _ id old _ held world' =>
      refine elsewhere (congrArg World.files world') fun _ same => ?_
      cases same
  · subst creates
    have empty := safe.staged uploadID w rfl
    have files : (turnOf env turn history.state.world (.createRecord uploadID w)).world.files =
        history.state.world.files := by
      simp only [turnOf, createStep]
      split
      · rename_i ran
        rcases execute_cases ran with ⟨_, rfl⟩ | ⟨_, _, _, rfl⟩ <;> rfl
      · rename_i ran
        rcases execute_cases ran with ⟨_, rfl⟩ | ⟨_, _, _, rfl⟩ <;> rfl
    rw [files, empty] at staged
    cases staged
    exact Nat.zero_le _

/-- Every event keeps it, as long as the owner sends the file and no truncation is stale. -/
theorem faithful_step {event : Event}
    (allowed : (Fresh history.state event ∧ UploadCursor.Careful history event) ∧
      Genuine env.sha256 owner uploadID file event)
    (faithful : Faithful env owner uploadID file history) :
    Faithful env owner uploadID file (record env history event) := by
  have kept : UploadCursor.Kept (record env history event) := UploadCursor.kept_step allowed.1 faithful.kept
  cases event with
  | arrive now call =>
    simp only [record, step] at kept ⊢
    split
    · rename_i proc begun
      simp only [begun] at kept
      obtain ⟨pieces, drafts⟩ := begin_sends begun allowed.2
      refine ⟨kept, fun p member => ?_, fun p member => ?_, faithful.rows, faithful.named, ?_, faithful.bounded⟩
      · rcases List.mem_append.mp member with old | new
        · exact faithful.pieces p old
        · exact List.mem_singleton.mp new ▸ pieces
      · rcases List.mem_append.mp member with old | new
        · exact faithful.drafts p old
        · exact List.mem_singleton.mp new ▸ drafts
      · rw [Option.toList_none, List.append_nil]
        exact faithful.accepted
    · rename_i error begun
      simp only [begun] at kept
      refine ⟨kept, faithful.pieces, faithful.drafts, faithful.rows, faithful.named, ?_, faithful.bounded⟩
      rw [acceptedBytes_silent history.replies (by simp)]
      exact faithful.accepted
  | turn index turn =>
    simp only [record, step] at kept ⊢
    split
    · rename_i none_
      simp only [none_] at kept
      refine ⟨kept, faithful.pieces, faithful.drafts, faithful.rows, faithful.named, ?_, faithful.bounded⟩
      rw [Option.toList_none, List.append_nil]
      exact faithful.accepted
    · rename_i proc running
      simp only [running] at kept
      have member := List.mem_of_getElem? running
      refine ⟨kept, fun p held at_ chunk sends => ?_, fun p held id row drafts => ?_, fun id w row => ?_,
        fun id staged => ?_, fun w row open_ => accepted_turn faithful running row open_,
        fun w bytes row open_ => bounded_turn faithful running row open_⟩
      · rcases List.mem_or_eq_of_mem_set held with old | rfl
        · exact faithful.pieces p old at_ chunk sends
        · exact faithful.pieces proc member at_ chunk (sending_turn sends)
      · rcases List.mem_or_eq_of_mem_set held with old | rfl
        · exact faithful.drafts p old id row drafts
        · exact faithful.drafts proc member id row (drafting_turn drafts)
      · rcases (turnOf_statement proc).row row with ⟨v, before, same⟩ | creates
        · exact (faithful.rows id v before).later same
        · exact faithful.drafts proc member id w (by rw [creates, drafting])
      · rcases named_turn staged with before | valid
        · exact faithful.named id before
        · exact valid
  | crash =>
    simp only [record, step] at kept ⊢
    refine ⟨kept, fun _ member => absurd member List.not_mem_nil, fun _ member => absurd member List.not_mem_nil,
      faithful.rows, faithful.named, ?_, faithful.bounded⟩
    rw [Option.toList_none, List.append_nil]
    exact faithful.accepted

theorem faithful_initial : Faithful env owner uploadID file .initial :=
  ⟨UploadCursor.kept_initial, fun _ member => absurd member List.not_mem_nil,
    fun _ member => absurd member List.not_mem_nil, nofun, fun _ staged => absurd rfl staged, nofun, nofun⟩

end Run

end AnselmGateway.FaithfulUploads
