import Mathlib.Data.List.Induction
import AnselmGateway.UploadCursor

/-! The lifecycle of uploads, leases and staged files. Whatever the media store is
asked to do, in whatever order, each row moves along its lifecycle only; and over
every interleaving of calls a file is removed only once nobody can need it. -/
namespace AnselmGateway.MediaLifecycle
open Foundation MediaFiles MediaStore MediaStoreSemantics Media MediaSemantics MediaInvariants

/-! ## Lifecycles -/

/-- An upload appears open, leaves `open` once and for all, keeps what it declares,
never goes back in its cursor, and disappears only once aborted or expired. -/
def UploadMoves : Option Upload → Option Upload → Prop
  | none, none => True
  | none, some v => v.state = .open
  | some u, none => u.state = .aborted ∨ u.state = .expired
  | some u, some v => u.receivedBytes ≤ v.receivedBytes ∧ v.totalBytes = u.totalBytes ∧
      v.expectedSHA256 = u.expectedSHA256 ∧ (v.state = u.state ∨ u.state = .open)

/-- A lease appears active, goes on to expired and from there to deleted, keeps
what it promises, and stays on record. -/
def LeaseMoves : Option Lease → Option Lease → Prop
  | none, none => True
  | none, some m => m.state = .active
  | some _, none => False
  | some l, some m => m.uploadID = l.uploadID ∧ m.sha256 = l.sha256 ∧ m.sizeBytes = l.sizeBytes ∧
      (m.state = l.state ∨ (l.state = .active ∧ m.state = .expired) ∨
        (l.state = .expired ∧ m.state = .deleted))

structure Moves (before after : Database) : Prop where
  uploads : ∀ id, UploadMoves (before.uploads.get? id) (after.uploads.get? id)
  leases : ∀ id, LeaseMoves (before.leases.table.get? id) (after.leases.table.get? id)

/-- There is a lease for exactly the completed uploads, one for each, of the digest
the upload declared; and no cursor is past its total. -/
structure Exact (db : Database) : Prop where
  bounded : ∀ id v, db.uploads.get? id = some v → v.receivedBytes ≤ v.totalBytes
  leased : ∀ id v, db.uploads.get? id = some v → v.state = .completed →
    ∃ leaseID l, db.leases.table.get? leaseID = some l ∧ l.uploadID = id
  completed : ∀ leaseID l, db.leases.table.get? leaseID = some l →
    ∃ v, db.uploads.get? l.uploadID = some v ∧ v.state = .completed ∧ l.sha256 = v.expectedSHA256
  single : ∀ first second l m, db.leases.table.get? first = some l →
    db.leases.table.get? second = some m → l.uploadID = m.uploadID → first = second

theorem UploadMoves.refl (row : Option Upload) : UploadMoves row row := by
  cases row with
  | none => trivial
  | some u => exact ⟨Nat.le_refl _, rfl, rfl, .inl rfl⟩

theorem LeaseMoves.refl (row : Option Lease) : LeaseMoves row row := by
  cases row with
  | none => trivial
  | some l => exact ⟨rfl, rfl, rfl, .inl rfl⟩

/-! ## What any operation does -/

/-- The five ways the tables change. -/
inductive Change (before after : Database) : Prop
  | steady (uploads : ∀ id, Steady (before.uploads.get? id) (after.uploads.get? id))
      (leases : ∀ id, Retired (before.leases.table.get? id) (after.leases.table.get? id))
  | acknowledged (uploadID : String) (acknowledged : Acknowledged uploadID before after)
  | recorded (uploadID : String) (row : Upload) (open_ : row.state = .open)
      (fresh : before.uploads.get? uploadID = none) (leases : after.leases = before.leases)
      (uploads : ∀ id, after.uploads.get? id =
        if id = uploadID then some row else before.uploads.get? id)
  | advanced (uploadID : String) (v w : Upload) (held : before.uploads.get? uploadID = some v)
      (open_ : v.state = .open) (same : w.state = v.state ∧ w.totalBytes = v.totalBytes ∧
        w.expectedSHA256 = v.expectedSHA256) (forward : v.receivedBytes ≤ w.receivedBytes)
      (leases : after.leases = before.leases)
      (uploads : ∀ id, after.uploads.get? id =
        if id = uploadID then some w else before.uploads.get? id)
  | sealed (uploadID leaseID : String) (v w : Upload) (lease : Lease)
      (held : before.uploads.get? uploadID = some v) (open_ : v.state = .open)
      (completed : w.state = .completed) (same : w.receivedBytes = v.receivedBytes ∧
        w.totalBytes = v.totalBytes ∧ w.expectedSHA256 = v.expectedSHA256)
      (of : lease.uploadID = uploadID ∧ lease.sha256 = v.expectedSHA256 ∧ lease.state = .active)
      (fresh : before.leases.table.get? leaseID = none)
      (uploads : ∀ id, after.uploads.get? id =
        if id = uploadID then some w else before.uploads.get? id)
      (leases : ∀ id, after.leases.table.get? id =
        if id = leaseID then some lease else before.leases.table.get? id)

section Changes
variable {before after : Database}

theorem Change.refl (db : Database) : Change db db :=
  .steady (fun _ => Steady.refl _) fun _ => Retired.refl _

private theorem steady_moves {u v : Option Upload} (steady : Steady u v) : UploadMoves u v := by
  cases u with
  | none => cases steady; trivial
  | some u =>
    cases v with
    | none => cases steady
    | some v =>
      obtain ⟨received, total, digest, same | ⟨open_, _⟩⟩ := steady
      · exact ⟨Nat.le_of_eq received.symm, total, digest, .inl same⟩
      · exact ⟨Nat.le_of_eq received.symm, total, digest, .inr open_⟩

private theorem retired_moves {l m : Option Lease} (retired : Retired l m) : LeaseMoves l m := by
  cases l with
  | none => cases retired; trivial
  | some l =>
    cases m with
    | none => cases retired
    | some m =>
      obtain ⟨upload, sha, size, same | expired⟩ := retired
      · exact ⟨upload, sha, size, .inl same⟩
      · exact ⟨upload, sha, size, .inr (.inl expired)⟩

/-- Every change moves rows along their lifecycles only. -/
theorem Change.moves (change : Change before after) : Moves before after := by
  cases change with
  | steady uploads leases =>
    exact ⟨fun id => steady_moves (uploads id), fun id => retired_moves (leases id)⟩
  | acknowledged uploadID acknowledged =>
    refine ⟨fun id => ?_, fun id => ?_⟩
    · rcases acknowledged.uploads id with kept | ⟨_, gone, u, held, why⟩
      · rw [kept]
        exact UploadMoves.refl _
      · rw [gone, held]
        exact why
    · rcases acknowledged.leases id with kept |
        ⟨l, m, held, after, _, upload, sha, size, expired, deleted⟩
      · rw [kept]
        exact LeaseMoves.refl _
      · rw [held, after]
        exact ⟨upload, sha, size, .inr (.inr ⟨expired, deleted⟩)⟩
  | recorded uploadID row open_ fresh leases uploads =>
    refine ⟨fun id => ?_, fun id => leases ▸ LeaseMoves.refl _⟩
    rw [uploads]
    split
    · rename_i here
      rw [here, fresh]
      exact open_
    · exact UploadMoves.refl _
  | advanced uploadID v w held open_ same forward leases uploads =>
    refine ⟨fun id => ?_, fun id => leases ▸ LeaseMoves.refl _⟩
    rw [uploads]
    split
    · rename_i here
      rw [here, held]
      exact ⟨forward, same.2.1, same.2.2, .inl same.1⟩
    · exact UploadMoves.refl _
  | sealed uploadID leaseID v w lease held open_ completed same of fresh uploads leases =>
    refine ⟨fun id => ?_, fun id => ?_⟩
    · rw [uploads]
      split
      · rename_i here
        rw [here, held]
        exact ⟨Nat.le_of_eq same.1.symm, same.2.1, same.2.2, .inr open_⟩
      · exact UploadMoves.refl _
    · rw [leases]
      split
      · rename_i here
        rw [here, fresh]
        exact of.2.2
      · exact LeaseMoves.refl _

/-- The schema alone bounds every cursor and gives each upload at most one lease. -/
private theorem exact_of (leased : ∀ id v, after.uploads.get? id = some v → v.state = .completed →
      ∃ leaseID l, after.leases.table.get? leaseID = some l ∧ l.uploadID = id)
    (completed : ∀ leaseID l, after.leases.table.get? leaseID = some l →
      ∃ v, after.uploads.get? l.uploadID = some v ∧ v.state = .completed ∧
        l.sha256 = v.expectedSHA256) : Exact after where
  bounded id v row := by
    have checked := Table.checked_get? row
    simp only [mediaUploadsSchema, Upload.check, Bool.and_eq_true, decide_eq_true_eq] at checked
    exact checked.2
  leased := leased
  completed := completed
  single first second l m held also same := (lease_unique held also same).1

/-- A lease of a change that seals nothing was there before, with the same
promises. -/
private theorem lease_before {leaseID : String} {m : Lease}
    (leases : ∀ id, LeaseMoves (before.leases.table.get? id) (after.leases.table.get? id))
    (kept : before.leases.table.get? leaseID ≠ none)
    (held : after.leases.table.get? leaseID = some m) :
    ∃ l, before.leases.table.get? leaseID = some l ∧ m.uploadID = l.uploadID ∧ m.sha256 = l.sha256 := by
  have moves := leases leaseID
  rw [held] at moves
  cases prior : before.leases.table.get? leaseID with
  | none => exact absurd prior kept
  | some l =>
    rw [prior] at moves
    exact ⟨l, rfl, moves.1, moves.2.1⟩

private theorem lease_later {leaseID : String} {l : Lease}
    (leases : ∀ id, LeaseMoves (before.leases.table.get? id) (after.leases.table.get? id))
    (held : before.leases.table.get? leaseID = some l) :
    ∃ m, after.leases.table.get? leaseID = some m ∧ m.uploadID = l.uploadID := by
  have moves := leases leaseID
  rw [held] at moves
  cases later : after.leases.table.get? leaseID with
  | none => rw [later] at moves; cases moves
  | some m =>
    rw [later] at moves
    exact ⟨m, rfl, moves.1⟩

/-- A completed upload stays completed, of the same digest. -/
private theorem completed_stays {id : String} {v : Upload}
    (uploads : ∀ id, UploadMoves (before.uploads.get? id) (after.uploads.get? id))
    (held : before.uploads.get? id = some v) (completed : v.state = .completed) :
    ∃ w, after.uploads.get? id = some w ∧ w.state = .completed ∧
      w.expectedSHA256 = v.expectedSHA256 := by
  have moves := uploads id
  rw [held] at moves
  cases later : after.uploads.get? id with
  | none =>
    rw [later] at moves
    rcases moves with aborted | expired
    · rw [completed] at aborted
      cases aborted
    · rw [completed] at expired
      cases expired
  | some w =>
    rw [later] at moves
    obtain ⟨_, _, digest, same | open_⟩ := moves
    · exact ⟨w, rfl, same.trans completed, digest⟩
    · rw [completed] at open_
      cases open_

/-- A change that completes no upload and adds no lease keeps the tables exact. -/
private theorem exact_unsealed (exact_ : Exact before) (moves : Moves before after)
    (unsealed : ∀ id w, after.uploads.get? id = some w → w.state = .completed →
      ∃ v, before.uploads.get? id = some v ∧ v.state = .completed)
    (unadded : ∀ id, before.leases.table.get? id = none → after.leases.table.get? id = none) :
    Exact after := by
  refine exact_of (fun id w row completed => ?_) fun leaseID m held => ?_
  · obtain ⟨v, before_, completed⟩ := unsealed id w row completed
    obtain ⟨leaseID, l, lease, upload⟩ := exact_.leased id v before_ completed
    obtain ⟨m, later, same⟩ := lease_later moves.leases lease
    exact ⟨leaseID, m, later, same.trans upload⟩
  · have kept : before.leases.table.get? leaseID ≠ none := fun none_ => by
      rw [unadded leaseID none_] at held
      cases held
    obtain ⟨l, lease, upload, sha⟩ := lease_before moves.leases kept held
    obtain ⟨v, row, completed, digest⟩ := exact_.completed leaseID l lease
    obtain ⟨w, later, completed, same⟩ := completed_stays moves.uploads row completed
    exact ⟨w, upload ▸ later, completed, sha.trans (digest.trans same.symm)⟩

/-- Every change keeps the tables exact. -/
theorem Change.exact_ (change : Change before after) (exact_ : Exact before) : Exact after := by
  have moves := change.moves
  cases change with
  | steady uploads leases =>
    refine exact_unsealed exact_ moves (fun id w row completed => ?_) fun id none_ => ?_
    · have steady := uploads id
      rw [row] at steady
      cases held : before.uploads.get? id with
      | none => rw [held] at steady; cases steady
      | some v =>
        rw [held] at steady
        obtain ⟨_, _, _, same | ⟨_, aborted | expired⟩⟩ := steady
        · exact ⟨v, rfl, same.symm.trans completed⟩
        · rw [completed] at aborted
          cases aborted
        · rw [completed] at expired
          cases expired
    · have retired := leases id
      rw [none_] at retired
      exact retired
  | acknowledged uploadID acknowledged =>
    refine exact_unsealed exact_ moves (fun id w row completed => ?_) fun id none_ => ?_
    · rcases acknowledged.uploads id with kept | ⟨_, gone, _⟩
      · exact ⟨w, kept.symm.trans row, completed⟩
      · rw [gone] at row
        cases row
    · rcases acknowledged.leases id with kept | ⟨l, m, held, _⟩
      · exact kept.trans none_
      · rw [none_] at held
        cases held
  | recorded uploadID row open_ fresh leases uploads =>
    refine exact_unsealed exact_ moves (fun id w held completed => ?_) fun id none_ => leases ▸ none_
    rw [uploads] at held
    split at held
    · cases held
      rw [open_] at completed
      cases completed
    · exact ⟨w, held, completed⟩
  | advanced uploadID v w held open_ same forward leases uploads =>
    refine exact_unsealed exact_ moves (fun id w' row completed => ?_) fun id none_ => leases ▸ none_
    rw [uploads] at row
    split at row
    · cases row
      rw [same.1, open_] at completed
      cases completed
    · exact ⟨w', row, completed⟩
  | sealed uploadID leaseID v w lease held open_ completed same of fresh uploads leases =>
    refine exact_of (fun id u row closed => ?_) fun other m present => ?_
    · rw [uploads] at row
      split at row
      · rename_i here
        refine ⟨leaseID, lease, ?_, of.1.trans here.symm⟩
        rw [leases, if_pos rfl]
      · obtain ⟨other, l, prior, upload⟩ := exact_.leased id u row closed
        obtain ⟨m, later, same⟩ := lease_later moves.leases prior
        exact ⟨other, m, later, same.trans upload⟩
    · rw [leases] at present
      split at present
      · cases present
        refine ⟨w, ?_, completed, of.2.1.trans same.2.2.symm⟩
        rw [uploads, if_pos of.1]
      · obtain ⟨u, row, closed, digest⟩ := exact_.completed other m present
        obtain ⟨w', later, closed, same⟩ := completed_stays moves.uploads row closed
        exact ⟨w', later, closed, digest.trans same.symm⟩

end Changes

/-! ## Operations of the store in any order -/

/-- The operations of the media store that write. -/
inductive Operation where
  | createUpload (id : String) (upload : Upload)
  | advanceReceived (installID uploadID : String) (expectedReceived nextReceived : ℕ) (now : ℤ)
  | abortOpen (installID uploadID : String) (now : ℤ)
  | completeUpload (installID uploadID actualSHA256 : String) (now : ℤ) (leaseID : String)
      (lease : Lease)
  | expire (now : ℤ)
  | expireOpen (uploadID : String) (now : ℤ)
  | revokeLease (installID leaseID : String)
  | acknowledgeRemoved (uploadID : String) (now : ℤ)

def perform (db : Database) : Operation → Except Refusal Database
  | .createUpload id upload => createUpload id upload db
  | .advanceReceived installID uploadID expectedReceived nextReceived now =>
    (advanceReceived installID uploadID expectedReceived nextReceived now db).map Prod.snd
  | .abortOpen installID uploadID now => (abortOpen installID uploadID now db).map Prod.snd
  | .completeUpload installID uploadID actualSHA256 now leaseID lease =>
    (completeUpload installID uploadID actualSHA256 now leaseID lease db).map Prod.snd
  | .expire now => expire now db
  | .expireOpen uploadID now => expireOpen uploadID now db
  | .revokeLease installID leaseID => (revokeLease installID leaseID db).map Prod.snd
  | .acknowledgeRemoved uploadID now => acknowledgeRemoved uploadID now db

/-- An operation that fails is rolled back. -/
def operate (db : Database) (operation : Operation) : Database :=
  match perform db operation with
  | .ok after => after
  | .error _ => db

/-- An upload is created open, as `Create` does. -/
def Opens : Operation → Prop
  | .createUpload _ upload => upload.state = .open
  | _ => True

private theorem map_snd_ok {α : Type} {ran : Except Refusal (α × Database)} {after : Database}
    (mapped : ran.map Prod.snd = .ok after) : ∃ answer, ran = .ok (answer, after) := by
  cases ran with
  | error refusal => cases mapped
  | ok result =>
    cases mapped
    exact ⟨result.1, rfl⟩

theorem operate_change (db : Database) (operation : Operation) (opens : Opens operation) :
    Change db (operate db operation) := by
  unfold operate
  split
  · rename_i after performed
    cases operation with
    | createUpload id upload =>
      obtain ⟨fresh, leases, uploads⟩ := createUpload_ok performed
      exact .recorded id upload opens fresh leases uploads
    | advanceReceived installID uploadID expectedReceived nextReceived now =>
      obtain ⟨advanced, ran⟩ := map_snd_ok performed
      obtain ⟨leases, others, lost, won⟩ := advanceReceived_ok ran
      cases advanced with
      | false =>
        refine .steady (fun id => ?_) fun id => leases ▸ Retired.refl _
        by_cases same : id = uploadID
        · rw [same, lost rfl]
          exact Steady.refl _
        · rw [others id same]
          exact Steady.refl _
      | true =>
        obtain ⟨v, forward, held, open_, expected, own⟩ := won rfl
        refine .advanced uploadID v { v with receivedBytes := nextReceived, updatedAt := now } held
          open_ ⟨rfl, rfl, rfl⟩ (Nat.le_trans (Nat.le_of_eq expected) forward) leases fun id => ?_
        split
        · rename_i here
          rw [here, own]
        · rename_i apart
          exact others id apart
    | abortOpen installID uploadID now =>
      obtain ⟨_, ran⟩ := map_snd_ok performed
      obtain ⟨uploads, leases, _⟩ := abortOpen_ok ran
      exact .steady uploads fun id => leases ▸ Retired.refl _
    | completeUpload installID uploadID actualSHA256 now leaseID lease =>
      obtain ⟨completed, ran⟩ := map_snd_ok performed
      obtain ⟨lost, won⟩ := completeUpload_ok ran
      cases completed with
      | false =>
        obtain ⟨uploads, leases⟩ := lost rfl
        exact .steady (fun id => uploads id ▸ Steady.refl _) fun id => leases ▸ Retired.refl _
      | true =>
        obtain ⟨v, held, open_, _, digest, uploads, fresh, leases⟩ := won rfl
        exact .sealed uploadID leaseID v
          { v with state := .completed, completedAt := some now, updatedAt := now } _ held open_ rfl
          ⟨rfl, rfl, rfl⟩ ⟨rfl, digest.symm, rfl⟩ fresh uploads leases
    | expire now =>
      obtain ⟨uploads, leases⟩ := expire_ok performed
      exact .steady uploads leases
    | expireOpen uploadID now =>
      obtain ⟨uploads, leases⟩ := expireOpen_ok performed
      exact .steady uploads fun id => leases ▸ Retired.refl _
    | revokeLease installID leaseID =>
      obtain ⟨_, ran⟩ := map_snd_ok performed
      obtain ⟨uploads, leases⟩ := revokeLease_ok ran
      exact .steady (fun id => uploads ▸ Steady.refl _) leases
    | acknowledgeRemoved uploadID now =>
      exact .acknowledged uploadID (acknowledgeRemoved_ok performed)
  · exact .refl db

theorem exact_empty : Exact .empty := by
  constructor
  · intro id v held
    cases held
  · intro id v held
    cases held
  · intro leaseID l held
    cases held
  · intro first second l m held
    cases held

/-- After any sequence of operations the tables are exact. -/
theorem exact_operations (operations : List Operation) (opens : ∀ o ∈ operations, Opens o) :
    Exact (runSteps operate .empty operations) :=
  runSteps_invariant_of (fun db operation => fun opens exact_ =>
    (operate_change db operation opens).exact_ exact_) exact_empty opens

/-! ## Calls in flight -/

section Turn
variable {env : Environment} {turn : Turn} {world : World} {proc : Proc} {r : Result}

/-- What a turn of a call does to the tables is one of the same changes. -/
theorem turn_change (effect : Effect turn world proc r) (safe : Safe world proc) :
    Change world.db r.world.db := by
  cases effect with
  | tables _ _ uploads leases => exact .steady uploads leases
  | acknowledged _ uploadID _ _ acknowledged => exact .acknowledged uploadID acknowledged
  | staged _ _ _ _ _ world' => rw [world']; exact .refl _
  | recorded _ uploadID row by_ _ _ leases fresh uploads =>
    exact .recorded uploadID row (safe.blank uploadID row (.inr by_)).2 fresh leases uploads
  | truncated _ _ _ _ _ _ _ _ world' => rw [world']; exact .refl _
  | written _ _ _ _ _ _ _ _ _ _ world' => rw [world']; exact .refl _
  | advanced c v _ _ _ _ leases held open_ expected uploads =>
    exact .advanced c.uploadID v
      { v with receivedBytes := c.upload.receivedBytes + c.chunk.length, updatedAt := turn.now } held
      open_ ⟨rfl, rfl, rfl⟩ (Nat.le_trans (Nat.le_of_eq expected) (Nat.le_add_right _ _)) leases uploads
  | sealed _ c sha size v lease _ _ held open_ digest uploads of fresh leases =>
    exact .sealed c.uploadID turn.leaseID v
      { v with state := .completed, completedAt := some turn.now, updatedAt := turn.now } lease held
      open_ rfl ⟨rfl, rfl, rfl⟩ ⟨of.1, of.2.1.trans digest.symm, of.2.2.2⟩ fresh uploads leases
  | removed _ _ _ _ _ world' => rw [world']; exact .refl _

/-- A file whose path is gone for good. -/
def Dead (files : Files) (id : String) : Prop := ∃ bytes, files id = some ⟨bytes, false⟩

theorem file_stays (effect : Effect turn world proc r) {id : String} (staged : world.files id ≠ none) :
    r.world.files id ≠ none := by
  have written (uploadID : String) (file : StagedFile) : world.files.write uploadID file id ≠ none := by
    unfold Files.write
    split
    · simp
    · exact staged
  cases effect with
  | tables _ files _ _ => rw [files]; exact staged
  | acknowledged _ _ _ files _ => rw [files]; exact staged
  | staged _ _ _ _ _ world' => rw [world']; exact written _ _
  | recorded _ _ _ _ _ files _ _ _ => rw [files]; exact staged
  | truncated _ _ _ _ _ _ _ _ world' => rw [world']; exact written _ _
  | written _ _ _ _ _ _ _ _ _ _ world' => rw [world']; exact written _ _
  | advanced _ _ _ _ _ files _ _ _ _ _ => rw [files]; exact staged
  | sealed _ _ _ _ _ _ _ files _ _ _ _ _ _ _ => rw [files]; exact staged
  | removed _ _ _ _ _ world' => rw [world']; exact written _ _

/-- Only a new file is written where no path leads. -/
theorem dead_stays (effect : Effect turn world proc r) (safe : Safe world proc) {id : String}
    (dead : Dead world.files id) : Dead r.world.files id := by
  obtain ⟨bytes, gone⟩ := dead
  have other {uploadID : String} {file : StagedFile} (apart : id ≠ uploadID) :
      Dead (world.files.write uploadID file) id := ⟨bytes, (write_other apart file).trans gone⟩
  have linked {uploadID : String} {content : Bytes}
      (held : world.files uploadID = some ⟨content, true⟩) : id ≠ uploadID := by
    rintro rfl
    rw [gone] at held
    cases held
  cases effect with
  | tables _ files _ _ => rw [files]; exact ⟨bytes, gone⟩
  | acknowledged _ _ _ files _ => rw [files]; exact ⟨bytes, gone⟩
  | staged _ uploadID row by_ _ world' =>
    rw [world']
    refine other ?_
    rintro rfl
    rw [safe.unstaged id row by_] at gone
    cases gone
  | recorded _ _ _ _ _ files _ _ _ => rw [files]; exact ⟨bytes, gone⟩
  | truncated _ _ _ _ _ _ held _ world' => rw [world']; exact other (linked held)
  | written _ _ _ _ held _ _ _ _ _ world' => rw [world']; exact other (linked held)
  | advanced _ _ _ _ _ files _ _ _ _ _ => rw [files]; exact ⟨bytes, gone⟩
  | sealed _ _ _ _ _ _ _ files _ _ _ _ _ _ _ => rw [files]; exact ⟨bytes, gone⟩
  | removed _ _ _ _ held world' => rw [world']; exact other (linked held)

/-- A row disappears only in the call that acknowledges its file as gone. -/
theorem row_stays (effect : Effect turn world proc r) {id : String}
    (recorded : world.db.uploads.get? id ≠ none) :
    r.world.db.uploads.get? id ≠ none ∨ acknowledging proc = some id := by
  cases effect with
  | tables _ _ uploads _ =>
    refine .inl fun gone => recorded ?_
    have steady := uploads id
    rw [gone] at steady
    cases held : world.db.uploads.get? id with
    | none => rfl
    | some v => rw [held] at steady; cases steady
  | acknowledged _ uploadID by_ _ acknowledged =>
    rcases acknowledged.uploads id with kept | ⟨here, _⟩
    · exact .inl (kept ▸ recorded)
    · exact .inr (here ▸ by_)
  | staged _ _ _ _ _ world' => rw [world']; exact .inl recorded
  | recorded _ _ _ _ _ _ _ _ uploads =>
    refine .inl ?_
    rw [uploads]
    split
    · simp
    · exact recorded
  | truncated _ _ _ _ _ _ _ _ world' => rw [world']; exact .inl recorded
  | written _ _ _ _ _ _ _ _ _ _ world' => rw [world']; exact .inl recorded
  | advanced _ _ _ _ _ _ _ _ _ _ uploads =>
    refine .inl ?_
    rw [uploads]
    split
    · simp
    · exact recorded
  | sealed _ _ _ _ _ _ _ _ _ _ _ uploads _ _ _ =>
    refine .inl ?_
    rw [uploads]
    split
    · simp
    · exact recorded
  | removed _ _ _ _ _ world' => rw [world']; exact .inl recorded

/-- A lease turns deleted only in that call too. -/
theorem lease_deleted (effect : Effect turn world proc r) {leaseID : String} {m : Lease}
    (after : r.world.db.leases.table.get? leaseID = some m) (deleted : m.state = .deleted) :
    (∃ l, world.db.leases.table.get? leaseID = some l ∧ l.state = .deleted ∧
      l.uploadID = m.uploadID) ∨ acknowledging proc = some m.uploadID := by
  have same (kept : world.db.leases.table.get? leaseID = some m) :
      ∃ l, world.db.leases.table.get? leaseID = some l ∧ l.state = .deleted ∧
        l.uploadID = m.uploadID := ⟨m, kept, deleted, rfl⟩
  cases effect with
  | tables _ _ _ leases =>
    have retired := leases leaseID
    rw [after] at retired
    cases held : world.db.leases.table.get? leaseID with
    | none => rw [held] at retired; cases retired
    | some l =>
      rw [held] at retired
      obtain ⟨upload, _, _, state | ⟨_, expired⟩⟩ := retired
      · exact .inl ⟨l, rfl, state.symm.trans deleted, upload.symm⟩
      · rw [deleted] at expired
        cases expired
  | acknowledged _ uploadID by_ _ acknowledged =>
    rcases acknowledged.leases leaseID with kept | ⟨l, m', held, after', here, upload, _⟩
    · exact .inl (same (kept ▸ after))
    · rw [after] at after'
      cases after'
      exact .inr (by rw [by_, upload, here])
  | staged _ _ _ _ _ world' => rw [world'] at after; exact .inl (same after)
  | recorded _ _ _ _ _ _ leases => exact .inl (same (leases ▸ after))
  | truncated _ _ _ _ _ _ _ _ world' => rw [world'] at after; exact .inl (same after)
  | written _ _ _ _ _ _ _ _ _ _ world' => rw [world'] at after; exact .inl (same after)
  | advanced _ _ _ _ _ _ leases => exact .inl (same (leases ▸ after))
  | sealed _ _ _ _ _ _ _ _ _ _ _ _ of _ leases =>
    rw [leases] at after
    split at after
    · cases after
      rw [of.2.2.2] at deleted
      cases deleted
    · exact .inl (same after)
  | removed _ _ _ _ _ world' => rw [world'] at after; exact .inl (same after)

/-! ## Files and their removal -/

/-- Every recorded upload has had a file, and a lease is deleted only after it. -/
structure Filed (world : World) : Prop where
  staged : ∀ id v, world.db.uploads.get? id = some v → world.files id ≠ none
  deleted : ∀ leaseID l, world.db.leases.table.get? leaseID = some l → l.state = .deleted →
    Dead world.files l.uploadID

/-- What a call is about to remove still has its row, or is gone already; what it is
about to acknowledge is gone. -/
structure Removing (world : World) (proc : Proc) : Prop where
  listed : ∀ id ∈ removals proc, world.files id ≠ none ∧
    (world.db.uploads.get? id ≠ none ∨ Dead world.files id)
  acknowledged : ∀ id, acknowledging proc = some id → Dead world.files id

def Clearing (state : State) : Prop :=
  Stable Filed Removing (fun _ _ _ => True) state.world state.procs

private theorem listed_after (effect : Effect turn world proc r) (safe : Safe world proc)
    (removing : Removing world proc) {id : String} (before : world.files id ≠ none ∧
      (world.db.uploads.get? id ≠ none ∨ Dead world.files id)) :
    r.world.files id ≠ none ∧ (r.world.db.uploads.get? id ≠ none ∨ Dead r.world.files id) := by
  refine ⟨file_stays effect before.1, ?_⟩
  rcases before.2 with recorded | dead
  · rcases row_stays effect recorded with stays | acknowledges
    · exact .inl stays
    · exact .inr (dead_stays effect safe (removing.acknowledged id acknowledges))
  · exact .inr (dead_stays effect safe dead)

private theorem filed_after (effect : Effect turn world proc r) (safe : Safe world proc)
    (removing : Removing world proc) (filed : Filed world) : Filed r.world where
  staged id w row := by
    refine file_stays effect ?_
    rcases row_after effect row with ⟨v, held, _⟩ | ⟨rfl, _⟩
    · exact filed.staged id v held
    · rw [safe.staged id w rfl]
      simp
  deleted leaseID m lease deleted := by
    rcases lease_deleted effect lease deleted with ⟨l, held, before, upload⟩ | acknowledges
    · exact upload ▸ dead_stays effect safe (filed.deleted leaseID l held before)
    · exact dead_stays effect safe (removing.acknowledged m.uploadID acknowledges)

private theorem removing_own (turned : Turned env turn world proc r) (safe : Safe world proc)
    (removing : Removing world proc) (filed : Filed r.world) : Removing r.world r.proc where
  listed id member := by
    rcases turned.spent id member with kept | ⟨w, row, _⟩
    · exact listed_after turned.effect safe removing (removing.listed id kept)
    · exact ⟨filed.staged id w row, .inl (by rw [row]; simp)⟩
  acknowledged id acknowledges := by
    obtain ⟨listed, unlinked⟩ := turned.acked id acknowledges
    have staged := file_stays turned.effect (removing.listed id listed).1
    cases held : r.world.files id with
    | none => exact absurd held staged
    | some file =>
      rcases file with ⟨bytes, _ | _⟩
      · exact ⟨bytes, held⟩
      · exact absurd held (unlinked bytes)

theorem clearing_turn {state : State} {index : ℕ} (sound : Sound state) (clearing : Clearing state)
    (running : state.procs[index]? = some proc) (turned : Turned env turn state.world proc r) :
    Clearing ⟨r.world, state.procs.set index r.proc⟩ := by
  have safe := sound.each index proc running
  have removing := clearing.each index proc running
  have filed := filed_after turned.effect safe removing clearing.shared
  refine Stable.turn clearing running filed (removing_own turned safe removing filed)
    (fun j q _ _ other _ _ => ⟨⟨fun id member => ?_, fun id acknowledges => ?_⟩, trivial, trivial⟩)
    fun _ _ _ _ _ => trivial
  · exact listed_after turned.effect safe removing (other.listed id member)
  · exact dead_stays turned.effect safe (other.acknowledged id acknowledges)

end Turn
theorem clearing_step {env : Environment} {state : State} {event : Event} (sound : Sound state)
    (clearing : Clearing state) : Clearing (step env state event).2 := by
  cases event with
  | arrive now call =>
    simp only [step]
    split
    · rename_i proc begun
      obtain ⟨_, unlisted, _, _, _, _, unacknowledged, _⟩ := begin_starts begun
      refine Stable.arrive clearing ⟨?_, ?_⟩ fun _ _ _ => ⟨trivial, trivial⟩
      · rw [unlisted]
        exact fun _ member => absurd member List.not_mem_nil
      · simp [unacknowledged]
    · exact clearing
  | turn index turn =>
    simp only [step]
    split
    · exact clearing
    · rename_i proc running
      exact clearing_turn sound clearing running (turnOf_turned env turn state.world proc)
  | crash => exact Stable.idle clearing.shared

/-- The upload has had a row at some moment of the run. -/
def EverRecorded (env : Environment) (events : List Event) (id : String) : Prop :=
  ∃ before, before <+: events ∧ (after env before).state.world.db.uploads.get? id ≠ none

/-- What a run keeps: sound calls that remove only what may go, and an upload that
has had no file or is being created has never had a row. -/
structure Kept (env : Environment) (events : List Event) : Prop where
  sound : Sound (after env events).state
  clearing : Clearing (after env events).state
  exact_ : Exact (after env events).state.world.db
  unfiled : ∀ id, (after env events).state.world.files id = none → ¬EverRecorded env events id
  creating : ∀ p ∈ (after env events).state.procs, ∀ id, creating p = some id →
    ¬EverRecorded env events id

private theorem after_snoc (env : Environment) (events : List Event) (event : Event) :
    after env (events ++ [event]) = record env (after env events) event :=
  runSteps_append [event]

private theorem everRecorded_snoc {env : Environment} {events : List Event} {event : Event}
    {id : String} (recorded : EverRecorded env (events ++ [event]) id) :
    EverRecorded env events id ∨
      (after env (events ++ [event])).state.world.db.uploads.get? id ≠ none := by
  obtain ⟨before, within, row⟩ := recorded
  rcases List.prefix_concat_iff.mp within with rfl | earlier
  · exact .inr row
  · exact .inl ⟨before, earlier, row⟩

/-- One more event: an upload with no file, or still being created, has no row
after it, and had a file before it no more than now. -/
private theorem step_unrecorded (env : Environment) (state : State) (event : Event) :
    (∀ id, (step env state event).2.world.files id = none → state.world.files id = none) ∧
      ∀ p ∈ (step env state event).2.procs, ∀ id, creating p = some id →
        (∃ q ∈ state.procs, creating q = some id) ∨ ∃ now call,
          event = .arrive now call ∧ begin_ env now call = .inl p := by
  cases event with
  | arrive now call =>
    simp only [step]
    split
    · rename_i proc begun
      refine ⟨fun id free => free, fun p member id created => ?_⟩
      rcases List.mem_append.mp member with old | new
      · exact .inl ⟨p, old, created⟩
      · rw [List.mem_singleton.mp new]
        exact .inr ⟨now, call, rfl, begun⟩
    · exact ⟨fun id free => free, fun p member id created => .inl ⟨p, member, created⟩⟩
  | turn index turn =>
    simp only [step]
    split
    · exact ⟨fun id free => free, fun p member id created => .inl ⟨p, member, created⟩⟩
    · rename_i proc running
      have turned := turnOf_turned env turn state.world proc
      refine ⟨fun id free => ?_, fun p member id created => ?_⟩
      · by_contra staged
        exact file_stays turned.effect staged free
      · rcases List.mem_or_eq_of_mem_set member with old | rfl
        · exact .inl ⟨p, old, created⟩
        · exact .inl ⟨proc, List.mem_of_getElem? running, turned.draft id created⟩
  | crash =>
    simp only [step]
    exact ⟨fun id free => free, fun p member => absurd member List.not_mem_nil⟩

theorem step_change {env : Environment} {state : State} {event : Event} (sound : Sound state) :
    Change state.world.db (step env state event).2.world.db := by
  cases event with
  | arrive now call =>
    simp only [step]
    split
    · exact .refl _
    · exact .refl _
  | turn index turn =>
    simp only [step]
    split
    · exact .refl _
    · rename_i proc running
      exact turn_change (turnOf_turned env turn state.world proc).effect (sound.each index proc running)
  | crash => exact .refl _

private theorem kept_snoc {env : Environment} {events : List Event} {event : Event}
    (fresh : Fresh (after env events).state event) (kept : Kept env events) :
    Kept env (events ++ [event]) := by
  have next := after_snoc env events event
  have sound : Sound (after env (events ++ [event])).state := next ▸ sound_step fresh kept.sound
  have clearing : Clearing (after env (events ++ [event])).state :=
    next ▸ clearing_step kept.sound kept.clearing
  obtain ⟨freed, created⟩ := step_unrecorded env (after env events).state event
  refine ⟨sound, clearing, ?_, fun id free recorded => ?_, fun p member id creates recorded => ?_⟩
  · rw [next]
    exact (step_change kept.sound).exact_ kept.exact_
  · rcases everRecorded_snoc recorded with earlier | row
    · exact kept.unfiled id (freed id (by rw [next] at free; exact free)) earlier
    · cases held : (after env (events ++ [event])).state.world.db.uploads.get? id with
      | none => exact row held
      | some v => exact clearing.shared.staged id v held free
  · obtain ⟨i, running⟩ := List.mem_iff_getElem?.mp member
    rcases everRecorded_snoc recorded with earlier | row
    · rcases created p (by rw [next] at member; exact member) id creates with ⟨q, held, also⟩ | ⟨now, call, rfl, begun⟩
      · exact kept.creating q held id also earlier
      · obtain ⟨_, _, _, _, _, _, _, unborn | ⟨uploadID, row, _, _, _, _, rfl, rfl, _⟩⟩ :=
          begin_starts begun
        · rw [unborn] at creates
          cases creates
        · cases creates
          exact kept.unfiled id fresh.2.1 earlier
    · exact row ((sound.each i p running).unrecorded id creates)

theorem kept_run {env : Environment} {events : List Event}
    (fresh : AllAlong (record env) (fun history event => Fresh history.state event) .initial events) :
    Kept env events := by
  induction events using List.reverseRecOn with
  | nil =>
    refine ⟨sound_initial, Stable.idle ⟨?_, ?_⟩, exact_empty, ?_, ?_⟩
    · intro id v held
      cases held
    · intro leaseID l held
      cases held
    · rintro id _ ⟨before, within, row⟩
      rw [List.prefix_nil.mp within] at row
      exact row rfl
    · intro proc member
      cases member
  | append_singleton events event ih =>
    obtain ⟨earlier, last, _⟩ := allAlong_append.mp fresh
    exact kept_snoc last (ih earlier)

/-- Why a staged file may go: its upload is aborted or expired, or was never
recorded, or its lease has expired; in no case is the upload open or a lease over
it active. -/
structure MayGo (env : Environment) (events : List Event) (id : String) (db : Database) : Prop where
  needless : Gone id db
  reason : (∃ v, db.uploads.get? id = some v ∧ (v.state = .aborted ∨ v.state = .expired ∨
      (v.state = .completed ∧ ∃ leaseID l, db.leases.table.get? leaseID = some l ∧
        l.uploadID = id ∧ l.state = .expired))) ∨ ¬EverRecorded env events id

/-- A turn that unlinks a file had a reason to. -/
private theorem removed_reason {env : Environment} {events : List Event} {event : Event}
    (kept : Kept env events) {id : String} {bytes : Bytes}
    (linked : (after env events).state.world.files id = some ⟨bytes, true⟩)
    (unlinked : ∀ bytes, (step env (after env events).state event).2.world.files id ≠
      some ⟨bytes, true⟩) : MayGo env events id (after env events).state.world.db := by
  have unchanged (same : (step env (after env events).state event).2.world.files =
      (after env events).state.world.files) : MayGo env events id (after env events).state.world.db :=
    absurd (same ▸ linked) (unlinked bytes)
  cases event with
  | arrive now call =>
    refine unchanged ?_
    simp only [step]
    split
    · rfl
    · rfl
  | crash => exact unchanged rfl
  | turn index turn =>
    simp only [step] at unlinked unchanged
    split at unlinked
    · exact absurd linked (unlinked bytes)
    · rename_i proc running
      have safe := kept.sound.each index proc running
      have turned := turnOf_turned env turn (after env events).state.world proc
      -- only a removal unlinks: every other file operation writes a file its path leads to
      have rewritten {uploadID : String} {content : Bytes}
          (world' : (turnOf env turn (after env events).state.world proc).world.files =
            (after env events).state.world.files.write uploadID ⟨content, true⟩) :
          MayGo env events id (after env events).state.world.db := by
        by_cases here : id = uploadID
        · exact absurd (by rw [world', here, write_same]) (unlinked content)
        · exact absurd (by rw [world', write_other here, linked]) (unlinked bytes)
      cases turned.effect with
      | tables _ files _ _ => exact absurd (by rw [files, linked]) (unlinked bytes)
      | acknowledged _ _ _ files _ => exact absurd (by rw [files, linked]) (unlinked bytes)
      | staged _ _ _ _ _ world' => exact rewritten (by rw [world'])
      | recorded _ _ _ _ _ files _ _ _ => exact absurd (by rw [files, linked]) (unlinked bytes)
      | truncated _ _ _ _ _ _ _ _ world' => exact rewritten (by rw [world'])
      | written _ _ _ _ _ _ _ _ _ _ world' => exact rewritten (by rw [world'])
      | advanced _ _ _ _ _ files _ _ _ _ _ => exact absurd (by rw [files, linked]) (unlinked bytes)
      | sealed _ _ _ _ _ _ _ files _ _ _ _ _ _ _ =>
        exact absurd (by rw [files, linked]) (unlinked bytes)
      | removed _ uploadID content by_ held world' =>
        by_cases here : id = uploadID
        · subst here
          rcases by_ with listed | rfl
          · have gone := safe.gone id listed
            refine ⟨gone, .inl ?_⟩
            rcases ((kept.clearing.each index proc running).listed id listed).2 with recorded | ⟨_, dead⟩
            · obtain ⟨v, row⟩ := Option.ne_none_iff_exists'.mp recorded
              refine ⟨v, row, ?_⟩
              cases state : v.state with
              | «open» => exact absurd state (gone.1 v row)
              | aborted => exact .inl rfl
              | expired => exact .inr (.inl rfl)
              | completed =>
                obtain ⟨leaseID, l, lease, upload⟩ := kept.exact_.leased id v row state
                refine .inr (.inr ⟨rfl, leaseID, l, lease, upload, ?_⟩)
                cases status : l.state with
                | active => exact absurd status (gone.2 leaseID l lease upload)
                | expired => rfl
                | deleted =>
                  obtain ⟨_, dead⟩ := kept.clearing.shared.deleted leaseID l lease status
                  rw [upload, linked] at dead
                  cases dead
            · rw [linked] at dead
              cases dead
          · have free := safe.unrecorded id rfl
            refine ⟨⟨fun v row => ?_, fun leaseID l lease upload _ => ?_⟩, .inr
              (kept.creating _ (List.mem_of_getElem? running) id rfl)⟩
            · rw [free] at row
              cases row
            · obtain ⟨v, row, _⟩ := kept.exact_.completed leaseID l lease
              rw [upload, free] at row
              cases row
        · exact absurd (by rw [world']; exact (write_other here _).trans linked) (unlinked bytes)

/-- **Uploads, leases and staged files keep to their lifecycles.** Any sequence of
store operations moves every row along its lifecycle and keeps one lease for each
completed upload; over every interleaving of calls this holds too, and a staged
file is removed only when nobody can need it. -/
theorem media_lifecycle :
    (∀ operations operation, (∀ o ∈ operations, Opens o) → Opens operation →
      Moves (runSteps operate .empty operations)
        (operate (runSteps operate .empty operations) operation) ∧
      Exact (runSteps operate .empty operations)) ∧
    ∀ env events event,
      AllAlong (record env) (fun history event => Fresh history.state event) .initial
        (events ++ [event]) →
      Moves (after env events).state.world.db (after env (events ++ [event])).state.world.db ∧
      Exact (after env events).state.world.db ∧
      ∀ id bytes, (after env events).state.world.files id = some ⟨bytes, true⟩ →
        (∀ bytes, (after env (events ++ [event])).state.world.files id ≠ some ⟨bytes, true⟩) →
        MayGo env events id (after env events).state.world.db := by
  refine ⟨fun operations operation opens also => ?_, fun env events event fresh => ?_⟩
  · exact ⟨(operate_change _ operation also).moves, exact_operations operations opens⟩
  · have kept := kept_run (allAlong_append.mp fresh).1
    rw [after_snoc]
    exact ⟨(step_change kept.sound).moves, kept.exact_, fun id bytes => removed_reason kept⟩

/-! ## A cancelled upload -/

/-- An upload is created and cancelled, up to the removal of its file. -/
def cancelled : List Event :=
  UploadCursor.creation ++ [.arrive 1 (.cancel "ins_1" UploadCursor.stagedID),
    UploadCursor.turnOfCall 1, UploadCursor.turnOfCall 1]

/-- Its file goes, for good reason. -/
theorem cancelled_file_may_go :
    MayGo UploadCursor.stagingEnvironment cancelled UploadCursor.stagedID
      (after UploadCursor.stagingEnvironment cancelled).state.world.db := by
  refine (media_lifecycle.2 UploadCursor.stagingEnvironment cancelled (UploadCursor.turnOfCall 1)
    ?_).2.2 UploadCursor.stagedID [] (by decide +kernel) fun bytes linked => ?_
  · exact allAlong_of_check (fun _ _ => fresh_of_check) (by decide +kernel)
  · have gone : (after UploadCursor.stagingEnvironment (cancelled ++
        [UploadCursor.turnOfCall 1])).state.world.files UploadCursor.stagedID = some ⟨[], false⟩ := by
      decide +kernel
    rw [gone] at linked
    cases linked

end AnselmGateway.MediaLifecycle
