import AnselmGateway.Foundation.Interleaving
import AnselmGateway.MediaSemantics

/-! What holds of the media tables, the staged files and the calls in flight under
every interleaving, whatever the truncations do: leases sit on completed uploads,
no call is ahead of a cursor, and no file still in use is about to be removed. -/
namespace AnselmGateway.MediaInvariants
open Foundation MediaFiles MediaStore MediaStoreSemantics Media MediaSemantics

/-! ## Rows and files after a turn -/

/-- What became of a row: its cursor has not gone back, and its state may have
left `open`. -/
structure Onward (v w : Upload) : Prop where
  received : v.receivedBytes ≤ w.receivedBytes
  total : w.totalBytes = v.totalBytes
  digest : w.expectedSHA256 = v.expectedSHA256
  state : w.state = v.state ∨ (v.state = .open ∧ w.state ≠ .open)

theorem Onward.refl (v : Upload) : Onward v v := ⟨Nat.le_refl _, rfl, rfl, .inl rfl⟩

theorem Onward.trans {u v w : Upload} (first : Onward u v) (second : Onward v w) : Onward u w where
  received := Nat.le_trans first.received second.received
  total := second.total.trans first.total
  digest := second.digest.trans first.digest
  state := by
    rcases second.state with same | ⟨open_, closed⟩
    · rw [same]
      exact first.state
    · rcases first.state with same | ⟨_, closed'⟩
      · exact .inr ⟨same ▸ open_, closed⟩
      · exact absurd open_ closed'

theorem Onward.open_ {v w : Upload} (onward : Onward v w) (open_ : w.state = .open) :
    v.state = .open := by
  rcases onward.state with same | ⟨_, closed⟩
  · exact same ▸ open_
  · exact absurd open_ closed

section Effects
variable {turn : Turn} {world : World} {proc : Proc} {r : Result} {id : String}

/-- A row after a turn was there before, or is the one the turn has recorded. -/
theorem row_after (effect : Effect turn world proc r) {w : Upload}
    (after : r.world.db.uploads.get? id = some w) :
    (∃ v, world.db.uploads.get? id = some v ∧ Onward v w) ∨
      (proc = .createRecord id w ∧ world.db.uploads.get? id = none ∧ r.proc = .done) := by
  have same (kept : world.db.uploads.get? id = some w) :
      (∃ v, world.db.uploads.get? id = some v ∧ Onward v w) ∨
        (proc = .createRecord id w ∧ world.db.uploads.get? id = none ∧ r.proc = .done) :=
    .inl ⟨w, kept, .refl w⟩
  cases effect with
  | tables _ _ uploads _ =>
    have steady := uploads id
    rw [after] at steady
    cases held : world.db.uploads.get? id with
    | none => rw [held] at steady; cases steady
    | some v =>
      rw [held] at steady
      obtain ⟨received, total, digest, state⟩ := steady
      refine .inl ⟨v, rfl, ⟨Nat.le_of_eq received.symm, total, digest, ?_⟩⟩
      rcases state with same | ⟨open_, aborted | expired⟩
      · exact .inl same
      · exact .inr ⟨open_, by simp [aborted]⟩
      · exact .inr ⟨open_, by simp [expired]⟩
  | acknowledged _ uploadID _ _ acknowledged =>
    rcases acknowledged.uploads id with kept | ⟨_, gone, _⟩
    · exact same (kept ▸ after)
    · rw [gone] at after
      cases after
  | staged _ _ _ _ _ world' => exact same (by rw [world'] at after; exact after)
  | recorded _ uploadID row by_ next _ _ fresh uploads =>
    rw [uploads] at after
    split at after
    · rename_i here
      cases after
      exact .inr ⟨here ▸ by_, here ▸ fresh, next⟩
    · exact same after
  | truncated _ _ _ _ _ _ _ _ world' => exact same (by rw [world'] at after; exact after)
  | written _ _ _ _ _ _ _ _ _ _ world' => exact same (by rw [world'] at after; exact after)
  | advanced c v _ _ _ _ _ held _ expected uploads =>
    rw [uploads] at after
    split at after
    · rename_i here
      cases after
      exact .inl ⟨v, here ▸ held, by simp only; omega, rfl, rfl, .inl rfl⟩
    · exact same after
  | sealed _ c sha size v lease _ _ held open_ _ uploads _ _ _ =>
    rw [uploads] at after
    split at after
    · rename_i here
      cases after
      exact .inl ⟨v, here ▸ held, Nat.le_refl _, rfl, rfl, .inr ⟨open_, by simp⟩⟩
    · exact same after
  | removed _ _ _ _ _ world' => exact same (by rw [world'] at after; exact after)

/-- A row goes only once it is aborted or expired. -/
theorem row_kept (effect : Effect turn world proc r) {v : Upload}
    (before : world.db.uploads.get? id = some v) :
    (∃ w, r.world.db.uploads.get? id = some w) ∨ v.state = .aborted ∨ v.state = .expired := by
  cases effect with
  | tables _ _ uploads _ =>
    have steady := uploads id
    rw [before] at steady
    cases after : r.world.db.uploads.get? id with
    | none => rw [after] at steady; cases steady
    | some w => exact .inl ⟨w, rfl⟩
  | acknowledged _ uploadID _ _ acknowledged =>
    rcases acknowledged.uploads id with kept | ⟨_, _, u, held, why⟩
    · exact .inl ⟨v, kept.trans before⟩
    · rw [before] at held
      cases held
      exact .inr why
  | staged _ _ _ _ _ world' => exact .inl ⟨v, by rw [world']; exact before⟩
  | recorded _ uploadID row _ _ _ _ fresh uploads =>
    refine .inl ?_
    rw [uploads]
    split
    · exact ⟨row, rfl⟩
    · exact ⟨v, before⟩
  | truncated _ _ _ _ _ _ _ _ world' => exact .inl ⟨v, by rw [world']; exact before⟩
  | written _ _ _ _ _ _ _ _ _ _ world' => exact .inl ⟨v, by rw [world']; exact before⟩
  | advanced c v _ _ _ _ _ _ _ _ uploads =>
    refine .inl ?_
    rw [uploads]
    split
    · exact ⟨_, rfl⟩
    · exact ⟨_, before⟩
  | sealed _ c sha size v lease _ _ _ _ _ uploads _ _ _ =>
    refine .inl ?_
    rw [uploads]
    split
    · exact ⟨_, rfl⟩
    · exact ⟨_, before⟩
  | removed _ _ _ _ _ world' => exact .inl ⟨v, by rw [world']; exact before⟩

/-- A lease after a turn was there before, in the same or an earlier state, or is
the one the turn has sealed. -/
theorem lease_after (effect : Effect turn world proc r) {leaseID : String} {m : Lease}
    (after : r.world.db.leases.table.get? leaseID = some m) :
    (∃ l, world.db.leases.table.get? leaseID = some l ∧ m.uploadID = l.uploadID ∧
      m.sha256 = l.sha256 ∧ m.sizeBytes = l.sizeBytes ∧ (m.state = .active → l.state = .active)) ∨
    ∃ c size v w, proc = .completeSeal c m.sha256 size ∧ world.db.uploads.get? m.uploadID = some v ∧
      v.state = .open ∧ v.expectedSHA256 = m.sha256 ∧ m.uploadID = c.uploadID ∧ m.sizeBytes = size ∧
      r.world.files = world.files ∧ r.world.db.uploads.get? m.uploadID = some w ∧
      w.state = .completed ∧ w.totalBytes = v.totalBytes ∧ w.expectedSHA256 = v.expectedSHA256 := by
  have same (kept : world.db.leases.table.get? leaseID = some m) :
      ∃ l, world.db.leases.table.get? leaseID = some l ∧ m.uploadID = l.uploadID ∧
        m.sha256 = l.sha256 ∧ m.sizeBytes = l.sizeBytes ∧ (m.state = .active → l.state = .active) :=
    ⟨m, kept, rfl, rfl, rfl, fun active => active⟩
  cases effect with
  | tables _ _ _ leases =>
    have retired := leases leaseID
    rw [after] at retired
    cases held : world.db.leases.table.get? leaseID with
    | none => rw [held] at retired; cases retired
    | some l =>
      rw [held] at retired
      obtain ⟨upload, sha, size, state⟩ := retired
      refine .inl ⟨l, rfl, upload, sha, size, fun active => ?_⟩
      rcases state with state | ⟨_, expired⟩
      · exact state ▸ active
      · rw [active] at expired
        cases expired
  | acknowledged _ uploadID _ _ acknowledged =>
    rcases acknowledged.leases leaseID with kept | ⟨l, m', held, after', _, upload, sha, size, _, deleted⟩
    · exact .inl (same (kept ▸ after))
    · rw [after] at after'
      cases after'
      refine .inl ⟨l, held, upload, sha, size, fun active => ?_⟩
      rw [active] at deleted
      cases deleted
  | staged _ _ _ _ _ world' => exact .inl (same (by rw [world'] at after; exact after))
  | recorded _ _ _ _ _ _ leases => exact .inl (same (leases ▸ after))
  | truncated _ _ _ _ _ _ _ _ world' => exact .inl (same (by rw [world'] at after; exact after))
  | written _ _ _ _ _ _ _ _ _ _ world' => exact .inl (same (by rw [world'] at after; exact after))
  | advanced _ _ _ _ _ _ leases => exact .inl (same (leases ▸ after))
  | sealed _ c sha size v lease by_ files held open_ digest uploads of fresh leases =>
    rw [leases] at after
    split at after
    · cases after
      obtain ⟨upload, rfl, rfl, _⟩ := of
      have sealed := uploads m.uploadID
      rw [if_pos upload] at sealed
      exact .inr ⟨c, _, v, _, by_, upload ▸ held, open_, digest, upload, rfl, files, sealed, rfl, rfl,
        rfl⟩
    · exact .inl (same after)
  | removed _ _ _ _ _ world' => exact .inl (same (by rw [world'] at after; exact after))

/-- A lease stays, whatever its state. -/
theorem lease_kept (effect : Effect turn world proc r) {leaseID : String} {l : Lease}
    (before : world.db.leases.table.get? leaseID = some l) :
    ∃ m, r.world.db.leases.table.get? leaseID = some m ∧ m.uploadID = l.uploadID ∧
      m.sha256 = l.sha256 ∧ m.sizeBytes = l.sizeBytes := by
  cases effect with
  | tables _ _ _ leases =>
    have retired := leases leaseID
    rw [before] at retired
    cases after : r.world.db.leases.table.get? leaseID with
    | none => rw [after] at retired; cases retired
    | some m =>
      rw [after] at retired
      exact ⟨m, rfl, retired.1, retired.2.1, retired.2.2.1⟩
  | acknowledged _ uploadID _ _ acknowledged =>
    rcases acknowledged.leases leaseID with kept | ⟨l', m, held, after, _, upload, sha, size, _⟩
    · exact ⟨l, kept.trans before, rfl, rfl, rfl⟩
    · rw [before] at held
      cases held
      exact ⟨m, after, upload, sha, size⟩
  | staged _ _ _ _ _ world' => exact ⟨l, by rw [world']; exact before, rfl, rfl, rfl⟩
  | recorded _ _ _ _ _ _ leases => exact ⟨l, by rw [leases]; exact before, rfl, rfl, rfl⟩
  | truncated _ _ _ _ _ _ _ _ world' => exact ⟨l, by rw [world']; exact before, rfl, rfl, rfl⟩
  | written _ _ _ _ _ _ _ _ _ _ world' => exact ⟨l, by rw [world']; exact before, rfl, rfl, rfl⟩
  | advanced _ _ _ _ _ _ leases => exact ⟨l, by rw [leases]; exact before, rfl, rfl, rfl⟩
  | sealed _ _ _ _ _ _ _ _ _ _ _ _ _ fresh leases =>
    refine ⟨l, ?_, rfl, rfl, rfl⟩
    rw [leases, if_neg]
    · exact before
    · rintro rfl
      rw [before] at fresh
      cases fresh
  | removed _ _ _ _ _ world' => exact ⟨l, by rw [world']; exact before, rfl, rfl, rfl⟩

/-- The call that cuts a file holds its cursor. -/
theorem cut_held {uploadID : String} {size : ℕ} (cuts : cut proc = some (uploadID, size)) :
    Holds proc uploadID := by
  cases proc with
  | appendRepair c => cases cuts; exact .inl ⟨c.upload, List.mem_singleton_self _⟩
  | appendUndo c error => cases cuts; exact .inl ⟨c.upload, List.mem_singleton_self _⟩
  | recoverTruncate now id u rest => cases cuts; exact .inl ⟨u, List.mem_cons_self⟩
  | _ => cases cuts

/-- A turn touches only files whose upload its call holds. -/
theorem file_unheld (effect : Effect turn world proc r) (unheld : ¬Holds proc id) :
    r.world.files id = world.files id := by
  have other {uploadID : String} {file : StagedFile} (held : Holds proc uploadID) :
      world.files.write uploadID file id = world.files id :=
    write_other (fun same => unheld (by rw [same]; exact held)) file
  cases effect with
  | tables _ files _ _ => rw [files]
  | acknowledged _ _ _ files _ => rw [files]
  | staged _ uploadID row by_ _ world' =>
    subst by_
    rw [world']
    exact other (.inr (.inr rfl))
  | recorded _ _ _ _ _ files _ _ _ => rw [files]
  | truncated _ uploadID size bytes by_ _ _ _ world' =>
    rw [world']
    exact other (cut_held by_)
  | written c bytes written by_ _ _ _ _ _ _ world' =>
    subst by_
    rw [world']
    exact other (.inl ⟨c.upload, List.mem_singleton_self _⟩)
  | advanced _ _ _ _ _ files _ _ _ _ _ => rw [files]
  | sealed _ _ _ _ _ _ _ files _ _ _ _ _ _ _ => rw [files]
  | removed _ uploadID bytes by_ _ world' =>
    rw [world']
    rcases by_ with listed | rfl
    · exact other (.inr (.inl listed))
    · exact other (.inr (.inr rfl))

end Effects

/-! ## The invariant -/

/-- Every lease is over a completed upload, with the digest and size it declared. -/
def Consistent (world : World) : Prop :=
  ∀ leaseID l, world.db.leases.table.get? leaseID = some l → ∃ v,
    world.db.uploads.get? l.uploadID = some v ∧ v.state = .completed ∧
      l.sha256 = v.expectedSHA256 ∧ l.sizeBytes = v.totalBytes

/-- A file nobody needs: its upload is not open, and no lease over it is active. -/
def Gone (uploadID : String) (db : Database) : Prop :=
  (∀ v, db.uploads.get? uploadID = some v → v.state ≠ .open) ∧
    ∀ leaseID l, db.leases.table.get? leaseID = some l → l.uploadID = uploadID → l.state ≠ .active

/-- What holds of a call in flight. -/
structure Safe (world : World) (proc : Proc) : Prop where
  behind : ∀ row ∈ cursors proc, ∀ v, world.db.uploads.get? row.1 = some v → Onward row.2 v
  gone : ∀ id ∈ removals proc, Gone id world.db
  unrecorded : ∀ id, creating proc = some id → world.db.uploads.get? id = none
  unstaged : ∀ id row, proc = .createFile id row → world.files id = none
  staged : ∀ id row, proc = .createRecord id row → world.files id = some ⟨[], true⟩
  blank : ∀ id row, proc = .createFile id row ∨ proc = .createRecord id row →
    row.receivedBytes = 0 ∧ row.state = .open
  within : ∀ c, writing proc = some c →
    c.upload.receivedBytes + c.chunk.length ≤ c.upload.totalBytes
  digest : ∀ c sha size, hashed proc = some (c, sha, size) →
    sha = c.upload.expectedSHA256 ∧ size = c.upload.totalBytes

/-- No other call holds the upload one is creating. -/
def Apart (_ : World) (first second : Proc) : Prop :=
  ∀ id, creating first = some id → ¬Holds second id

def Sound (state : State) : Prop := Stable Consistent Safe Apart state.world state.procs

/-- An id drawn for a new upload is new: it has no row, no file, and no call in
flight holds it. -/
def Fresh (state : State) : Event → Prop
  | .arrive _ (.create uploadID ..) => state.world.db.uploads.get? uploadID = none ∧
      state.world.files uploadID = none ∧ ∀ p ∈ state.procs, ¬Holds p uploadID
  | _ => True

/-- A check for it before any other call has arrived. -/
def freshNow (state : State) : Event → Bool
  | .arrive _ (.create uploadID ..) => (state.world.db.uploads.get? uploadID).isNone &&
      (state.world.files uploadID).isNone && state.procs.isEmpty
  | _ => true

theorem fresh_of_check {state : State} {event : Event} (checked : freshNow state event = true) :
    Fresh state event := by
  cases event with
  | arrive now call =>
    cases call with
    | create uploadID installID expectedSHA256 mimeType totalBytes =>
      simp only [freshNow, Bool.and_eq_true, Option.isNone_iff_eq_none, List.isEmpty_iff] at checked
      refine ⟨checked.1.1, checked.1.2, fun p member => ?_⟩
      rw [checked.2] at member
      exact absurd member List.not_mem_nil
    | _ => trivial
  | _ => trivial

/-! ## Every turn keeps it -/

/-- A call that creates an upload removes no other. -/
private theorem not_both {proc : Proc} {id other : String} (created : creating proc = some id)
    (listed : other ∈ removals proc) : False := by
  cases proc with
  | createFile => exact List.not_mem_nil listed
  | createRecord => exact List.not_mem_nil listed
  | createUndo => exact List.not_mem_nil listed
  | _ => cases created

/-- What a call may remove it may remove for good reason. -/
private theorem gone_of_spent {world : World} {id : String} (consistent : Consistent world)
    (spent : Spent id world.db) : Gone id world.db := by
  obtain ⟨v, held, why⟩ := spent
  have sealed {leaseID : String} {l : Lease}
      (lease : world.db.leases.table.get? leaseID = some l) (named : l.uploadID = id) :
      v.state = .completed := by
    obtain ⟨w, row, completed, _⟩ := consistent leaseID l lease
    rw [named, held] at row
    cases row
    exact completed
  rcases why with aborted | expired | ⟨leaseID, l, lease, named, retired⟩
  · refine ⟨fun w row => ?_, fun leaseID l lease named _ => ?_⟩
    · rw [held] at row
      cases row
      simp [aborted]
    · have completed := sealed lease named
      rw [aborted] at completed
      cases completed
  · refine ⟨fun w row => ?_, fun leaseID l lease named _ => ?_⟩
    · rw [held] at row
      cases row
      simp [expired]
    · have completed := sealed lease named
      rw [expired] at completed
      cases completed
  · refine ⟨fun w row => ?_, fun other m also names => ?_⟩
    · rw [held] at row
      cases row
      simp [sealed lease named]
    · rw [← (lease_unique lease also (named.trans names.symm)).2, retired]
      simp

section Turn
variable {env : Environment} {turn : Turn} {world : World} {proc : Proc} {r : Result}

/-- A row that is not being recorded does not reopen. -/
private theorem gone_after (effect : Effect turn world proc r) {id : String}
    (unrecorded : creating proc ≠ some id) (gone : Gone id world.db) : Gone id r.world.db := by
  constructor
  · intro w after open_
    rcases row_after effect after with ⟨v, held, onward⟩ | ⟨rfl, _⟩
    · exact gone.1 v held (onward.open_ open_)
    · exact unrecorded rfl
  · intro leaseID m after named active
    rcases lease_after effect after with ⟨l, held, upload, _, _, back⟩ |
      ⟨c, size, v, _, _, held, open_, _⟩
    · exact gone.2 leaseID l held (upload ▸ named) (back active)
    · exact gone.1 v (named ▸ held) open_

private theorem consistent_after (turned : Turned env turn world proc r) (safe : Safe world proc)
    (consistent : Consistent world) : Consistent r.world := by
  intro leaseID m after
  rcases lease_after turned.effect after with ⟨l, held, upload, sha, size, _⟩ |
    ⟨c, size, v, w, rfl, held, open_, digest, upload, sizes, _, row, completed, total, expected⟩
  · obtain ⟨v, row, completed, digest, total⟩ := consistent leaseID l held
    rcases row_kept turned.effect row with ⟨w, row'⟩ | aborted | expired
    · rcases row_after turned.effect row' with ⟨v', row'', onward⟩ | ⟨_, free, _⟩
      · rw [row] at row''
        cases row''
        refine ⟨w, upload ▸ row', ?_, sha.trans (digest.trans onward.digest.symm),
          size.trans (total.trans onward.total.symm)⟩
        rcases onward.state with same | ⟨open_, _⟩
        · exact same.trans completed
        · rw [completed] at open_
          cases open_
      · rw [row] at free
        cases free
    · rw [completed] at aborted
      cases aborted
    · rw [completed] at expired
      cases expired
  · refine ⟨w, row, completed, (expected.trans digest).symm, ?_⟩
    obtain ⟨_, whole⟩ := safe.digest c m.sha256 size rfl
    have behind := safe.behind (c.uploadID, c.upload) (List.mem_singleton_self _) v (upload ▸ held)
    rw [sizes, whole, total, behind.total]

/-- The rows a call relies on stay behind the tables through another's turn. -/
private theorem behind_after (effect : Effect turn world proc r) {id : String} {u w : Upload}
    (unrecorded : creating proc ≠ some id)
    (behind : ∀ v, world.db.uploads.get? id = some v → Onward u v)
    (after : r.world.db.uploads.get? id = some w) : Onward u w := by
  rcases row_after effect after with ⟨v, held, onward⟩ | ⟨rfl, _⟩
  · exact (behind v held).trans onward
  · exact absurd rfl unrecorded

/-- Only its own call records an upload. -/
private theorem unrecorded_after (effect : Effect turn world proc r) {id : String}
    (other : ∀ row, proc ≠ .createRecord id row) (before : world.db.uploads.get? id = none) :
    r.world.db.uploads.get? id = none := by
  cases after : r.world.db.uploads.get? id with
  | none => rfl
  | some w =>
    rcases row_after effect after with ⟨v, held, _⟩ | ⟨recorded, _⟩
    · rw [before] at held
      cases held
    · exact absurd recorded (other w)

/-- A call not in the middle of a turn stays safe through another's. -/
theorem safe_other (effect : Effect turn world proc r) {other : Proc} (safe : Safe world other)
    (apart : Apart world proc other) (apart' : Apart world other proc) : Safe r.world other where
  behind row member w after :=
    behind_after effect (fun created => apart row.1 created (.inl ⟨row.2, member⟩))
      (safe.behind row member) after
  gone id member :=
    gone_after effect (fun created => apart id created (.inr (.inl member))) (safe.gone id member)
  unrecorded id created :=
    unrecorded_after effect
      (fun row same => apart' id created (.inr (.inr (by rw [same]; rfl)))) (safe.unrecorded id created)
  unstaged id row same := by
    rw [file_unheld effect (apart' id (by rw [same]; rfl))]
    exact safe.unstaged id row same
  staged id row same := by
    rw [file_unheld effect (apart' id (by rw [same]; rfl))]
    exact safe.staged id row same
  blank := safe.blank
  within := safe.within
  digest := safe.digest

/-- A call that has taken its turn is safe where it now stands. -/
theorem safe_own (turned : Turned env turn world proc r) (safe : Safe world proc)
    (consistent : Consistent r.world) : Safe r.world r.proc where
  behind row member w after := by
    rcases turned.known row member with kept | read
    · rcases row_after turned.effect after with ⟨v, held, onward⟩ | ⟨rfl, _⟩
      · exact (safe.behind row kept v held).trans onward
      · exact absurd kept List.not_mem_nil
    · rcases row_after turned.effect after with ⟨v, held, onward⟩ | ⟨_, free, _⟩
      · rw [read] at held
        cases held
        exact onward
      · rw [read] at free
        cases free
  gone id member := by
    rcases turned.spent id member with kept | spent
    · exact gone_after turned.effect (fun created => not_both created kept) (safe.gone id kept)
    · exact gone_of_spent consistent spent
  unrecorded id created := by
    cases after : r.world.db.uploads.get? id with
    | none => rfl
    | some w =>
      have free := safe.unrecorded id (turned.draft id created)
      rcases row_after turned.effect after with ⟨v, held, _⟩ | ⟨_, _, gone⟩
      · rw [free] at held
        cases held
      · rw [gone] at created
        cases created
  unstaged id row same := absurd same (turned.staged id row).1
  staged id row same := ((turned.staged id row).2 same).2
  blank id row same := by
    rcases same with same | same
    · exact absurd same (turned.staged id row).1
    · exact safe.blank id row (.inl ((turned.staged id row).2 same).1)
  within := turned.within
  digest c sha size same := by
    rcases turned.digest c sha size same with kept | ⟨_, _, _, _, _, digest, total⟩
    · exact safe.digest c sha size kept
    · exact ⟨digest, total⟩

/-- What a call holds after its turn it held before, or its upload is recorded. -/
theorem holds_after (turned : Turned env turn world proc r) {id : String} (holds : Holds r.proc id) :
    Holds proc id ∨ ∃ v, world.db.uploads.get? id = some v := by
  rcases holds with ⟨u, member⟩ | listed | created
  · rcases turned.known (id, u) member with kept | read
    · exact .inl (.inl ⟨u, kept⟩)
    · exact .inr ⟨u, read⟩
  · rcases turned.spent id listed with kept | ⟨w, after, _⟩
    · exact .inl (.inr (.inl kept))
    · rcases row_after turned.effect after with ⟨v, held, _⟩ | ⟨rfl, _⟩
      · exact .inr ⟨v, held⟩
      · exact .inl (.inr (.inr rfl))
  · exact .inl (.inr (.inr (turned.draft id created)))

end Turn

/-! ## Every run keeps it -/

section Run
variable {env : Environment}

/-- A call about to start holds nothing but, perhaps, the upload it is to create. -/
theorem begin_starts {now : ℤ} {call : Call} {proc : Proc} (begun : begin_ env now call = .inl proc) :
    cursors proc = [] ∧ removals proc = [] ∧ writing proc = none ∧ pending proc = none ∧
      hashed proc = none ∧ reading proc = none ∧ acknowledging proc = none ∧
      (creating proc = none ∨ ∃ uploadID row installID expectedSHA256 mimeType totalBytes,
        call = .create uploadID installID expectedSHA256 mimeType totalBytes ∧
        proc = .createFile uploadID row ∧ row.receivedBytes = 0 ∧ row.state = .open) := by
  cases call with
  | create uploadID installID expectedSHA256 mimeType totalBytes =>
    simp only [begin_] at begun
    split at begun
    · cases begun
    · cases begun
      exact ⟨rfl, rfl, rfl, rfl, rfl, rfl, rfl, .inr ⟨uploadID, _, installID, expectedSHA256, mimeType,
        totalBytes, rfl, rfl, rfl, rfl⟩⟩
  | append installID uploadID expectedOffset chunk =>
    simp only [begin_] at begun
    split at begun
    · cases begun
    · cases begun
      exact ⟨rfl, rfl, rfl, rfl, rfl, rfl, rfl, .inl rfl⟩
  | complete installID uploadID =>
    simp only [begin_] at begun
    split at begun
    · cases begun
    · cases begun
      exact ⟨rfl, rfl, rfl, rfl, rfl, rfl, rfl, .inl rfl⟩
  | cancel installID uploadID =>
    simp only [begin_] at begun
    split at begun
    · cases begun
    · cases begun
      exact ⟨rfl, rfl, rfl, rfl, rfl, rfl, rfl, .inl rfl⟩
  | recover =>
    cases begun
    exact ⟨rfl, rfl, rfl, rfl, rfl, rfl, rfl, .inl rfl⟩
  | openLease owner leaseID token =>
    cases owner with
    | none =>
      cases begun
      exact ⟨rfl, rfl, rfl, rfl, rfl, rfl, rfl, .inl rfl⟩
    | some installID =>
      simp only [begin_] at begun
      split at begun
      · cases begun
      · cases begun
        exact ⟨rfl, rfl, rfl, rfl, rfl, rfl, rfl, .inl rfl⟩
  | revokeSample installID leaseID =>
    cases begun
    exact ⟨rfl, rfl, rfl, rfl, rfl, rfl, rfl, .inl rfl⟩

/-- Every turn of a sound state leaves a sound one, whoever takes it. -/
theorem sound_turn {state : State} {index : ℕ} {proc : Proc} {turn : Turn} {r : Result}
    (sound : Sound state) (running : state.procs[index]? = some proc)
    (turned : Turned env turn state.world proc r) : Sound ⟨r.world, state.procs.set index r.proc⟩ := by
  have safe := sound.each index proc running
  have consistent := consistent_after turned safe sound.shared
  refine sound.turn running consistent (safe_own turned safe consistent)
    (fun j q _ _ other apart apart' => ⟨safe_other turned.effect other apart apart', ?_, ?_⟩)
    fun p q _ _ apart => apart
  · exact fun id created => apart id (turned.draft id created)
  · intro id created holds
    rcases holds_after turned holds with held | ⟨v, recorded⟩
    · exact apart' id created held
    · rw [other.unrecorded id created] at recorded
      cases recorded

theorem sound_arrive {state : State} {now : ℤ} {call : Call} {proc : Proc} (sound : Sound state)
    (fresh : Fresh state (.arrive now call)) (begun : begin_ env now call = .inl proc) :
    Sound ⟨state.world, state.procs ++ [proc]⟩ := by
  obtain ⟨noCursor, noRemoval, noWrite, _, noHash, _, _, creates⟩ := begin_starts begun
  have idle (unborn : creating proc = none) : ∀ id, ¬Holds proc id := by
    rintro id (⟨u, member⟩ | listed | created)
    · rw [noCursor] at member
      exact List.not_mem_nil member
    · rw [noRemoval] at listed
      exact List.not_mem_nil listed
    · rw [unborn] at created
      cases created
  have safe (unrecorded : ∀ id, creating proc = some id → state.world.db.uploads.get? id = none)
      (unstaged : ∀ id row, proc = .createFile id row →
        state.world.files id = none ∧ row.receivedBytes = 0 ∧ row.state = .open)
      (first : ∀ id row, proc ≠ .createRecord id row) : Safe state.world proc := by
    refine ⟨?_, ?_, unrecorded, fun id row same => (unstaged id row same).1,
      fun id row same => absurd same (first id row), ?_, ?_, ?_⟩
    · rw [noCursor]
      exact fun row member => absurd member List.not_mem_nil
    · rw [noRemoval]
      exact fun row member => absurd member List.not_mem_nil
    · rintro id row (same | same)
      · exact (unstaged id row same).2
      · exact absurd same (first id row)
    · rw [noWrite]
      exact nofun
    · rw [noHash]
      exact nofun
  rcases creates with unborn | ⟨uploadID, row, installID, sha, mimeType, total, rfl, rfl, blank⟩
  · refine Stable.arrive sound (safe ?_ ?_ ?_) fun j q _ => ⟨?_, fun id _ => idle unborn id⟩
    · rw [unborn]
      exact nofun
    · rintro id row rfl
      cases unborn
    · rintro id row rfl
      cases unborn
    · intro id created
      rw [unborn] at created
      cases created
  · obtain ⟨free, unstaged, unheld⟩ := fresh
    refine Stable.arrive sound (safe ?_ ?_ ?_) fun j q running => ⟨?_, ?_⟩
    · intro id created
      cases created
      exact free
    · intro id row' same
      cases same
      exact ⟨unstaged, blank⟩
    · exact nofun
    · intro id created
      cases created
      exact unheld q (List.mem_of_getElem? running)
    · rintro id created (⟨u, member⟩ | listed | drawn)
      · exact List.not_mem_nil member
      · exact List.not_mem_nil listed
      · cases drawn
        exact unheld q (List.mem_of_getElem? running) (.inr (.inr created))

/-- Every event of a run keeps a sound state sound. -/
theorem sound_step {state : State} {event : Event} (fresh : Fresh state event) (sound : Sound state) :
    Sound (step env state event).2 := by
  cases event with
  | arrive now call =>
    simp only [step]
    split
    · rename_i proc begun
      exact sound_arrive sound fresh begun
    · exact sound
  | turn index turn =>
    simp only [step]
    split
    · exact sound
    · rename_i proc running
      exact sound_turn sound running (turnOf_turned env turn state.world proc)
  | crash => exact Stable.idle sound.shared

theorem sound_initial : Sound .initial :=
  Stable.idle fun leaseID l held => by cases held

end Run
end AnselmGateway.MediaInvariants
