import AnselmGateway.Foundation.Fallible
import AnselmGateway.MediaSemantics

/-! Upload rows over every interleaving of calls. A turn makes at most one statement on the media
tables; whatever it is, a row keeps its owner, what it declares and its deadline, and only a
creation adds one. -/
namespace AnselmGateway.UploadRows
open Foundation MediaFiles MediaStore MediaStoreSemantics Media MediaSemantics

/-! ## The statement of a turn -/

/-- The statement that a turn brings through, and what it leaves of the tables. -/
inductive Statement (env : Environment) (turn : Turn) (db : Database) : Proc → Database → Prop
  | nothing {proc : Proc} : Statement env turn db proc db
  | create {uploadID : String} {row : Upload} {after : Database}
      (ran : createUpload uploadID row db = .ok after) : Statement env turn db (.createRecord uploadID row) after
  | advance {c : AppendCall} {advanced : Bool} {after : Database}
      (ran : advanceReceived c.installID c.uploadID c.upload.receivedBytes
        (c.upload.receivedBytes + c.chunk.length) turn.now db = .ok (advanced, after)) :
      Statement env turn db (.appendAdvance c) after
  | complete {c : CompleteCall} {sha : String} {size : ℕ} {completed : Bool} {after : Database}
      (ran : completeUpload c.installID c.uploadID sha turn.now turn.leaseID (newLease env turn c sha size) db =
        .ok (completed, after)) : Statement env turn db (.completeSeal c sha size) after
  | abort {installID uploadID : String} {now : ℤ} {aborted : Bool} {after : Database}
      (ran : abortOpen installID uploadID now db = .ok (aborted, after)) :
      Statement env turn db (.cancelAbort installID uploadID now) after
  | expire {after : Database} (ran : expire turn.now db = .ok after) : Statement env turn db .recoverExpire after
  | close {now : ℤ} {uploadID : String} {rest : List (String × Upload)} {after : Database}
      (ran : expireOpen uploadID now db = .ok after) : Statement env turn db (.recoverClose now uploadID rest) after
  | acknowledge {now : ℤ} {uploadID : String} {rest : List String} {after : Database}
      (ran : acknowledgeRemoved uploadID now db = .ok after) :
      Statement env turn db (.recoverAcknowledge now uploadID rest) after
  | revoke {installID leaseID : String} {revoked : Bool} {after : Database}
      (ran : revokeLease installID leaseID db = .ok (revoked, after)) :
      Statement env turn db (.revoke installID leaseID) after

section Turns
variable {env : Environment} {turn : Turn} {world after : World} {proc : Proc}

theorem file_makes_none {operation : Files → Except FileError Files} {ok : Bool}
    (ran : fileStep turn operation world = (ok, after)) : Statement env turn world.db proc after.db := by
  rcases fileStep_cases ran with ⟨_, rfl⟩ | ⟨_, files, _, rfl⟩
  · exact .nothing
  · exact .nothing

theorem statement_makes {α : Type} {operation : Database → Except Refusal (α × Database)}
    {answer : Option α} (ran : statement turn operation world = (answer, after))
    (each : ∀ value db, operation world.db = .ok (value, db) → Statement env turn world.db proc db) :
    Statement env turn world.db proc after.db := by
  rcases statement_cases ran with ⟨_, rfl⟩ | ⟨value, db, _, ok, rfl⟩
  · exact .nothing
  · exact each value db ok

theorem execute_makes {operation : Database → Except Refusal Database} {answer : Option Unit}
    (ran : execute turn operation world = (answer, after))
    (each : ∀ db, operation world.db = .ok db → Statement env turn world.db proc db) :
    Statement env turn world.db proc after.db := by
  rcases execute_cases ran with ⟨_, rfl⟩ | ⟨_, db, ok, rfl⟩
  · exact .nothing
  · exact each db ok

/-- Every turn of every call. -/
theorem turnOf_statement (proc : Proc) :
    Statement env turn world.db proc (turnOf env turn world proc).world.db := by
  cases proc with
  | createFile uploadID row =>
    simp only [turnOf, createStep]
    split <;> exact file_makes_none ‹_›
  | createRecord uploadID row =>
    simp only [turnOf, createStep]
    split <;> exact execute_makes ‹_› fun _ ok => .create ok
  | createUndo uploadID => exact file_makes_none rfl
  | appendRepair c =>
    simp only [turnOf, appendStep]
    repeat' split
    all_goals exact file_makes_none ‹_›
  | appendWrite c =>
    simp only [turnOf, appendStep]
    split <;> exact file_makes_none ‹_›
  | appendAdvance c =>
    simp only [turnOf, appendStep]
    split <;> exact statement_makes ‹_› fun _ _ ok => .advance ok
  | appendUndo c error => exact file_makes_none rfl
  | completeSeal c sha size =>
    simp only [turnOf, completeStep]
    split <;> exact statement_makes ‹_› fun _ _ ok => .complete ok
  | cancelAbort installID uploadID now =>
    simp only [turnOf, cancelStep]
    split <;> exact statement_makes ‹_› fun _ _ ok => .abort ok
  | cancelRemove uploadID =>
    simp only [turnOf, cancelStep]
    split <;> exact file_makes_none ‹_›
  | recoverExpire =>
    simp only [turnOf, recoverStep]
    split <;> exact execute_makes ‹_› fun _ ok => .expire ok
  | recoverClose now uploadID rest =>
    simp only [turnOf, recoverStep]
    split <;> exact execute_makes ‹_› fun _ ok => .close ok
  | recoverTruncate now uploadID u rest =>
    simp only [turnOf, recoverStep]
    split <;> exact file_makes_none ‹_›
  | recoverRemove now ids =>
    cases ids with
    | nil => exact .nothing
    | cons uploadID rest =>
      simp only [turnOf, recoverStep]
      split <;> exact file_makes_none ‹_›
  | recoverAcknowledge now uploadID rest =>
    simp only [turnOf, recoverStep]
    split <;> exact execute_makes ‹_› fun _ ok => .acknowledge ok
  | revoke installID leaseID =>
    simp only [turnOf, leaseStep]
    split <;> exact statement_makes ‹_› fun _ _ ok => .revoke ok
  | recoverSize now open_ =>
    cases open_ <;> simp only [turnOf, recoverStep] <;> repeat' split
    all_goals exact .nothing
  | _ =>
    simp only [turnOf, appendStep, completeStep, cancelStep, recoverStep, leaseStep]
    repeat' split
    all_goals exact .nothing

end Turns

/-! ## Rows -/

/-- The same upload, but for its cursor, its state and their times. -/
def SameTerms (v w : Upload) : Prop :=
  w = { v with receivedBytes := w.receivedBytes, state := w.state, updatedAt := w.updatedAt,
               completedAt := w.completedAt }

/-- Every row there is was there before, under the same terms. -/
def Termed (before after : Database) : Prop :=
  ∀ id w, after.uploads.get? id = some w → ∃ v, before.uploads.get? id = some v ∧ SameTerms v w

section Rows
variable {db after : Database} {count : ℕ}

theorem SameTerms.trans {u v w : Upload} (first : SameTerms u v) (second : SameTerms v w) : SameTerms u w := by
  rw [SameTerms, second, first]

theorem termed_same (same : after.uploads = db.uploads) : Termed db after :=
  fun _ w held => ⟨w, same ▸ held, rfl⟩

theorem termed_updateUploads {matching : String → Upload → Bool} {assign : Upload → Upload}
    (ran : updateUploads matching assign db = .ok (count, after)) (same : ∀ row, SameTerms row (assign row)) :
    Termed db after := by
  intro id w held
  rw [(updateUploads_ok ran).1] at held
  obtain ⟨v, stored, rfl⟩ := Option.map_eq_some_iff.mp held
  refine ⟨v, stored, ?_⟩
  split
  · exact same v
  · rfl

theorem termed_advanceReceived {installID uploadID : String} {expected next : ℕ} {now : ℤ} {advanced : Bool}
    (ran : advanceReceived installID uploadID expected next now db = .ok (advanced, after)) : Termed db after := by
  unfold advanceReceived at ran
  split at ran
  · cases ran
    exact termed_same rfl
  · obtain ⟨⟨n, stored⟩, updated, answer⟩ := Fallible.bind_ok.mp ran
    cases answer
    exact termed_updateUploads updated fun _ => rfl

theorem termed_abortOpen {installID uploadID : String} {now : ℤ} {aborted : Bool}
    (ran : abortOpen installID uploadID now db = .ok (aborted, after)) : Termed db after := by
  obtain ⟨⟨n, stored⟩, updated, answer⟩ := Fallible.bind_ok.mp ran
  cases answer
  exact termed_updateUploads updated fun _ => rfl

theorem termed_completeUpload {installID uploadID sha leaseID : String} {now : ℤ} {lease : Lease} {completed : Bool}
    (ran : completeUpload installID uploadID sha now leaseID lease db = .ok (completed, after)) :
    Termed db after := by
  obtain ⟨⟨n, sealed⟩, updated, answer⟩ := Fallible.bind_ok.mp ran
  have kept : Termed db sealed := termed_updateUploads updated fun _ => rfl
  dsimp only at answer
  split at answer
  · cases answer
    exact kept
  · obtain ⟨leases, _, stored⟩ := Fallible.bind_ok.mp answer
    cases stored
    exact kept

theorem termed_expire {now : ℤ} (ran : expire now db = .ok after) : Termed db after := by
  obtain ⟨⟨n, closed⟩, updated, answer⟩ := Fallible.bind_ok.mp ran
  obtain ⟨⟨m, finish⟩, retired, answer⟩ := Fallible.bind_ok.mp answer
  cases answer
  have kept : Termed db closed := termed_updateUploads updated fun _ => rfl
  exact fun id w held => kept id w ((updateLeases_ok retired).1 ▸ held)

theorem termed_expireOpen {uploadID : String} {now : ℤ} (ran : expireOpen uploadID now db = .ok after) :
    Termed db after := by
  obtain ⟨⟨n, closed⟩, updated, answer⟩ := Fallible.bind_ok.mp ran
  cases answer
  exact termed_updateUploads updated fun _ => rfl

theorem termed_acknowledgeRemoved {uploadID : String} {now : ℤ}
    (ran : acknowledgeRemoved uploadID now db = .ok after) : Termed db after := by
  intro id w held
  rcases (acknowledgeRemoved_ok ran).uploads id with same | ⟨_, gone, _⟩
  · exact ⟨w, same ▸ held, rfl⟩
  · rw [gone] at held
    cases held

/-- A row after a statement was there before, under its terms, or has just been created. -/
theorem Statement.row {env : Environment} {turn : Turn} {proc : Proc} (made : Statement env turn db proc after)
    {id : String} {w : Upload} (held : after.uploads.get? id = some w) :
    (∃ v, db.uploads.get? id = some v ∧ SameTerms v w) ∨ proc = .createRecord id w := by
  cases made with
  | nothing => exact .inl ⟨w, held, rfl⟩
  | create ran =>
    rw [(createUpload_ok ran).2.2] at held
    split at held
    · rename_i here
      cases held
      exact .inr (here ▸ rfl)
    · exact .inl ⟨w, held, rfl⟩
  | advance ran => exact .inl (termed_advanceReceived ran id w held)
  | complete ran => exact .inl (termed_completeUpload ran id w held)
  | abort ran => exact .inl (termed_abortOpen ran id w held)
  | expire ran => exact .inl (termed_expire ran id w held)
  | close ran => exact .inl (termed_expireOpen ran id w held)
  | acknowledge ran => exact .inl (termed_acknowledgeRemoved ran id w held)
  | revoke ran => exact .inl (termed_same (revokeLease_ok ran).1 id w held)

/-- A cursor is advanced by the owner alone. -/
theorem advanceReceived_owner {installID uploadID : String} {expected next : ℕ} {now : ℤ} {v : Upload}
    (ran : advanceReceived installID uploadID expected next now db = .ok (true, after))
    (held : db.uploads.get? uploadID = some v) : v.installID = installID := by
  unfold advanceReceived at ran
  split at ran
  · cases ran
  · obtain ⟨⟨n, stored⟩, updated, answer⟩ := Fallible.bind_ok.mp ran
    have counted := (updateAt_ok updated).1
    rw [held, Option.any_some, of_decide_eq_true (Prod.mk.inj (Except.ok.inj answer)).1] at counted
    split at counted
    · rename_i met
      simp only [Bool.and_eq_true, decide_eq_true_eq] at met
      exact met.1.1.1.1
    · cases counted

end Rows
end AnselmGateway.UploadRows
