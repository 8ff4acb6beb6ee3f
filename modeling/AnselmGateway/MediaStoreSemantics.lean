import Mathlib.Data.List.Nodup
import AnselmGateway.MediaStore

/-! What each operation of the media store does to a row. Most leave every cursor
where it is and only move states forward; the others record a new upload, advance
one cursor, seal one upload, or acknowledge that a file is gone. -/
namespace AnselmGateway.MediaStoreSemantics
open Foundation MediaStore

/-! ## Row by row -/

/-- A row keeps its cursor and what it declares. Its state stays, or an open row
is aborted or expires; none goes away, and none appears. -/
def Steady : Option Upload → Option Upload → Prop
  | none, after => after = none
  | some _, none => False
  | some u, some v => v.receivedBytes = u.receivedBytes ∧ v.totalBytes = u.totalBytes ∧
      v.expectedSHA256 = u.expectedSHA256 ∧ (v.state = u.state ∨
        (u.state = .open ∧ (v.state = .aborted ∨ v.state = .expired)))

/-- A lease keeps everything but its state, which stays or goes on from active to
expired. -/
def Retired : Option Lease → Option Lease → Prop
  | none, after => after = none
  | some _, none => False
  | some l, some m => m.uploadID = l.uploadID ∧ m.sha256 = l.sha256 ∧ m.sizeBytes = l.sizeBytes ∧
      (m.state = l.state ∨ (l.state = .active ∧ m.state = .expired))

/-- The row of an upload whose file is acknowledged as gone goes away if it was
aborted or expired; otherwise an expired lease over it is marked deleted. Nothing
else changes. -/
structure Acknowledged (uploadID : String) (before after : Database) : Prop where
  uploads : ∀ id, after.uploads.get? id = before.uploads.get? id ∨
    (id = uploadID ∧ after.uploads.get? id = none ∧ ∃ u, before.uploads.get? id = some u ∧
      (u.state = .aborted ∨ u.state = .expired))
  leases : ∀ id, after.leases.table.get? id = before.leases.table.get? id ∨
    ∃ l m, before.leases.table.get? id = some l ∧ after.leases.table.get? id = some m ∧
      l.uploadID = uploadID ∧ m.uploadID = l.uploadID ∧ m.sha256 = l.sha256 ∧
      m.sizeBytes = l.sizeBytes ∧ l.state = .expired ∧ m.state = .deleted

theorem Steady.refl (row : Option Upload) : Steady row row := by
  cases row with
  | none => rfl
  | some u => exact ⟨rfl, rfl, rfl, .inl rfl⟩

theorem Retired.refl (row : Option Lease) : Retired row row := by
  cases row with
  | none => rfl
  | some l => exact ⟨rfl, rfl, rfl, .inl rfl⟩

section Operations
variable {db after : Database} {installID uploadID leaseID : String} {now : ℤ}

/-- An update of uploads rewrites the rows it matches, and no lease. -/
theorem updateUploads_ok {matching : String → Upload → Bool} {assign : Upload → Upload} {count : ℕ}
    (ran : updateUploads matching assign db = .ok (count, after)) :
    (∀ id, after.uploads.get? id = (db.uploads.get? id).map fun row =>
        if matching id row then assign row else row) ∧
      count = (db.uploads.rows.countP fun row => matching row.1 row.2) ∧
      after.leases = db.leases := by
  unfold updateUploads at ran
  split at ran
  · cases ran
  · rename_i uploads affected updated
    cases ran
    exact ⟨Table.get?_updateWhere updated, (Table.rows_updateWhere updated).2, rfl⟩

/-- An update through the primary key matches at most the one row. -/
theorem updateAt_ok {condition : Upload → Bool} {assign : Upload → Upload} {count : ℕ}
    (ran : updateUploads (Table.at' uploadID condition) assign db = .ok (count, after)) :
    count = (if (db.uploads.get? uploadID).any condition then 1 else 0) ∧
      (∀ id, id ≠ uploadID → after.uploads.get? id = db.uploads.get? id) ∧
      after.uploads.get? uploadID = (db.uploads.get? uploadID).map (fun row =>
        if condition row then assign row else row) ∧ after.leases = db.leases := by
  have counted := (updateUploads_ok ran).2.1
  obtain ⟨reads, _, leases⟩ := updateUploads_ok ran
  refine ⟨?_, fun id apart => ?_, ?_, leases⟩
  · unfold updateUploads at ran
    split at ran
    · cases ran
    · rename_i uploads affected updated
      cases ran
      exact Table.count_updateAt updated
  · rw [reads]
    cases db.uploads.get? id <;> simp [Table.at', apart]
  · rw [reads]
    cases db.uploads.get? uploadID <;> simp [Table.at']

/-- An update of leases retires the rows it matches, and touches no upload. -/
theorem updateLeases_ok {matching : String → Lease → Bool} {state : LeaseState}
    {deletedAt : Option ℤ} {count : ℕ}
    (ran : updateLeases matching state deletedAt db = .ok (count, after)) :
    after.uploads = db.uploads ∧ ∀ id, after.leases.table.get? id =
      (db.leases.table.get? id).map fun l =>
        if matching id l then l.retire state deletedAt else l := by
  unfold updateLeases at ran
  split at ran
  · cases ran
  · rename_i leases affected updated
    cases ran
    have table : db.leases.table.updateWhere matching (Lease.retire state deletedAt) =
        .ok (leases.table, count) := by
      unfold Leases.retireWhere at updated
      split at updated
      · cases updated
      · rename_i table count stored
        cases updated
        exact stored
    exact ⟨rfl, Table.get?_updateWhere table⟩

/-- Expiring active leases retires them. -/
private theorem leases_retired {matching : String → Lease → Bool} {deletedAt : Option ℤ} {count : ℕ}
    (ran : updateLeases matching .expired deletedAt db = .ok (count, after))
    (active : ∀ id l, matching id l = true → l.state = .active) (id : String) :
    Retired (db.leases.table.get? id) (after.leases.table.get? id) := by
  rw [(updateLeases_ok ran).2]
  cases db.leases.table.get? id with
  | none => rfl
  | some l =>
    rw [Option.map_some]
    split
    · rename_i met
      exact ⟨rfl, rfl, rfl, .inr ⟨active id l met, rfl⟩⟩
    · exact ⟨rfl, rfl, rfl, .inl rfl⟩

/-- What `getUploadForInstall` finds is the row. -/
theorem getUploadForInstall_some {u : Upload}
    (found : getUploadForInstall installID uploadID db = some u) :
    db.uploads.get? uploadID = some u :=
  (Option.filter_eq_some_iff.mp found).1

/-- Recording an upload adds its row, under a new id. -/
theorem createUpload_ok {upload : Upload} (ran : createUpload uploadID upload db = .ok after) :
    db.uploads.get? uploadID = none ∧ after.leases = db.leases ∧
      ∀ id, after.uploads.get? id = if id = uploadID then some upload else db.uploads.get? id := by
  unfold createUpload at ran
  split at ran
  · cases ran
  · rename_i uploads inserted
    cases ran
    exact ⟨(Table.insert_ok inserted).2, rfl, Table.get?_insert inserted⟩

/-- A state change away from `open` leaves every other row, and the rest of its
own, as it was. -/
private theorem steady_close {condition : Upload → Bool} {assign : Upload → Upload} {count : ℕ}
    (ran : updateUploads (Table.at' uploadID condition) assign db = .ok (count, after))
    (open_ : ∀ row, condition row = true → row.state = .open)
    (closes : ∀ row, (assign row).receivedBytes = row.receivedBytes ∧
      (assign row).totalBytes = row.totalBytes ∧
      (assign row).expectedSHA256 = row.expectedSHA256 ∧
      ((assign row).state = .aborted ∨ (assign row).state = .expired)) (id : String) :
    Steady (db.uploads.get? id) (after.uploads.get? id) := by
  obtain ⟨_, others, own, _⟩ := updateAt_ok ran
  by_cases same : id = uploadID
  · subst same
    rw [own]
    cases db.uploads.get? id with
    | none => rfl
    | some u =>
      rw [Option.map_some]
      split
      · rename_i met
        obtain ⟨received, total, sha, closed⟩ := closes u
        exact ⟨received, total, sha, .inr ⟨open_ u met, closed⟩⟩
      · exact Steady.refl (some u)
  · rw [others id same]
    exact Steady.refl _

/-- `AbortOpen` closes at most its own row; where it reports success, the row is
aborted. -/
theorem abortOpen_ok {aborted : Bool} (ran : abortOpen installID uploadID now db = .ok (aborted, after)) :
    (∀ id, Steady (db.uploads.get? id) (after.uploads.get? id)) ∧ after.leases = db.leases ∧
      (aborted = true → ∃ v, after.uploads.get? uploadID = some v ∧ v.state = .aborted) := by
  unfold abortOpen at ran
  generalize updated : updateUploads _ _ db = outcome at ran
  rcases outcome with refusal | ⟨n, stored⟩
  · cases ran
  · cases ran
    obtain ⟨counted, _, own, leases⟩ := updateAt_ok updated
    refine ⟨steady_close updated (fun row met => ?_) fun row => ⟨rfl, rfl, rfl, .inl rfl⟩, leases,
      fun one => ?_⟩
    · simp only [Bool.and_eq_true, decide_eq_true_eq] at met
      exact met.1.2
    · cases held : db.uploads.get? uploadID with
      | none => simp [held] at counted; simp [counted] at one
      | some u =>
        rw [held] at counted own
        simp only [Option.any_some] at counted
        split at counted
        · rename_i met
          rw [Option.map_some, if_pos met] at own
          exact ⟨_, own, rfl⟩
        · simp [counted] at one

/-- `AdvanceReceived` that loses changes nothing; that wins, it moves the cursor of
an open row it found at the expected place. -/
theorem advanceReceived_ok {expected next : ℕ} {advanced : Bool}
    (ran : advanceReceived installID uploadID expected next now db = .ok (advanced, after)) :
    after.leases = db.leases ∧ (∀ id, id ≠ uploadID → after.uploads.get? id = db.uploads.get? id) ∧
      (advanced = false → after.uploads.get? uploadID = db.uploads.get? uploadID) ∧
      (advanced = true → ∃ v, expected ≤ next ∧ db.uploads.get? uploadID = some v ∧
        v.state = .open ∧ v.receivedBytes = expected ∧ after.uploads.get? uploadID =
          some { v with receivedBytes := next, updatedAt := now }) := by
  unfold advanceReceived at ran
  split at ran
  · cases ran
    exact ⟨rfl, fun _ _ => rfl, fun _ => rfl, by simp⟩
  · rename_i forward
    generalize updated : updateUploads _ _ db = outcome at ran
    rcases outcome with refusal | ⟨n, stored⟩
    · cases ran
    · cases ran
      obtain ⟨counted, others, own, leases⟩ := updateAt_ok updated
      refine ⟨leases, others, fun lost => ?_, fun won => ?_⟩
      · cases held : db.uploads.get? uploadID with
        | none => rw [own, held]; rfl
        | some u =>
          rw [held] at counted own
          simp only [Option.any_some] at counted
          split at counted
          · simp [counted] at lost
          · rename_i unmet
            rw [own, Option.map_some, if_neg unmet]
      · cases held : db.uploads.get? uploadID with
        | none => simp [held] at counted; simp [counted] at won
        | some u =>
          rw [held] at counted own
          simp only [Option.any_some] at counted
          split at counted
          · rename_i met
            rw [Option.map_some, if_pos met] at own
            simp only [Bool.and_eq_true, decide_eq_true_eq] at met
            exact ⟨u, Nat.not_lt.mp forward, rfl, met.1.1.1.2, met.1.2, own⟩
          · simp [counted] at won

theorem insertLease_ok {leases stored : Leases} {lease : Lease}
    (inserted : leases.insert leaseID lease = .ok stored) :
    leases.table.insert leaseID lease = .ok stored.table := by
  unfold Leases.insert at inserted
  split at inserted
  · cases inserted
  · split at inserted
    · cases inserted
    · rename_i ran
      cases inserted
      exact ran

/-- `CompleteUpload` that loses changes nothing; that wins, it closes an open, fully
received row of the sealed digest and adds the one lease. -/
theorem completeUpload_ok {sha : String} {lease : Lease} {completed : Bool}
    (ran : completeUpload installID uploadID sha now leaseID lease db = .ok (completed, after)) :
    (completed = false → (∀ id, after.uploads.get? id = db.uploads.get? id) ∧
      after.leases = db.leases) ∧
    (completed = true → ∃ v, db.uploads.get? uploadID = some v ∧ v.state = .open ∧
      v.receivedBytes = v.totalBytes ∧ v.expectedSHA256 = sha ∧
      (∀ id, after.uploads.get? id = if id = uploadID then
        some { v with state := .completed, completedAt := some now, updatedAt := now }
        else db.uploads.get? id) ∧
      db.leases.table.get? leaseID = none ∧ ∀ id, after.leases.table.get? id =
        if id = leaseID then
          some { lease with installID := installID, uploadID := uploadID, sha256 := sha,
                            state := .active, deletedAt := none }
        else db.leases.table.get? id) := by
  unfold completeUpload at ran
  generalize updated : updateUploads _ _ db = outcome at ran
  rcases outcome with refusal | ⟨n, sealed⟩
  · cases ran
  · obtain ⟨counted, others, own, leases⟩ := updateAt_ok updated
    simp only [bind, Except.bind] at ran
    split at ran
    · rename_i zero
      cases ran
      refine ⟨fun _ => ⟨fun id => ?_, leases⟩, nofun⟩
      by_cases same : id = uploadID
      · subst same
        rw [own]
        cases held : db.uploads.get? id with
        | none => rfl
        | some u =>
          rw [held, Option.any_some] at counted
          split at counted
          · exact absurd (counted.symm.trans zero) nofun
          · rename_i unmet
            rw [Option.map_some, if_neg unmet]
      · exact others id same
    · rename_i some_
      generalize inserted : Leases.insert _ _ _ = outcome at ran
      rcases outcome with refusal | table
      · cases ran
      · cases ran
        refine ⟨nofun, fun _ => ?_⟩
        have stored := insertLease_ok inserted
        rw [leases] at stored
        cases held : db.uploads.get? uploadID with
        | none => simp [held] at counted; exact absurd counted some_
        | some u =>
          rw [held] at counted own
          simp only [Option.any_some] at counted
          split at counted
          · rename_i met
            rw [Option.map_some, if_pos met] at own
            simp only [Bool.and_eq_true, decide_eq_true_eq] at met
            refine ⟨u, rfl, met.1.1.1.2, met.1.2, met.2, fun id => ?_, (Table.insert_ok stored).2,
              Table.get?_insert stored⟩
            dsimp only
            split
            · rename_i same
              rw [same, own]
            · rename_i apart
              exact others id apart
          · exact absurd counted some_

/-- `Expire` closes open rows and retires active leases. -/
theorem expire_ok (ran : expire now db = .ok after) :
    (∀ id, Steady (db.uploads.get? id) (after.uploads.get? id)) ∧
      ∀ id, Retired (db.leases.table.get? id) (after.leases.table.get? id) := by
  unfold expire at ran
  generalize updated : updateUploads _ _ db = outcome at ran
  rcases outcome with refusal | ⟨n, closed⟩
  · cases ran
  · simp only [bind, Except.bind] at ran
    generalize retired : updateLeases _ _ _ closed = outcome at ran
    rcases outcome with refusal | ⟨m, finish⟩
    · cases ran
    · cases ran
      obtain ⟨reads, _, leases⟩ := updateUploads_ok updated
      have uploads := (updateLeases_ok retired).1
      have retires := leases_retired retired fun id l met => by
        simp only [Bool.and_eq_true, decide_eq_true_eq] at met
        exact met.1
      refine ⟨fun id => ?_, leases ▸ retires⟩
      rw [uploads, reads]
      cases db.uploads.get? id with
      | none => rfl
      | some u =>
        rw [Option.map_some]
        split
        · rename_i met
          simp only [Bool.and_eq_true, decide_eq_true_eq] at met
          exact ⟨rfl, rfl, rfl, .inr ⟨met.1, .inr rfl⟩⟩
        · exact Steady.refl (some u)

theorem expireOpen_ok (ran : expireOpen uploadID now db = .ok after) :
    (∀ id, Steady (db.uploads.get? id) (after.uploads.get? id)) ∧ after.leases = db.leases := by
  unfold expireOpen at ran
  generalize updated : updateUploads _ _ db = outcome at ran
  rcases outcome with refusal | ⟨n, closed⟩
  · cases ran
  · cases ran
    exact ⟨steady_close updated (fun row met => by simpa using met)
      fun row => ⟨rfl, rfl, rfl, .inr rfl⟩,
      (updateAt_ok updated).2.2.2⟩

/-- `AcknowledgeRemoved` deletes an aborted or expired row, or marks leases deleted. -/
theorem acknowledgeRemoved_ok (ran : acknowledgeRemoved uploadID now db = .ok after) :
    Acknowledged uploadID db after := by
  have deleted (id : String) : (db.uploads.deleteWhere (Table.at' uploadID fun row =>
        decide (row.state = .aborted) || decide (row.state = .expired))).1.get? id =
          db.uploads.get? id ∨ (id = uploadID ∧ (db.uploads.deleteWhere (Table.at' uploadID fun row =>
        decide (row.state = .aborted) || decide (row.state = .expired))).1.get? id = none ∧
          ∃ u, db.uploads.get? id = some u ∧ (u.state = .aborted ∨ u.state = .expired)) := by
    rw [Table.get?_deleteWhere]
    cases db.uploads.get? id with
    | none => exact .inl rfl
    | some u =>
      rw [Option.filter_some]
      split
      · exact .inl rfl
      · rename_i gone
        simp only [Table.at', Bool.not_eq_true, Bool.not_eq_false', Bool.and_eq_true,
          decide_eq_true_eq, Bool.or_eq_true] at gone
        exact .inr ⟨gone.1, rfl, u, rfl, gone.2⟩
  unfold acknowledgeRemoved at ran
  dsimp only at ran
  split at ran
  · cases ran
    exact ⟨deleted, fun id => .inl rfl⟩
  · simp only [bind, Except.bind] at ran
    generalize retired : updateLeases _ _ _ _ = outcome at ran
    rcases outcome with refusal | ⟨m, finish⟩
    · cases ran
    · cases ran
      obtain ⟨uploads, leases⟩ := updateLeases_ok retired
      refine ⟨fun id => uploads ▸ deleted id, fun id => ?_⟩
      rw [leases]
      cases held : db.leases.table.get? id with
      | none => exact .inl rfl
      | some l =>
        rw [Option.map_some]
        split
        · rename_i met
          simp only [Bool.and_eq_true, decide_eq_true_eq] at met
          exact .inr ⟨l, _, rfl, rfl, met.1, rfl, rfl, rfl, met.2, rfl⟩
        · exact .inl rfl

theorem revokeLease_ok {revoked : Bool} (ran : revokeLease installID leaseID db = .ok (revoked, after)) :
    after.uploads = db.uploads ∧
      ∀ id, Retired (db.leases.table.get? id) (after.leases.table.get? id) := by
  unfold revokeLease at ran
  generalize retired : updateLeases _ _ _ db = outcome at ran
  rcases outcome with refusal | ⟨m, finish⟩
  · cases ran
  · cases ran
    refine ⟨(updateLeases_ok retired).1, leases_retired retired fun id l met => ?_⟩
    simp only [Table.at', Bool.and_eq_true, decide_eq_true_eq] at met
    exact met.2.2

/-- A listed candidate is aborted, expired, or under an expired lease. -/
theorem mem_expiredFileIDs {id : String} (listed : id ∈ expiredFileIDs db) :
    ∃ v, db.uploads.get? id = some v ∧ (v.state = .aborted ∨ v.state = .expired ∨
      ∃ leaseID l, db.leases.table.get? leaseID = some l ∧ l.uploadID = id ∧ l.state = .expired) := by
  unfold expiredFileIDs at listed
  obtain ⟨⟨key, v⟩, kept, rfl⟩ := List.mem_map.mp listed
  obtain ⟨held, why⟩ := List.mem_filter.mp kept
  refine ⟨v, Table.get?_eq_some.mpr held, ?_⟩
  simp only [Bool.or_eq_true, decide_eq_true_eq, List.any_eq_true, Bool.and_eq_true] at why
  rcases why with (aborted | expired) | ⟨⟨leaseID, l⟩, member, named, retired⟩
  · exact .inl aborted
  · exact .inr (.inl expired)
  · exact .inr (.inr ⟨leaseID, l, Table.get?_eq_some.mpr member, named, retired⟩)

theorem mem_openUploads {row : String × Upload} (listed : row ∈ openUploads db) :
    db.uploads.get? row.1 = some row.2 :=
  Table.get?_eq_some.mpr (List.mem_filter.mp listed).1

/-- An upload has at most one lease. -/
theorem lease_unique {first second : String} {l m : Lease}
    (held : db.leases.table.get? first = some l) (also : db.leases.table.get? second = some m)
    (same : l.uploadID = m.uploadID) : first = second ∧ l = m :=
  Prod.mk.inj (List.inj_on_of_nodup_map db.leases.uploadIDs (Table.get?_eq_some.mp held)
    (Table.get?_eq_some.mp also) same)

end Operations
end AnselmGateway.MediaStoreSemantics
