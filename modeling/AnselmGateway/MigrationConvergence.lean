import AnselmGateway.Foundation.Resume
import AnselmGateway.Migrations

/-! All or nothing. What a start has committed is a beginning of the migrations that were
missing, each with its ledger row, wherever it was cut off. The next start takes up the
rest, so the starts together commit every missing body once. -/
namespace AnselmGateway.MigrationConvergence
open Foundation Migrations
variable {σ : Type}

/-! ## What is durable -/

/-- What a start finds of the one before it. -/
@[ext] structure View (σ : Type) where
  content : σ
  rows : List Record

def view (db : Database σ) : View σ := ⟨db.content, db.rows⟩

/-- The versions on the ledger, with their checksums. -/
def View.marks (v : View σ) : List (ℤ × String) := v.rows.map fun record => (record.version, record.checksum)

/-- One body was committed, together with its ledger row. -/
def Committed (engine : Engine σ) (v : View σ) (m : Migration) (after : View σ) : Prop :=
  ∃ content appliedAt, engine.exec m.body v.content = (.ok (), content) ∧
    after = ⟨content, v.rows ++ [⟨m.version, appliedAt, m.checksum⟩]⟩

/-- What is missing of these migrations, where these rows were found. -/
def missing (applied : List Record) (migs : List Migration) : List Migration :=
  migs.filter fun m => !applied.any fun record => record.version = m.version

/-- The migrations that the ledger has not. -/
def pending (migs : List Migration) (v : View σ) : List Migration := missing v.rows migs

/-- Every version of the ledger is embedded, with the checksum it was recorded with. -/
def Consistent (migs : List Migration) (v : View σ) : Prop :=
  ∀ record ∈ v.rows, ∃ m ∈ migs, m.version = record.version ∧ m.checksum = record.checksum

/-- The files have their versions to themselves, in ascending order. -/
def Ascending (migs : List Migration) : Prop := migs.Pairwise fun a b => a.version < b.version

/-! ## Loading -/

theorem loadEach_distinct {sha256 : Bytes → String} {entries : List DirEntry} {seen : List (ℤ × String)}
    {out migs : List Migration} (loaded : loadEach sha256 entries seen out = .ok migs)
    (fresh : ∀ m ∈ out, m.version ∈ seen.map Prod.fst) (distinct : (out.map Migration.version).Nodup) :
    (migs.map Migration.version).Nodup := by
  induction entries generalizing seen out with
  | nil =>
    cases loaded
    exact distinct
  | cons e entries ih =>
    rw [loadEach] at loaded
    split at loaded
    · exact ih loaded fresh distinct
    · split at loaded
      · cases loaded
      · rename_i version _
        split at loaded
        · cases loaded
        · rename_i unseen
          rw [List.find?_eq_none] at unseen
          refine ih loaded (fun m member => ?_) ?_
          · rcases List.mem_append.mp member with old | new
            · exact List.mem_cons_of_mem _ (fresh m old)
            · rw [List.mem_singleton] at new
              rw [new]
              exact List.mem_cons_self
          · rw [List.map_append, List.nodup_append]
            refine ⟨distinct, by simp, fun other old _ new same => ?_⟩
            obtain ⟨m, member, rfl⟩ := List.mem_map.mp old
            rw [List.map_singleton, List.mem_singleton] at new
            obtain ⟨entry, listed, at_⟩ := List.mem_map.mp (fresh m member)
            exact unseen entry listed (by simp [at_, same, new])

/-- The files are loaded in the order of their versions. -/
theorem loadMigrations_ascending {sha256 : Bytes → String} {entries : List DirEntry}
    {migs : List Migration} (loaded : loadMigrations sha256 entries = .ok migs) : Ascending migs := by
  unfold loadMigrations at loaded
  split at loaded
  · cases loaded
  · rename_i out loaded'
    cases loaded
    have distinct := loadEach_distinct loaded' (fun _ member => nomatch member) List.nodup_nil
    have total : Std.Total fun a b : Migration => a.version ≤ b.version :=
      ⟨fun a b => le_total a.version b.version⟩
    have trans : IsTrans Migration fun a b => a.version ≤ b.version := ⟨fun _ _ _ => le_trans⟩
    have sorted := List.pairwise_insertionSort (fun a b : Migration => a.version ≤ b.version) out
    have apart : (out.insertionSort fun a b => a.version ≤ b.version).Pairwise
        fun a b => a.version ≠ b.version :=
      List.pairwise_map.mp (((List.perm_insertionSort _ out).map _).nodup_iff.mpr distinct)
    exact (sorted.and apart).imp fun both => lt_of_le_of_ne both.1 both.2

/-! ## The checks -/

section Checks
variable {migs : List Migration}

theorem Ascending.distinct (ascending : Ascending migs) : (migs.map Migration.version).Nodup :=
  List.pairwise_map.mpr (ascending.imp ne_of_lt)

/-- The checks pass on a ledger that agrees with the files, and on no other. -/
theorem verify_ok (ascending : Ascending migs) {records : List Record} :
    verify migs records = .ok () ↔
      ∀ record ∈ records, ∃ m ∈ migs, m.version = record.version ∧ m.checksum = record.checksum := by
  induction records with
  | nil => exact ⟨fun _ => nofun, fun _ => rfl⟩
  | cons record rest ih =>
    rw [verify, List.forall_mem_cons]
    cases found : migs.find? fun m => m.version = record.version with
    | none =>
      rw [List.find?_eq_none] at found
      refine ⟨nofun, ?_⟩
      rintro ⟨⟨m, member, same, _⟩, _⟩
      exact absurd (decide_eq_true same) (found m member)
    | some m =>
      have member := List.mem_of_find?_eq_some found
      have same : m.version = record.version := by simpa using List.find?_some found
      dsimp only
      by_cases drift : record.checksum = m.checksum
      · rw [if_neg (not_not.mpr drift), ih]
        exact ⟨fun rest => ⟨⟨m, member, same, drift.symm⟩, rest⟩, And.right⟩
      · rw [if_pos drift]
        refine ⟨nofun, ?_⟩
        rintro ⟨⟨other, member', same', agrees⟩, _⟩
        obtain rfl := List.inj_on_of_nodup_map ascending.distinct member member' (same.trans same'.symm)
        exact absurd agrees.symm drift

/-- The map may be ranged over in any order. -/
theorem verify_range (ascending : Ascending migs) {db : Database σ} (start : Start σ) :
    verify migs (start.range db.rows) = .ok () ↔ Consistent migs (view db) := by
  rw [verify_ok ascending]
  exact forall_congr' fun record => by rw [(start.rangePerm db.rows).mem_iff]; rfl

end Checks

/-! ## One migration -/

section Apply
variable {engine : Engine σ} {start : Start σ} {m : Migration} {db after : Database σ}

theorem reach_eq (moment : Moment) : reach start moment db =
    match start.faults moment with
    | none => (.ok (), db)
    | some fault => (.error (.halted moment fault), db) := by
  unfold reach
  cases start.faults moment <;> rfl

theorem reach_ok {moment : Moment} (ran : reach start moment db = (.ok (), after)) : after = db := by
  rw [reach_eq] at ran
  split at ran <;> cases ran
  rfl

theorem execBody_ok (ran : execBody engine start m db = (.ok (), after)) :
    ∃ content, engine.exec m.body db.content = (.ok (), content) ∧ after = { db with content := content } := by
  unfold execBody at ran
  split at ran
  · cases ran
  · split at ran
    · cases ran
    · rename_i content executed
      cases ran
      exact ⟨content, executed, rfl⟩

theorem insertRecord_ok (ran : insertRecord start m db = (.ok (), after)) :
    view after = ⟨db.content, db.rows ++ [⟨m.version, start.clock m.version, m.checksum⟩]⟩ := by
  obtain ⟨⟨⟩, reached, passed, inserted⟩ := Tx.bind_ok.mp ran
  obtain rfl := reach_ok passed
  split at inserted
  · cases inserted
  · rename_i ledger held
    dsimp only at inserted
    split at inserted
    · cases inserted
      simp [view, Database.rows, held, Ledger.insert]
    · cases inserted

/-- The body and the row, before the commit. -/
theorem applied_ok (ran : (do execBody engine start m; insertRecord start m : StartTx σ Unit) db =
    (.ok (), after)) : Committed engine (view db) m (view after) := by
  obtain ⟨⟨⟩, middle, body, insert⟩ := Tx.bind_ok.mp ran
  obtain ⟨content, executed, rfl⟩ := execBody_ok body
  exact ⟨content, start.clock m.version, executed, insertRecord_ok insert⟩

/-- A migration is committed with its row, or nothing of it is; a start that goes on has
committed it. -/
theorem applyOne_effect {result : Except MigrateError Unit}
    (ran : applyOne engine start m db = (result, after)) :
    (view after = view db ∧ result ≠ .ok ()) ∨ Committed engine (view db) m (view after) := by
  unfold applyOne transaction at ran
  split at ran
  · cases ran
    exact .inl ⟨rfl, nofun⟩
  · split at ran
    · cases ran
      exact .inl ⟨rfl, nofun⟩
    · rename_i applied
      have committed := applied_ok applied
      split at ran
      · cases ran
        exact .inl ⟨rfl, nofun⟩
      · split at ran
        · cases ran
          exact .inr committed
        · cases ran
          exact .inr committed

/-- The loop commits a beginning of what is missing, and all of it if it comes to its end. -/
theorem applyEach_effect {applied : List Record} {migs : List Migration}
    {result : Except MigrateError Unit} (ran : applyEach engine start applied migs db = (result, after)) :
    ∃ did left, missing applied migs = did ++ left ∧
      Advanced (Committed engine) (view db) did (view after) ∧ (result = .ok () → left = []) := by
  induction migs generalizing db with
  | nil =>
    cases ran
    exact ⟨[], [], rfl, .stay, fun _ => rfl⟩
  | cons m migs ih =>
    rw [applyEach] at ran
    by_cases done : (applied.any fun record => record.version = m.version) = true
    · simp only [done, if_true] at ran
      rw [missing, List.filter_cons_of_neg (by simp [done])]
      exact ih ran
    · simp only [done, if_false, Bool.false_eq_true] at ran
      rw [missing, List.filter_cons_of_pos (by simp [done])]
      rcases one : applyOne engine start m db with ⟨error | ⟨⟩, middle⟩
      · rw [Tx.bind_failure.mpr (.inl one)] at ran
        cases ran
        rcases applyOne_effect one with ⟨same, _⟩ | committed
        · exact ⟨[], _, rfl, by rw [same]; exact .stay, nofun⟩
        · exact ⟨[m], _, rfl, .step committed .stay, nofun⟩
      · rw [Tx.bind_of_ok one] at ran
        rcases applyOne_effect one with ⟨_, wrong⟩ | committed
        · exact absurd rfl wrong
        · obtain ⟨did, left, split, advanced, complete⟩ := ih ran
          exact ⟨m :: did, left, congrArg (m :: ·) split, .step committed advanced, complete⟩

end Apply

/-! ## What is left -/

section Left
variable {engine : Engine σ} {migs did left : List Migration} {v after : View σ}

theorem mem_pending {m : Migration} :
    m ∈ pending migs v ↔ m ∈ migs ∧ ∀ record ∈ v.rows, record.version ≠ m.version := by
  simp [pending, missing]

/-- Every commit has left its row. -/
theorem advanced_rows (advanced : Advanced (Committed engine) v did after) :
    ∃ records, after.rows = v.rows ++ records ∧
      records.map (fun record => (record.version, record.checksum)) =
        did.map fun m => (m.version, m.checksum) := by
  induction advanced with
  | stay => exact ⟨[], (List.append_nil _).symm, rfl⟩
  | @step v next last m rest commit _ ih =>
    obtain ⟨content, appliedAt, _, rfl⟩ := commit
    obtain ⟨records, same, marks⟩ := ih
    refine ⟨⟨m.version, appliedAt, m.checksum⟩ :: records, by rw [same, List.append_assoc]; rfl, ?_⟩
    rw [List.map_cons, List.map_cons, marks]

theorem pending_advanced (ascending : Ascending migs) (split : pending migs v = did ++ left)
    (advanced : Advanced (Committed engine) v did after) : pending migs after = left := by
  obtain ⟨records, same, marks⟩ := advanced_rows advanced
  have versions : records.map Record.version = did.map Migration.version := by
    simpa only [List.map_map, Function.comp_def] using congrArg (List.map Prod.fst) marks
  have again : pending migs after =
      (pending migs v).filter fun m => decide (m.version ∉ did.map Migration.version) := by
    unfold pending missing
    rw [List.filter_filter, same, ← versions]
    congr 1
    funext m
    have recorded : (records.any fun record => record.version = m.version) =
        decide (m.version ∈ records.map Record.version) := by
      rw [Bool.eq_iff_iff]
      simp
    rw [List.any_append, Bool.not_or, recorded, Bool.and_comm, decide_not]
  have distinct : ((did ++ left).map Migration.version).Nodup := by
    rw [← split]
    exact (List.filter_sublist.map _).nodup ascending.distinct
  rw [List.map_append, List.nodup_append] at distinct
  rw [again, split, List.filter_append]
  have gone : did.filter (fun m => decide (m.version ∉ did.map Migration.version)) = [] := by
    rw [List.filter_eq_nil_iff]
    intro m member new
    exact of_decide_eq_true new (List.mem_map_of_mem member)
  have stays : left.filter (fun m => decide (m.version ∉ did.map Migration.version)) = left := by
    rw [List.filter_eq_self]
    intro m member
    refine decide_eq_true fun old => ?_
    exact distinct.2.2 _ old _ (List.mem_map_of_mem member) rfl
  rw [gone, stays, List.nil_append]

theorem consistent_advanced (split : pending migs v = did ++ left) (consistent : Consistent migs v)
    (advanced : Advanced (Committed engine) v did after) : Consistent migs after := by
  obtain ⟨records, same, marks⟩ := advanced_rows advanced
  intro record member
  rw [same] at member
  rcases List.mem_append.mp member with old | new
  · exact consistent record old
  · have marked : (record.version, record.checksum) ∈ did.map fun m => (m.version, m.checksum) := by
      rw [← marks]
      exact List.mem_map.mpr ⟨record, new, rfl⟩
    obtain ⟨m, member, mark⟩ := List.mem_map.mp marked
    obtain ⟨version, checksum⟩ := Prod.mk.inj mark
    have listed : m ∈ pending migs v := by
      rw [split]
      exact List.mem_append_left _ member
    exact ⟨m, (mem_pending.mp listed).1, version, checksum⟩

end Left

/-! ## One start -/

section Start
variable {engine : Engine σ} {entries : List DirEntry} {migs : List Migration} {start : Start σ}
  {db after : Database σ}

theorem ensureMigrationsTable_view {result : Except MigrateError Unit}
    (ran : ensureMigrationsTable start db = (result, after)) : view after = view db := by
  rcases result with error | ⟨⟩
  · rcases Tx.bind_failure.mp ran with failed | ⟨_, _, _, created⟩
    · rw [reach_eq] at failed
      split at failed <;> cases failed
      rfl
    · cases created
  · obtain ⟨_, _, passed, created⟩ := Tx.bind_ok.mp ran
    rw [reach_ok passed] at created
    cases created
    cases held : db.ledger <;> simp [view, Database.rows, held, Ledger.empty]

theorem appliedMigrations_ok {applied : List Record}
    (ran : appliedMigrations start db = (.ok applied, after)) : after = db ∧ applied = db.rows := by
  obtain ⟨_, _, passed, scanned⟩ := Tx.bind_ok.mp ran
  obtain rfl := reach_ok passed
  cases scanned
  exact ⟨rfl, rfl⟩

theorem appliedMigrations_failed {error : MigrateError}
    (ran : appliedMigrations start db = (.error error, after)) : after = db := by
  rcases Tx.bind_failure.mp ran with failed | ⟨_, _, _, scanned⟩
  · rw [reach_eq] at failed
    split at failed <;> cases failed
    rfl
  · cases scanned

/-- A start is refused or cut off before it changes anything, or it finds the ledger in
order and commits a beginning of what is missing. -/
theorem migrate_effect (loaded : loadMigrations engine.sha256 entries = .ok migs)
    {result : Except MigrateError Unit} (ran : migrate engine entries start db = (result, after)) :
    (view after = view db ∧ result ≠ .ok ()) ∨
    (Consistent migs (view db) ∧ ∃ did left, pending migs (view db) = did ++ left ∧
      Advanced (Committed engine) (view db) did (view after) ∧ (result = .ok () → left = [])) := by
  unfold migrate at ran
  rw [Tx.bind_of_ok (Tx.ofExcept_ok.mpr ⟨loaded, rfl⟩)] at ran
  rcases ensured : ensureMigrationsTable start db with ⟨error | ⟨⟩, created⟩
  · rw [Tx.bind_failure.mpr (.inl ensured)] at ran
    cases ran
    exact .inl ⟨ensureMigrationsTable_view ensured, nofun⟩
  · rw [Tx.bind_of_ok ensured] at ran
    have same := ensureMigrationsTable_view ensured
    rw [← same]
    rcases scanned : appliedMigrations start created with ⟨error | applied, found⟩
    · rw [Tx.bind_failure.mpr (.inl scanned)] at ran
      cases ran
      obtain rfl := appliedMigrations_failed scanned
      exact .inl ⟨rfl, nofun⟩
    · rw [Tx.bind_of_ok scanned] at ran
      obtain ⟨rfl, rfl⟩ := appliedMigrations_ok scanned
      have checks : verify migs (start.range found.rows) = .ok () ↔ Consistent migs (view found) :=
        verify_range (loadMigrations_ascending loaded) start
      cases verified : verify migs (start.range found.rows) with
      | error error =>
        rw [verified] at ran
        cases ran
        exact .inl ⟨rfl, nofun⟩
      | ok _ =>
        rw [verified] at ran
        exact .inr ⟨checks.mp verified, applyEach_effect ran⟩

/-- A ledger that disagrees with the files stops every start. -/
theorem restart_refused (loaded : loadMigrations engine.sha256 entries = .ok migs)
    (drift : ¬Consistent migs (view db)) :
    view (restart engine entries db start) = view db ∧ (migrate engine entries start db).1 ≠ .ok () := by
  rcases migrate_effect loaded (Prod.mk.eta.symm : migrate engine entries start db = _) with
    refused | ⟨consistent, _⟩
  · exact refused
  · exact absurd consistent drift

/-- One that agrees is resumed. -/
theorem restart_resumes (loaded : loadMigrations engine.sha256 entries = .ok migs) :
    Resumes (Committed engine) view (restart engine entries) (pending migs) (Consistent migs) := by
  intro db start consistent
  rcases migrate_effect loaded (Prod.mk.eta.symm : migrate engine entries start db = _) with
    ⟨same, _⟩ | ⟨_, did, left, split, advanced, _⟩
  · unfold restart
    rw [same]
    exact ⟨consistent, [], rfl, .stay⟩
  · refine ⟨consistent_advanced split consistent advanced, did, ?_, advanced⟩
    unfold restart
    rw [pending_advanced (loadMigrations_ascending loaded) split advanced, split]

/-- A start that reports no error has left nothing. -/
theorem restart_complete (loaded : loadMigrations engine.sha256 entries = .ok migs)
    (ran : (migrate engine entries start db).1 = .ok ()) :
    pending migs (view (restart engine entries db start)) = [] := by
  rcases migrate_effect loaded (Prod.mk.eta.symm : migrate engine entries start db = _) with
    ⟨_, wrong⟩ | ⟨_, did, left, split, advanced, complete⟩
  · exact absurd ran wrong
  · unfold restart
    rw [pending_advanced (loadMigrations_ascending loaded) split advanced, complete ran]

end Start

/-! ## Convergence -/

/-- What one migration makes of the content and the marks. -/
def migrated (engine : Engine σ) (summary : σ × List (ℤ × String)) (m : Migration) :
    Option (σ × List (ℤ × String)) :=
  match engine.exec m.body summary.1 with
  | (.ok (), content) => some (content, summary.2 ++ [(m.version, m.checksum)])
  | (.error _, _) => none

/-- What is there apart from the times at which it came. -/
def View.summary (v : View σ) : σ × List (ℤ × String) := (v.content, v.marks)

theorem committed_migrated {engine : Engine σ} {v after : View σ} {m : Migration}
    (committed : Committed engine v m after) : migrated engine v.summary m = some after.summary := by
  obtain ⟨content, appliedAt, executed, rfl⟩ := committed
  simp [migrated, View.summary, View.marks, executed]

section Complete
variable {engine : Engine σ} {start : Start σ} {db : Database σ}

/-- Without a cut, a body that applies is committed. -/
theorem applyOne_succeeds {m : Migration} {content : σ} {ledger : Ledger}
    (steady : ∀ moment, start.faults moment = none) (held : db.ledger = some ledger)
    (fresh : m.version ∉ ledger.rows.map Record.version)
    (executed : engine.exec m.body db.content = (.ok (), content)) :
    applyOne engine start m db = (.ok (), ⟨content, some (ledger.insert
      ⟨m.version, start.clock m.version, m.checksum⟩ fresh)⟩) := by
  have body : execBody engine start m db = (.ok (), { db with content := content }) := by
    simp [execBody, steady, executed]
  have passed : reach start (.record m.version) { db with content := content } =
      (.ok (), { db with content := content }) := by
    simp [reach_eq, steady]
  have row : insertRecord start m { db with content := content } = (.ok (), ⟨content, some (ledger.insert
      ⟨m.version, start.clock m.version, m.checksum⟩ fresh)⟩) := by
    refine Tx.bind_ok.mpr ⟨(), _, passed, ?_⟩
    simp only [held]
    rw [dif_pos fresh]
  unfold applyOne transaction
  rw [Tx.bind_of_ok body, row]
  simp [steady]

theorem applyEach_succeeds {applied : List Record} {migs : List Migration} {ledger : Ledger}
    (steady : ∀ moment, start.faults moment = none) (held : db.ledger = some ledger)
    (ascending : Ascending migs)
    (fresh : ∀ m ∈ missing applied migs, m.version ∉ ledger.rows.map Record.version)
    (applies : ((missing applied migs).foldlM (migrated engine) (view db).summary).isSome = true) :
    ∃ after, applyEach engine start applied migs db = (.ok (), after) := by
  induction migs generalizing db ledger with
  | nil => exact ⟨db, rfl⟩
  | cons m migs ih =>
    have ascending' := List.Pairwise.of_cons ascending
    rw [applyEach]
    by_cases done : (applied.any fun record => record.version = m.version) = true
    · have same : missing applied (m :: migs) = missing applied migs :=
        List.filter_cons_of_neg (by simp [done])
      rw [same] at fresh applies
      simp only [done, if_true]
      exact ih held ascending' fresh applies
    · have same : missing applied (m :: migs) = m :: missing applied migs :=
        List.filter_cons_of_pos (by simp [done])
      rw [same] at fresh applies
      have new := fresh m List.mem_cons_self
      rw [List.foldlM_cons] at applies
      rcases executed : engine.exec m.body db.content with ⟨error | ⟨⟩, content⟩
      · have refused : migrated engine (view db).summary m = none := by
          simp [migrated, View.summary, view, executed]
        rw [refused] at applies
        cases applies
      · have next : migrated engine (view db).summary m =
            some (content, (view db).marks ++ [(m.version, m.checksum)]) := by
          simp [migrated, View.summary, view, executed]
        rw [next] at applies
        have one := applyOne_succeeds steady held new executed
        simp only [done, if_false, Bool.false_eq_true]
        rw [Tx.bind_of_ok one]
        refine ih rfl ascending' (fun other member => ?_) ?_
        · have later : m.version < other.version :=
            List.rel_of_pairwise_cons ascending (List.mem_of_mem_filter member)
          simp only [Ledger.insert, List.map_append, List.map_singleton, List.mem_append,
            List.mem_singleton, not_or]
          exact ⟨fresh other (List.mem_cons_of_mem _ member), later.ne'⟩
        · simpa [View.summary, View.marks, view, Database.rows, held, Ledger.insert] using applies

end Complete

/-- What these files make of any ledger, wherever the starts are cut off. -/
structure AllOrNothing (engine : Engine σ) (entries : List DirEntry) (migs : List Migration) : Prop where
  ascending : Ascending migs
  /-- A ledger that disagrees with the files stays as it is. -/
  refuses : ∀ db starts, ¬Consistent migs (view db) →
    view (runSteps (restart engine entries) db starts) = view db ∧
      ∀ start, (migrate engine entries start db).1 ≠ .ok ()
  /-- Else any number of starts has committed a beginning of what was missing, and the rest
  is missing still. -/
  resumes : ∀ db starts, Consistent migs (view db) →
    ∃ did, pending migs (view db) =
        did ++ pending migs (view (runSteps (restart engine entries) db starts)) ∧
      Advanced (Committed engine) (view db) did (view (runSteps (restart engine entries) db starts))
  /-- A start that succeeds has left nothing. -/
  complete : ∀ db start, (migrate engine entries start db).1 = .ok () →
    pending migs (view (restart engine entries db start)) = []
  /-- Where nothing is missing any more, it does not matter what came between. -/
  converges : ∀ db starts starts', Consistent migs (view db) →
    pending migs (view (runSteps (restart engine entries) db starts)) = [] →
    pending migs (view (runSteps (restart engine entries) db starts')) = [] →
    (view (runSteps (restart engine entries) db starts)).summary =
      (view (runSteps (restart engine entries) db starts')).summary
  /-- A start that is not cut off succeeds, if the bodies apply. -/
  succeeds : ∀ db start, Consistent migs (view db) → (∀ moment, start.faults moment = none) →
    ((pending migs (view db)).foldlM (migrated engine) (view db).summary).isSome = true →
    (migrate engine entries start db).1 = .ok ()

theorem migrate_succeeds {engine : Engine σ} {entries : List DirEntry} {migs : List Migration}
    {db : Database σ} {start : Start σ} (loaded : loadMigrations engine.sha256 entries = .ok migs)
    (consistent : Consistent migs (view db)) (steady : ∀ moment, start.faults moment = none)
    (applies : ((pending migs (view db)).foldlM (migrated engine) (view db).summary).isSome = true) :
    (migrate engine entries start db).1 = .ok () := by
  have ascending := loadMigrations_ascending loaded
  have reached (moment : Moment) (db : Database σ) : reach start moment db = (.ok (), db) := by
    rw [reach_eq, steady]
  let ledger := db.ledger.getD .empty
  let created : Database σ := { db with ledger := some ledger }
  have rows : created.rows = db.rows := by
    cases held : db.ledger <;> simp [created, ledger, Database.rows, held, Ledger.empty]
  have ensured : ensureMigrationsTable start db = (.ok (), created) :=
    Tx.bind_ok.mpr ⟨(), db, reached _ _, rfl⟩
  have scanned : appliedMigrations start created = (.ok created.rows, created) :=
    Tx.bind_ok.mpr ⟨(), created, reached _ _, rfl⟩
  have same : view created = view db := by
    rw [view, rows]
    rfl
  have verified : verify migs (start.range created.rows) = .ok () :=
    (verify_range ascending start).mpr (by rwa [same])
  have fresh (m : Migration) (member : m ∈ missing created.rows migs) :
      m.version ∉ ledger.rows.map Record.version := by
    intro old
    obtain ⟨record, listed, at_⟩ := List.mem_map.mp old
    exact (mem_pending.mp (show m ∈ pending migs (view created) from member)).2 record listed at_
  obtain ⟨after, ran⟩ := applyEach_succeeds steady rfl ascending fresh (by
    rw [same]
    simpa only [pending, view, rows] using applies)
  unfold migrate
  rw [Tx.bind_of_ok (Tx.ofExcept_ok.mpr ⟨loaded, rfl⟩), Tx.bind_of_ok ensured, Tx.bind_of_ok scanned,
    Tx.bind_of_ok (Tx.ofExcept_ok.mpr ⟨verified, rfl⟩), ran]

/-- **Migrations are all or nothing, and converge.** -/
theorem migrations_converge {engine : Engine σ} {entries : List DirEntry} {migs : List Migration}
    (loaded : loadMigrations engine.sha256 entries = .ok migs) : AllOrNothing engine entries migs where
  ascending := loadMigrations_ascending loaded
  refuses db starts drift := by
    refine ⟨?_, fun start => (restart_refused loaded drift).2⟩
    induction starts generalizing db with
    | nil => rfl
    | cons start rest ih =>
      have same : view (restart engine entries db start) = view db := (restart_refused loaded drift).1
      rw [runSteps_cons, ih _ (by rwa [same]), same]
  resumes db starts consistent := ((restart_resumes loaded).run consistent starts).2
  complete db start ran := restart_complete loaded ran
  converges db starts starts' consistent done done' := by
    obtain ⟨did, split, advanced⟩ := ((restart_resumes loaded).run consistent starts).2
    obtain ⟨did', split', advanced'⟩ := ((restart_resumes loaded).run consistent starts').2
    rw [done, List.append_nil] at split
    rw [done', List.append_nil] at split'
    have whole := advanced.foldlM committed_migrated
    have whole' := advanced'.foldlM committed_migrated
    rw [← split] at whole
    rw [← split', whole] at whole'
    exact Option.some.inj whole'
  succeeds db start consistent steady applies := migrate_succeeds loaded consistent steady applies

/-- A database that only remembers which bodies were committed. -/
def recorder : Engine (List Bytes) := ⟨fun body content => (.ok (), content ++ [body]), fun _ => "sum"⟩

def files : List DirEntry :=
  [⟨"0002_usage.sql", false, utf8 "B"⟩, ⟨"0001_init.sql", false, utf8 "A"⟩, ⟨"README.md", false, []⟩]

theorem migrations_converge_files : AllOrNothing recorder files
    [⟨1, "0001_init.sql", utf8 "A", "sum"⟩, ⟨2, "0002_usage.sql", utf8 "B", "sum"⟩] :=
  migrations_converge (by decide +kernel)

/-- A start that is cut off at one moment, if at any. -/
def startUntil (cut : Option Moment) : Start (List Bytes) where
  faults moment := if cut = some moment then some .stops else none
  torn _ content := content ++ [[]]
  range records := records
  rangePerm _ := .rfl
  clock _ := 0

example : (runSteps (restart recorder files) ⟨[], none⟩
    [startUntil (some (.body 1)), startUntil (some (.committed 1)), startUntil none, startUntil none]).content =
      [utf8 "A", utf8 "B"] := by decide +kernel

end AnselmGateway.MigrationConvergence
