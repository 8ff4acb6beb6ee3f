import AnselmGateway.Foundation.WindowTally
import AnselmGateway.InstallStore

/-! What one issuance does to the install tables. A gate touches the table it
counts in and no other; the transaction either recovers an existing id, leaves
everything as it was, or passes every enabled gate and inserts one install. -/
namespace AnselmGateway.InstallStoreSemantics
open Foundation InstallStore

section Statements
variable {κ ν : Type} {schema : Schema κ ν} {db after : Database}

theorem exec_ok {part : Part Database (Table schema)}
    {statement : Table schema → Except Refusal (Table schema × ℕ)} {count : ℕ} :
    exec part statement db = (.ok count, after) ↔
      ∃ table, statement (part.get db) = .ok (table, count) ∧ after = part.set table db := by
  unfold exec
  rcases statement (part.get db) with refusal | ⟨table, affected⟩
  · simp
  · simp only [Prod.mk.injEq, Except.ok.injEq]
    constructor
    · rintro ⟨rfl, rfl⟩
      exact ⟨table, ⟨rfl, rfl⟩, rfl⟩
    · rintro ⟨_, ⟨rfl, rfl⟩, rfl⟩
      exact ⟨rfl, rfl⟩

theorem prune_ok {part : Part Database (Table schema)} {stale : κ → Bool} :
    prune part stale db = (.ok (), after) ↔
      after = part.set ((part.get db).deleteWhere fun key _ => stale key).1 db := by
  unfold prune
  rw [Tx.bind_ok]
  constructor
  · rintro ⟨_, middle, ran, done⟩
    obtain ⟨table, deleted, rfl⟩ := exec_ok.mp ran
    cases deleted
    cases done
    rfl
  · rintro rfl
    exact ⟨_, _, exec_ok.mpr ⟨_, rfl, rfl⟩, rfl⟩

/-- A statement on one table keeps every view of the others. -/
theorem keeps_exec {τ : Type} {view : Database → τ} {part : Part Database (Table schema)}
    {statement : Table schema → Except Refusal (Table schema × ℕ)}
    (elsewhere : ∀ table db, view (part.set table db) = view db) :
    Tx.Keeps view (exec part statement) := by
  intro db
  unfold exec
  rcases statement (part.get db) with refusal | ⟨table, count⟩
  · rfl
  · exact elsewhere table db

theorem keeps_prune {τ : Type} {view : Database → τ} {part : Part Database (Table schema)}
    {stale : κ → Bool} (elsewhere : ∀ table db, view (part.set table db) = view db) :
    Tx.Keeps view (prune part stale) :=
  (keeps_exec elsewhere).bind fun _ => Tx.keeps_pure _

theorem keeps_bumpWindow {τ : Type} [DecidableEq κ] {schema : Schema κ ℤ} {view : Database → τ}
    {part : Part Database (Table schema)} {key : κ} {max : ℤ}
    (elsewhere : ∀ table db, view (part.set table db) = view db) :
    Tx.Keeps view (bumpWindow part key max) :=
  (keeps_exec elsewhere).bind fun _ => (keeps_exec elsewhere).bind fun _ => Tx.keeps_pure _

theorem keeps_pass {τ : Type} {view : Database → τ} {enabled : Bool} {gate : Gate}
    {bump : StoreTx Bool} (bumps : Tx.Keeps view bump) : Tx.Keeps view (pass enabled gate bump) := by
  refine Tx.Keeps.bind ?_ fun ok => ?_
  · unfold verdict
    split
    · exact bumps
    · exact Tx.keeps_pure _
  · split
    · exact Tx.keeps_pure _
    · exact Tx.keeps_fail _

/-- The first two gates count in their own tables. -/
theorem keeps_passAddressGates (p : IssueParams) :
    Tx.Keeps (fun db => (db.installs, db.installFPRate)) (passAddressGates p) := by
  refine Tx.Keeps.bind (keeps_pass ?_) fun _ => keeps_pass ?_
  · exact (keeps_prune fun _ _ => rfl).bind fun _ => keeps_bumpWindow fun _ _ => rfl
  · exact (keeps_prune fun _ _ => rfl).bind fun _ => keeps_bumpWindow fun _ _ => rfl

theorem passAddressGates_kept {p : IssueParams} {db reached : Database}
    (ran : passAddressGates p db = (.ok (), reached)) :
    reached.installs = db.installs ∧ reached.installFPRate = db.installFPRate := by
  have kept := keeps_passAddressGates p db
  rw [ran] at kept
  exact Prod.mk.inj kept

end Statements

/-! ## The counted windows -/

section Windows
variable {κ : Type} [DecidableEq κ] {schema : Schema κ ℤ} {db after : Database}

/-- A bump that is let through adds one to its window, below the bound, and
leaves every other window as it was. -/
theorem bumpWindow_ok {part : Part Database (Table schema)} {key : κ} {max : ℤ}
    (unchecked : schema.check key 0 = true)
    (ran : bumpWindow part key max db = (.ok true, after)) :
    (part.get after).get? key = some (((part.get db).get? key).getD 0 + 1) ∧
      ((part.get db).get? key).getD 0 < max ∧
      ∀ other, other ≠ key → (part.get after).get? other = (part.get db).get? other := by
  unfold bumpWindow at ran
  obtain ⟨_, middle, opened, rest⟩ := Tx.bind_ok.mp ran
  obtain ⟨table, inserted, rfl⟩ := exec_ok.mp opened
  obtain ⟨count, written, bumped, done⟩ := Tx.bind_ok.mp rest
  obtain ⟨stored, updated, rfl⟩ := exec_ok.mp bumped
  have opening : (part.get db).insertOrIgnore key 0 = .ok table := by
    cases outcome : (part.get db).insertOrIgnore key 0 with
    | error refusal =>
      rw [outcome] at inserted
      cases inserted
    | ok first =>
      rw [outcome] at inserted
      cases inserted
      rfl
  have reads := Table.get?_insertOrIgnore unchecked opening
  have held : table.get? key = some (((part.get db).get? key).getD 0) := by rw [reads, if_pos rfl]
  rw [part.get_set] at updated
  have finish : part.get after = stored := by
    rw [← (Prod.mk.inj done).2, part.get_set]
  rw [finish]
  -- The driver reports an affected row exactly if the stored count is below the bound.
  have positive : 0 < count := by
    have answer : decide (0 < count) = true := Except.ok.inj (Prod.mk.inj done).1
    exact of_decide_eq_true answer
  have counted := Table.count_updateAt updated
  rw [held, Option.any_some] at counted
  have met : decide (((part.get db).get? key).getD 0 < max) = true := by
    by_contra failed
    rw [if_neg failed] at counted
    omega
  have writes := Table.get?_updateAt updated held met
  refine ⟨by rw [writes, if_pos rfl], of_decide_eq_true met, fun other apart => ?_⟩
  rw [writes, if_neg apart, reads, if_neg apart]

/-- Pruning stale windows and then bumping the current one is one charge. -/
theorem bump_charged {ω : Type} [LT ω] {window : κ → ω} {part : Part Database (Table schema)}
    {stale : κ → Bool} {key : κ} {max : ℤ} (unchecked : schema.check key 0 = true)
    (current : stale key = false) (earlier : ∀ other, stale other = true → window other < window key)
    (ran : (do prune part stale; bumpWindow part key max : StoreTx Bool) db = (.ok true, after)) :
    Charged window (part.get db).get? (part.get after).get? key max := by
  obtain ⟨_, middle, pruned, bumped⟩ := Tx.bind_ok.mp ran
  obtain rfl := prune_ok.mp pruned
  obtain ⟨own, below, others⟩ := bumpWindow_ok unchecked bumped
  rw [part.get_set] at own below others
  have kept : ((part.get db).deleteWhere fun key _ => stale key).1.get? key =
      (part.get db).get? key := by
    rw [Table.get?_deleteWhere]
    cases (part.get db).get? key <;> simp [current]
  rw [kept] at own below
  refine ⟨own, by omega, fun other apart => ?_⟩
  rw [others other apart, Table.get?_deleteWhere]
  cases old : stale other with
  | false =>
    left
    cases (part.get db).get? other <;> simp
  | true =>
    right
    exact ⟨by cases (part.get db).get? other <;> simp, earlier other old⟩

theorem bumpIPRate_charged {g : IPGate} (ran : bumpIPRate g db = (.ok true, after)) :
    Charged Prod.snd db.installIPRate.get? after.installIPRate.get? (g.key, g.windowHour) g.max := by
  refine bump_charged rfl (by simp) (fun other old => ?_) ran
  exact of_decide_eq_true (Bool.and_eq_true_iff.mp old).2

theorem bumpGlobalRate_charged {g : GlobalGate} (ran : bumpGlobalRate g db = (.ok true, after)) :
    Charged id db.installGlobalRate.get? after.installGlobalRate.get? g.windowDay g.cap :=
  bump_charged rfl (by simp) (fun _ old => of_decide_eq_true old) ran

end Windows

/-! ## The fingerprint gate -/

section FPGate
variable {g : FPGate} {db after : Database} {admitted : Bool}

private theorem bumpFPRate_statements (ran : bumpFPRate g db = (.ok admitted, after)) :
    ∃ pruned : Table fpRateSchema, ∃ count,
      (∀ key, pruned.get? key = (db.installFPRate.get? key).filter fun _ =>
        !(decide (key.1 = g.fpSHA256) && decide (key.2 < g.windowDay))) ∧
      pruned.upsertWhere (g.fpSHA256, g.windowDay) ⟨1, g.cutoff⟩
        (fun row => decide (row.count < g.cap) && decide (row.lastAt < g.cutoff))
        (fun row => ⟨row.count + 1, g.cutoff⟩) = .ok (after.installFPRate, count) ∧
      admitted = decide (0 < count) := by
  unfold bumpFPRate at ran
  obtain ⟨_, middle, pruned, rest⟩ := Tx.bind_ok.mp ran
  obtain rfl := prune_ok.mp pruned
  obtain ⟨count, written, upserted, done⟩ := Tx.bind_ok.mp rest
  obtain ⟨table, stored, rfl⟩ := exec_ok.mp upserted
  cases done
  exact ⟨_, count, fun key => Table.get?_deleteWhere _ _ key, stored, rfl⟩

/-- The current window of a fingerprint is never stale. -/
private theorem current_kept {row : Option FPRateRow} :
    (row.filter fun _ => !(decide (g.fpSHA256 = g.fpSHA256) && decide (g.windowDay < g.windowDay))) =
      row := by
  cases row <;> simp

/-- The first issuance of a window is admitted, whatever the cap and the cutoff,
and stores the cutoff. -/
theorem bumpFPRate_first (ran : bumpFPRate g db = (.ok admitted, after))
    (first : db.installFPRate.get? (g.fpSHA256, g.windowDay) = none) :
    admitted = true ∧
      after.installFPRate.get? (g.fpSHA256, g.windowDay) = some ⟨1, g.cutoff⟩ := by
  obtain ⟨pruned, count, kept, stored, rfl⟩ := bumpFPRate_statements ran
  have free := kept (g.fpSHA256, g.windowDay)
  rw [current_kept, first] at free
  obtain ⟨rfl, reads⟩ := Table.upsertWhere_free free stored
  exact ⟨rfl, by rw [reads, if_pos rfl]⟩

/-- A later one is admitted below the cap if the stored cutoff lies before its
own, which it then stores. -/
theorem bumpFPRate_again {row : FPRateRow} (ran : bumpFPRate g db = (.ok admitted, after))
    (held : db.installFPRate.get? (g.fpSHA256, g.windowDay) = some row) :
    (admitted = true ↔ row.count < g.cap ∧ row.lastAt < g.cutoff) ∧
      after.installFPRate.get? (g.fpSHA256, g.windowDay) =
        some (if admitted then ⟨row.count + 1, g.cutoff⟩ else row) := by
  obtain ⟨pruned, count, kept, stored, rfl⟩ := bumpFPRate_statements ran
  have taken := kept (g.fpSHA256, g.windowDay)
  rw [current_kept, held] at taken
  obtain ⟨rfl, reads⟩ := Table.upsertWhere_taken taken stored
  rw [reads, taken]
  by_cases met : row.count < g.cap ∧ row.lastAt < g.cutoff
  · simp [met]
  · have failed : ¬((decide (row.count < g.cap) && decide (row.lastAt < g.cutoff)) = true) := by
      simpa using met
    simp [met, failed]

/-- Windows of other fingerprints are left alone. -/
theorem bumpFPRate_other (ran : bumpFPRate g db = (.ok admitted, after)) {key : String × String}
    (other : key.1 ≠ g.fpSHA256) :
    after.installFPRate.get? key = db.installFPRate.get? key := by
  obtain ⟨pruned, count, kept, stored, rfl⟩ := bumpFPRate_statements ran
  have same : pruned.get? key = db.installFPRate.get? key := by
    rw [kept]
    cases db.installFPRate.get? key <;> simp [other]
  have apart : key ≠ (g.fpSHA256, g.windowDay) := fun equal => other (equal ▸ rfl)
  cases taken : pruned.get? (g.fpSHA256, g.windowDay) with
  | none => rw [(Table.upsertWhere_free taken stored).2, if_neg apart, same]
  | some row => rw [(Table.upsertWhere_taken taken stored).2, if_neg fun met => apart met.1, same]

/-- An admitted bump is one charge, if the gate was given a cap at all. -/
theorem bumpFPRate_charged (capped : 0 < g.cap) (ran : bumpFPRate g db = (.ok true, after)) :
    Charged Prod.snd (fun key => (db.installFPRate.get? key).map FPRateRow.count)
      (fun key => (after.installFPRate.get? key).map FPRateRow.count)
      (g.fpSHA256, g.windowDay) g.cap := by
  obtain ⟨pruned, count, kept, stored, admitted⟩ := bumpFPRate_statements ran
  have own := kept (g.fpSHA256, g.windowDay)
  rw [current_kept] at own
  have others (other : String × String) (apart : other ≠ (g.fpSHA256, g.windowDay)) :
      after.installFPRate.get? other = pruned.get? other := by
    cases taken : pruned.get? (g.fpSHA256, g.windowDay) with
    | none => rw [(Table.upsertWhere_free taken stored).2, if_neg apart]
    | some row => rw [(Table.upsertWhere_taken taken stored).2, if_neg fun met => apart met.1]
  have here : (after.installFPRate.get? (g.fpSHA256, g.windowDay)).map FPRateRow.count =
        some (((db.installFPRate.get? (g.fpSHA256, g.windowDay)).map FPRateRow.count).getD 0 + 1) ∧
      ((db.installFPRate.get? (g.fpSHA256, g.windowDay)).map FPRateRow.count).getD 0 + 1 ≤ g.cap := by
    cases held : db.installFPRate.get? (g.fpSHA256, g.windowDay) with
    | none =>
      rw [(bumpFPRate_first ran held).2]
      exact ⟨rfl, by simpa using Int.add_one_le_of_lt capped⟩
    | some row =>
      obtain ⟨verdict, reads⟩ := bumpFPRate_again ran held
      rw [reads]
      exact ⟨rfl, Int.add_one_le_of_lt (verdict.mp rfl).1⟩
  refine ⟨here.1, here.2, fun other apart => ?_⟩
  rw [others other apart, kept]
  by_cases old : other.1 = g.fpSHA256 ∧ other.2 < g.windowDay
  · right
    exact ⟨by cases db.installFPRate.get? other <;> simp [old.1, old.2], old.2⟩
  · left
    have current : (decide (other.1 = g.fpSHA256) && decide (other.2 < g.windowDay)) = false := by
      simpa using old
    cases db.installFPRate.get? other with
    | none => rfl
    | some row => rw [Option.filter_some, current, Bool.not_false, if_pos rfl]

end FPGate

/-! ## The install rows -/

section Installs
variable {installs stored : Installs} {id thumbprint : String} {row : InstallRow}

theorem idOf_held (known : installs.idOf thumbprint = some id) :
    ∃ row, installs.table.get? id = some row ∧ row.keyThumbprint = thumbprint := by
  unfold Installs.idOf at known
  obtain ⟨⟨_, row⟩, found, rfl⟩ := Option.map_eq_some_iff.mp known
  have matched := List.find?_some found
  exact ⟨row, Table.get?_eq_some.mpr (List.mem_of_find?_eq_some found), of_decide_eq_true matched⟩

/-- No two thumbprints share an id. -/
theorem idOf_injective {other : String} (known : installs.idOf thumbprint = some id)
    (also : installs.idOf other = some id) : thumbprint = other := by
  obtain ⟨row, held, rfl⟩ := idOf_held known
  obtain ⟨row', held', rfl⟩ := idOf_held also
  rw [held] at held'
  obtain rfl := Option.some.inj held'
  rfl

/-- An insert gives its own thumbprint the new id, and no other a different one. -/
theorem idOf_insert (ran : installs.insert id row = .ok stored) (other : String) :
    stored.idOf other =
      if other = row.keyThumbprint then some id else installs.idOf other := by
  unfold Installs.insert at ran
  split at ran
  · cases ran
  · rename_i untaken
    split at ran
    · cases ran
    · rename_i table inserted
      cases ran
      have rows := (Table.insert_ok inserted).1
      unfold Installs.idOf
      dsimp only
      rw [rows, List.find?_append]
      by_cases own : other = row.keyThumbprint
      · subst own
        have absent : installs.table.rows.find?
            (fun held => held.2.keyThumbprint = row.keyThumbprint) = none := by
          rw [List.find?_eq_none]
          intro held member same
          exact untaken (List.mem_map.mpr ⟨held, member, of_decide_eq_true same⟩)
        simp [absent]
      · have apart : ¬row.keyThumbprint = other := fun same => own same.symm
        simp [own, apart]

end Installs

/-! ## One issuance -/

section Issue
variable {p : IssueParams} {db after : Database}

/-- A gate that lets the issuance on has admitted it. -/
theorem pass_ok {enabled : Bool} {gate : Gate} {bump : StoreTx Bool} :
    pass enabled gate bump db = (.ok (), after) ↔ verdict enabled bump db = (.ok true, after) := by
  unfold InstallStore.pass
  rw [Tx.bind_ok]
  constructor
  · rintro ⟨ok, middle, ran, rest⟩
    cases ok
    · cases rest
    · cases rest
      exact ran
  · intro ran
    exact ⟨true, after, ran, rfl⟩

/-- A gate that denies stops the issuance under its own name. -/
theorem pass_denied {enabled : Bool} {gate : Gate} {bump : StoreTx Bool}
    (denied : verdict enabled bump db = (.ok false, after)) :
    pass enabled gate bump db = (.error (.gateReject gate), after) := by
  unfold InstallStore.pass
  rw [Tx.bind_of_ok denied]
  rfl

/-- An insert is refused as a statement, never as a gate. -/
theorem insertFresh_failure {regenerated : String} {stop : Stop}
    (failed : insertFresh regenerated p db = (.error stop, after)) :
    ∃ refusal, stop = .statement refusal := by
  have refuses (id : String) (start finish : Database) (cause : Stop)
      (ran : insertInstall id p start = (.error cause, finish)) :
      ∃ refusal, cause = .statement refusal := by
    unfold insertInstall at ran
    split at ran
    · cases ran
      exact ⟨_, rfl⟩
    · cases ran
  unfold insertFresh at failed
  split at failed
  · cases failed
  · split at failed
    · split at failed
      · cases failed
      · rename_i again
        cases failed
        exact refuses _ _ _ _ again
    · cases failed
      exact ⟨_, rfl⟩
  · rename_i first
    cases failed
    exact refuses _ _ _ _ first

/-- An insert leaves the rate tables alone. -/
theorem keeps_insertFresh (regenerated : String) (p : IssueParams) :
    Tx.Keeps (fun db => (db.installIPRate, db.installGlobalRate, db.installFPRate))
      (insertFresh regenerated p) := by
  have inserts (id : String) : Tx.Keeps (fun db : Database =>
      (db.installIPRate, db.installGlobalRate, db.installFPRate)) (insertInstall id p) := by
    intro db
    unfold insertInstall
    split <;> rfl
  intro db
  have first := inserts p.installID db
  unfold insertFresh
  rcases ran : insertInstall p.installID p db with ⟨stop | done, middle⟩
  · rw [ran] at first
    have second := inserts regenerated middle
    cases stop with
    | gateReject gate => exact first
    | statement refusal =>
      dsimp only
      split
      · rcases again : insertInstall regenerated p middle with ⟨stop | done, finish⟩
        · rw [again] at second
          exact second.trans first
        · rw [again] at second
          exact second.trans first
      · exact first
  · rw [ran] at first
    exact first

/-- An insert that succeeds has stored the new row under the id it answers. -/
theorem insertFresh_ok {regenerated id : String}
    (ran : insertFresh regenerated p db = (.ok id, after)) :
    db.installs.insert id (newRow p) = .ok after.installs := by
  have stores (own : String) (start finish : Database)
      (done : insertInstall own p start = (.ok (), finish)) :
      start.installs.insert own (newRow p) = .ok finish.installs := by
    unfold insertInstall at done
    split at done
    · cases done
    · rename_i installs inserted
      cases done
      exact inserted
  have refused (own : String) (start finish : Database) (stop : Stop)
      (failed : insertInstall own p start = (.error stop, finish)) : finish = start := by
    unfold insertInstall at failed
    split at failed
    · cases failed
      rfl
    · cases failed
  unfold insertFresh at ran
  split at ran
  · rename_i first
    cases ran
    exact stores _ _ _ first
  · rename_i first
    obtain rfl := refused _ _ _ _ first
    split at ran
    · split at ran
      · rename_i again
        cases ran
        exact stores _ _ _ again
      · cases ran
    · cases ran
  · cases ran

/-- The three ways an issuance ends: an id recovered, nothing changed, or every
gate passed and one install inserted. -/
theorem issue_cases (regenerated : String) (p : IssueParams) (db : Database) :
    (∃ id, db.installs.idOf p.thumbprint = some id ∧
      issue regenerated p db = (.ok ⟨true, .none, id, true⟩, db)) ∨
    (db.installs.idOf p.thumbprint = none ∧ (issue regenerated p db).2 = db ∧
      ∀ result, (issue regenerated p db).1 = .ok result → result.admitted = false) ∨
    (db.installs.idOf p.thumbprint = none ∧ ∃ reached gated id after,
      passAddressGates p db = (.ok (), reached) ∧ passFPGate p reached = (.ok (), gated) ∧
      insertFresh regenerated p gated = (.ok id, after) ∧
      issue regenerated p db = (.ok ⟨true, .none, id, false⟩, after)) := by
  unfold issue Tx.transaction issueBody
  cases held : db.installs.idOf p.thumbprint with
  | some id => exact .inl ⟨id, rfl, rfl⟩
  | none =>
    right
    dsimp only
    generalize ran : (do
      passAddressGates p
      passFPGate p
      let actualID ← insertFresh regenerated p
      return ⟨true, .none, actualID, false⟩ : StoreTx IssueResult) db = outcome
    rcases outcome with ⟨stop | result, finish⟩
    · left
      cases stop with
      | gateReject gate =>
        refine ⟨rfl, rfl, fun result same => ?_⟩
        cases same
        rfl
      | statement refusal =>
        refine ⟨rfl, rfl, fun result same => ?_⟩
        cases same
    · right
      obtain ⟨_, reached, addressed, rest⟩ := Tx.bind_ok.mp ran
      obtain ⟨_, gated, passed, last⟩ := Tx.bind_ok.mp rest
      obtain ⟨id, inserted, stored, done⟩ := Tx.bind_ok.mp last
      cases done
      exact ⟨rfl, reached, gated, id, _, addressed, passed, stored, rfl⟩

/-- Where a new key has passed the first two gates, it is turned away at the
fingerprint gate exactly if that gate denies. -/
theorem issue_fp_verdict {regenerated : String} {reached : Database} {admitted : Bool}
    (fresh : db.installs.idOf p.thumbprint = none)
    (addressed : passAddressGates p db = (.ok (), reached))
    (decided : verdict p.fpGate.enabled (bumpFPRate p.fpGate) reached = (.ok admitted, after)) :
    (issue regenerated p db).1 = .ok ⟨false, .fp, "", false⟩ ↔ admitted = false := by
  have body : issueBody regenerated p db = (do
      passFPGate p
      let actualID ← insertFresh regenerated p
      return ⟨true, .none, actualID, false⟩ : StoreTx IssueResult) reached := by
    unfold issueBody
    rw [fresh]
    exact Tx.bind_of_ok addressed
  cases admitted with
  | false =>
    have stopped : issueBody regenerated p db = (.error (.gateReject .fp), after) := by
      rw [body]
      exact Tx.bind_failure.mpr (.inl (pass_denied decided))
    simp [issue, Tx.transaction, stopped]
  | true =>
    have inserted : issueBody regenerated p db = (do
        let actualID ← insertFresh regenerated p
        return ⟨true, .none, actualID, false⟩ : StoreTx IssueResult) after := by
      rw [body]
      exact Tx.bind_of_ok (pass_ok.mpr decided)
    simp only [Bool.true_eq_false, iff_false]
    unfold issue Tx.transaction
    rw [inserted]
    rcases outcome : insertFresh regenerated p after with ⟨stop | id, finish⟩
    · obtain ⟨refusal, rfl⟩ := insertFresh_failure outcome
      have failed : (do
          let actualID ← insertFresh regenerated p
          return ⟨true, .none, actualID, false⟩ : StoreTx IssueResult) after =
            (.error (.statement refusal), finish) := Tx.bind_failure.mpr (.inl outcome)
      rw [failed]
      simp
    · rw [Tx.bind_of_ok outcome]
      simp

end Issue

end AnselmGateway.InstallStoreSemantics
