import AnselmGateway.LedgerTerminal

/-! `ReconcileOrphans` as the startup sweep and the periodic loop run it: one scan,
then one transaction a row, with whatever else the store does between the rows. -/
namespace AnselmGateway.OrphanRecovery
open Foundation Billing Quota QuotaStore Accounts QuotaStoreSemantics LedgerTerminal

/-- The rows the scan is after. -/
def aged (cutoff : ZonedTime) (row : LedgerRow) : Bool :=
  row.state == .open && writtenBefore row.createdAt cutoff

theorem aged_open {cutoff : ZonedTime} {row : LedgerRow} (old : aged cutoff row = true) :
    row.state = .open :=
  beq_iff_eq.mp (Bool.and_eq_true_iff.mp old).1

theorem mem_agedOpen {cutoff : ZonedTime} {db : Database} {requestID : String} :
    requestID ∈ agedOpen cutoff db ↔
      ∃ row, db.spendLedger.get? requestID = some row ∧ aged cutoff row = true := by
  unfold agedOpen
  rw [List.mem_map]
  constructor
  · rintro ⟨⟨key, row⟩, member, rfl⟩
    obtain ⟨inside, old⟩ := List.mem_filter.mp member
    exact ⟨row, Table.get?_eq_some.mpr inside, old⟩
  · rintro ⟨row, held, old⟩
    exact ⟨(requestID, row), List.mem_filter.mpr ⟨Table.get?_eq_some.mp held, old⟩, rfl⟩

theorem agedOpen_nodup (cutoff : ZonedTime) (db : Database) : (agedOpen cutoff db).Nodup :=
  (List.filter_sublist.map _).nodup db.spendLedger.unique

/-- With a cutoff in UTC the scan is after the open rows from before it. -/
theorem aged_utc {cutoff : ZonedTime} (utc : cutoff.offset = 0) (row : LedgerRow) :
    aged cutoff row = true ↔ row.state = .open ∧ row.createdAt < cutoff.instant := by
  simp [aged, writtenBefore, ZonedTime.wall, utc]

/-- In a zone that is further ahead of UTC than the cutoff lies back, it is after every open row. -/
theorem aged_ahead {older : ℤ} {now : ZonedTime} (ahead : older < now.offset) {row : LedgerRow}
    (past : row.createdAt ≤ now.instant) : aged (now.add (-older)) row = true ↔ row.state = .open := by
  have before : row.createdAt < now.instant + -older + now.offset := by omega
  simp [aged, writtenBefore, ZonedTime.wall, ZonedTime.add, before]

/-- How many rows the scan finds. -/
theorem agedOpen_length (cutoff : ZonedTime) (db : Database) :
    (agedOpen cutoff db).length = db.spendLedger.rows.countP fun row => aged cutoff row.2 := by
  unfold agedOpen
  rw [List.length_map, List.countP_eq_length_filter]
  rfl

/-! ## One row -/

/-- A row that is still open is closed at its whole quote, and nothing else changes. -/
theorem reconcileOne_open {db : Database} {requestID : String} {row : LedgerRow}
    (held : db.spendLedger.get? requestID = some row) (opened : row.state = .open) (now : ℤ) :
    ∃ after, reconcileOne now requestID db = (.ok true, after) ∧ balance after = balance db ∧
      ∀ other, after.spendLedger.get? other =
        if other = requestID then some (orphanedRow now row) else db.spendLedger.get? other := by
  have met : (row.state == .open) = true := beq_iff_eq.mpr opened
  obtain ⟨table, updated⟩ : ∃ table, db.spendLedger.updateWhere
      (Table.at' requestID fun row => row.state == .open) (orphanedRow now) = .ok (table, 1) :=
    Table.updateAt_succeeds held met
      (terminal_rows_accepted now 0 le_rfl (Table.checked_get? held)).2.2
  refine ⟨{ db with spendLedger := table }, ?_, rfl, fun other => ?_⟩
  · apply Tx.transaction_ok.mpr
    apply Tx.bind_ok.mpr
    refine ⟨1, { db with spendLedger := table }, ?_, rfl⟩
    simp only [execCount, spendLedger, updated]
  · exact Table.get?_updateAt updated held met other

/-! ## The loop -/

/-- A ledger in which the listed rows are orphaned, each at its own clock reading. -/
def orphaned (requestIDs : List String) (at' : String → ℤ) (db : Database) (requestID : String) :
    Option LedgerRow :=
  (db.spendLedger.get? requestID).map fun row =>
    if requestID ∈ requestIDs then orphanedRow (at' requestID) row else row

theorem reconcileEach_open (clock : ℕ → ℤ) (requestIDs : List String) (distinct : requestIDs.Nodup)
    (won : ℕ) (db : Database)
    (held : ∀ requestID ∈ requestIDs, ∃ row,
      db.spendLedger.get? requestID = some row ∧ row.state = .open) :
    ∃ after at', reconcileEach clock requestIDs won db = (.ok (won + requestIDs.length), after) ∧
      balance after = balance db ∧
      ∀ requestID, after.spendLedger.get? requestID = orphaned requestIDs at' db requestID := by
  induction requestIDs generalizing won db with
  | nil =>
    refine ⟨db, fun _ => 0, rfl, rfl, fun requestID => ?_⟩
    simp [orphaned]
  | cons first rest ih =>
    obtain ⟨fresh, distinct⟩ := List.nodup_cons.mp distinct
    obtain ⟨row, found, opened⟩ := held first List.mem_cons_self
    obtain ⟨middle, ran, same, rows⟩ := reconcileOne_open found opened (clock rest.length)
    have later : ∀ requestID ∈ rest, ∃ row,
        middle.spendLedger.get? requestID = some row ∧ row.state = .open := by
      intro requestID member
      have apart : requestID ≠ first := by
        rintro rfl
        exact fresh member
      obtain ⟨row, found, opened⟩ := held requestID (List.mem_cons_of_mem _ member)
      exact ⟨row, by rw [rows, if_neg apart, found], opened⟩
    obtain ⟨after, at', continued, balances, closed⟩ := ih distinct (won + 1) middle later
    refine ⟨after, Function.update at' first (clock rest.length), ?_, balances.trans same, ?_⟩
    · have stepped : reconcileEach clock (first :: rest) won db =
          reconcileEach clock rest (won + 1) middle := Tx.bind_of_ok ran
      rw [stepped, continued, List.length_cons]
      congr 2
      omega
    · intro requestID
      rw [closed, orphaned, orphaned, rows]
      by_cases mine : requestID = first
      · subst mine
        simp [fresh, found]
      · simp [mine]

/-! ## Recovery -/

/-- A rewritten ledger has as many open rows as its old one has rows that stay open. -/
theorem openReservations_orphaned {db after : Database} {requestIDs : List String}
    {at' : String → ℤ} (rows : ∀ requestID, after.spendLedger.get? requestID =
      orphaned requestIDs at' db requestID) :
    openReservations after =
      db.spendLedger.rows.countP fun row => row.2.state == .open && !requestIDs.contains row.1 := by
  have flat : after.spendLedger.rows.Perm (db.spendLedger.rows.map fun row =>
      (row.1, if row.1 ∈ requestIDs then orphanedRow (at' row.1) row.2 else row.2)) := by
    have unique : (db.spendLedger.rows.map fun row =>
        (row.1, if row.1 ∈ requestIDs then orphanedRow (at' row.1) row.2 else row.2)).Nodup := by
      apply List.Nodup.of_map Prod.fst
      rw [List.map_map]
      exact db.spendLedger.unique
    apply (List.perm_ext_iff_of_nodup (List.Nodup.of_map Prod.fst after.spendLedger.unique) unique).mpr
    rintro ⟨key, row⟩
    rw [← Table.get?_eq_some, rows, orphaned, Option.map_eq_some_iff, List.mem_map]
    constructor
    · rintro ⟨old, held, rfl⟩
      exact ⟨(key, old), Table.get?_eq_some.mp held, rfl⟩
    · rintro ⟨⟨other, old⟩, inside, same⟩
      cases same
      exact ⟨old, Table.get?_eq_some.mpr inside, rfl⟩
  rw [openReservations, flat.countP_eq, List.countP_map]
  congr 1
  funext row
  by_cases listed : row.1 ∈ requestIDs
  · simp [listed, orphanedRow]
  · simp [listed]

/-- What a sweep leaves: every aged open row is closed at its whole quote and every other
row and balance is as it was. -/
structure Recovered (cutoff : ZonedTime) (db : Database) (found : ℕ) (after : Database) : Prop where
  counted : found = db.spendLedger.rows.countP fun row => aged cutoff row.2
  balances : balance after = balance db
  rows : ∃ at' : String → ℤ, ∀ requestID, after.spendLedger.get? requestID =
    (db.spendLedger.get? requestID).map fun row =>
      if aged cutoff row then orphanedRow (at' requestID) row else row
  /-- Only reservations the scan is not after stay open, and they alone hold up the monthly reset. -/
  reset : ∀ p, (resetMonthlyRequests p after).1 = .error .monthlyResetBlocked ↔
    ∃ requestID row, db.spendLedger.get? requestID = some row ∧ row.state = .open ∧
      aged cutoff row = false

theorem resetMonthlyRequests_blocked (p : Period) (db : Database) :
    (resetMonthlyRequests p db).1 = .error .monthlyResetBlocked ↔ openReservations db ≠ 0 := by
  unfold resetMonthlyRequests Tx.transaction
  by_cases idle : openReservations db = 0
  · simp only [idle, ne_eq, not_true_eq_false, if_false, iff_false]
    split
    · rename_i ran
      split at ran
      · cases ran
      · cases ran
        exact nofun
    · rename_i ran
      split at ran
      · cases ran
        exact nofun
      · cases ran
  · simp [idle]

/-- Left to itself the sweep recovers. -/
theorem reconcileOrphans_recovers (clock : ℕ → ℤ) (cutoff : ZonedTime) (db : Database) :
    ∃ found after, reconcileOrphans clock cutoff db = (.ok found, after) ∧
      Recovered cutoff db found after := by
  obtain ⟨after, at', ran, balances, rows⟩ := reconcileEach_open clock (agedOpen cutoff db)
    (agedOpen_nodup cutoff db) 0 db fun requestID member => by
      obtain ⟨row, held, old⟩ := mem_agedOpen.mp member
      exact ⟨row, held, aged_open old⟩
  have listed {requestID : String} {row : LedgerRow}
      (held : db.spendLedger.get? requestID = some row) :
      requestID ∈ agedOpen cutoff db ↔ aged cutoff row = true := by
    rw [mem_agedOpen]
    constructor
    · rintro ⟨other, found, old⟩
      rw [held] at found
      cases found
      exact old
    · exact fun old => ⟨row, held, old⟩
  rw [zero_add] at ran
  refine ⟨(agedOpen cutoff db).length, after, ran, agedOpen_length cutoff db, balances, ⟨at', ?_⟩, ?_⟩
  · intro requestID
    rw [rows, orphaned]
    cases held : db.spendLedger.get? requestID with
    | none => rfl
    | some row => simp [listed held]
  · intro p
    rw [resetMonthlyRequests_blocked, openReservations_orphaned rows, ne_eq, List.countP_eq_zero]
    push Not
    constructor
    · rintro ⟨⟨requestID, row⟩, inside, young⟩
      obtain ⟨opened, unlisted⟩ := Bool.and_eq_true_iff.mp young
      have held := Table.get?_eq_some.mpr inside
      refine ⟨requestID, row, held, beq_iff_eq.mp opened, ?_⟩
      by_contra old
      have listing := (listed held).mpr (by simpa using old)
      simp [listing] at unlisted
    · rintro ⟨requestID, row, held, opened, young⟩
      refine ⟨(requestID, row), Table.get?_eq_some.mp held, ?_⟩
      have unlisted : requestID ∉ agedOpen cutoff db := by
        rw [listed held, young]
        exact Bool.false_ne_true
      simp [opened, unlisted]

/-! ## Beside other calls -/

/-- The loop with other calls before, between and after its rows. -/
def reconcileAmid (clock : ℕ → ℤ) (between : ℕ → List Call) : List String → Database → Database
  | [], db => run db (between 0)
  | requestID :: rest, db =>
    reconcileAmid clock between rest
      (step (run db (between (rest.length + 1))) (.reconcileOne (clock rest.length) requestID))

section Amid
variable {clock : ℕ → ℤ} {between : ℕ → List Call} {db : Database} {requestID : String}

/-- No call takes a row away. -/
theorem present_step (call : Call) (present : ∃ row, db.spendLedger.get? requestID = some row) :
    ∃ row, (step db call).spendLedger.get? requestID = some row := by
  obtain ⟨row, held⟩ := present
  cases step_effect db call with
  | unchanged same => exact ⟨row, by rw [same, held]⟩
  | opened fresh added _ _ inserted _ _ =>
    rw [Table.get?_insert inserted]
    split
    · exact ⟨added, rfl⟩
    · exact ⟨row, held⟩
  | closed target before closed closing _ _ _ =>
    rw [closed_get? closing]
    split
    · exact ⟨closed, rfl⟩
    · exact ⟨row, held⟩
  | reset _ _ _ ledger _ => exact ⟨row, by rw [ledger, held]⟩

theorem present_run (calls : List Call) (present : ∃ row, db.spendLedger.get? requestID = some row) :
    ∃ row, (run db calls).spendLedger.get? requestID = some row := by
  induction calls generalizing db with
  | nil => exact present
  | cons call rest ih => exact ih (present_step call present)

/-- Reconciliation leaves the row it is addressed to closed, whoever closed it. -/
theorem reconcileOne_closes (now : ℤ) (present : ∃ row, db.spendLedger.get? requestID = some row) :
    ∃ row, Terminal requestID row (step db (.reconcileOne now requestID)) := by
  obtain ⟨row, held⟩ := present
  cases ended : row.state.terminal with
  | true => exact ⟨row, terminal_step _ ⟨held, ended⟩⟩
  | false =>
    have opened : row.state = .open := by
      cases state : row.state with
      | «open» => rfl
      | settled | rolledBack | orphaned =>
        rw [state] at ended
        cases ended
    obtain ⟨after, ran, _, rows⟩ := reconcileOne_open held opened now
    refine ⟨orphanedRow now row, ?_, rfl⟩
    change (reconcileOne now requestID db).2.spendLedger.get? requestID = _
    rw [ran, rows, if_pos rfl]

theorem terminal_amid {row : LedgerRow} (requestIDs : List String)
    (terminal : Terminal requestID row db) :
    Terminal requestID row (reconcileAmid clock between requestIDs db) := by
  induction requestIDs generalizing db with
  | nil => exact terminal_run _ terminal
  | cons first rest ih => exact ih (terminal_step _ (terminal_run _ terminal))

theorem amid_closes (requestIDs : List String) (listed : requestID ∈ requestIDs)
    (present : ∃ row, db.spendLedger.get? requestID = some row) :
    ∃ row, Terminal requestID row (reconcileAmid clock between requestIDs db) := by
  induction requestIDs generalizing db with
  | nil => cases listed
  | cons first rest ih =>
    have before := present_run (between (rest.length + 1)) present
    rcases List.mem_cons.mp listed with rfl | later
    · obtain ⟨row, terminal⟩ := reconcileOne_closes (clock rest.length) before
      exact ⟨row, terminal_amid rest terminal⟩
    · exact ih later (present_step _ before)

end Amid

/-- What the sweep of `older` is after: in UTC the open rows from more than `older` ago, and in a zone
further ahead than that every open row there is. -/
structure Scanned (older : ℤ) (now : ZonedTime) (row : LedgerRow) : Prop where
  utc : now.offset = 0 →
    (aged (now.add (-older)) row = true ↔ row.state = .open ∧ row.createdAt < now.instant - older)
  ahead : older < now.offset → row.createdAt ≤ now.instant →
    (aged (now.add (-older)) row = true ↔ row.state = .open)

/-- **Orphan recovery.** From any database the sweep succeeds, reports exactly the aged
open rows, closes each of them at its whole quote and touches nothing else; a monthly
reset is then held up by an open reservation it was not after and by nothing else. Whatever other
calls come between its rows, every row it has scanned ends up closed. Which rows are aged depends
on the zone of the process. -/
theorem orphans_recovered (clock : ℕ → ℤ) (older : ℤ) (now : ZonedTime) (db : Database) :
    (∃ found after, reconcileOrphansOlder clock older now db = (.ok found, after) ∧
      Recovered (now.add (-older)) db found after) ∧
    (∀ (between : ℕ → List Call), ∀ requestID ∈ agedOpen (now.add (-older)) db, ∃ row,
      Terminal requestID row (reconcileAmid clock between (agedOpen (now.add (-older)) db) db)) ∧
    ∀ row, Scanned older now row := by
  refine ⟨reconcileOrphans_recovers clock _ db, fun between requestID listed => ?_,
    fun row => ⟨fun utc => ?_, fun ahead past => aged_ahead ahead past⟩⟩
  · obtain ⟨row, held, _⟩ := mem_agedOpen.mp listed
    exact amid_closes _ listed ⟨row, held⟩
  · rw [@aged_utc (now.add (-older)) utc, ZonedTime.add, sub_eq_add_neg]

end AnselmGateway.OrphanRecovery
