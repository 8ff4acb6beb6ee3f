import AnselmGateway.GenerationCloseOut

/-! The monthly window. A reset clears a month's counters only while no reservation is
open anywhere, so what the ledger holds by then is over for good and gives nothing back.
From then on the counter is the number of rows that came after. -/
namespace AnselmGateway.MonthlyWindow
open Foundation Billing Quota QuotaStore Accounts QuotaStoreSemantics LedgerTerminal
open AccountingAtomicity GenerationCloseOut

/-! ## The window -/

/-- The store, and for every month the requests that were in the ledger when the month was
last reset. -/
structure Observed where
  db : Database
  past : String → List String

def Observed.empty : Observed := ⟨.empty, fun _ => []⟩

/-- Whether a call resets this month, and is not refused. -/
def resets (db : Database) (month : String) : Call → Bool
  | .resetMonthlyRequests p => p.month == month && (resetMonthlyRequests p db).1.toBool
  | _ => false

def observe (o : Observed) (call : Call) : Observed where
  db := step o.db call
  past month :=
    if resets o.db month call then (step o.db call).spendLedger.rows.map Prod.fst else o.past month

/-- What is seen after these calls. -/
def observed (calls : List Call) : Observed := runSteps observe .empty calls

/-- The install's requests of this month since its last reset that were not rolled back. -/
def windowRequests (o : Observed) (installID month : String) : ℕ :=
  o.db.spendLedger.rows.countP fun row => decide (row.1 ∉ o.past month) &&
    row.2.installID == installID && row.2.periodMonth == month && row.2.state != .rolledBack

theorem observed_db (calls : List Call) : (observed calls).db = run .empty calls := by
  have same (o : Observed) : (runSteps observe o calls).db = run o.db calls := by
    induction calls generalizing o with
    | nil => rfl
    | cons call rest ih => exact ih (observe o call)
  exact same .empty

/-! ## One call -/

/-- What a row adds to its month's counter, unless it is from before the window. -/
def windowEntry (past : List String) (installID month requestID : String) (row : LedgerRow) : ℤ :=
  if requestID ∈ past then 0 else entry row (.monthlyRequests installID month)

/-- What was there at a reset is over, and every counter is what came after. -/
structure Windowed (db : Database) (month : String) (past : List String) : Prop where
  gone : ∀ requestID ∈ past, ∃ row, Terminal requestID row db
  counts : ∀ installID, balance db (.monthlyRequests installID month) =
    db.spendLedger.tally (windowEntry past installID month)

section Step
variable {db after : Database} {month : String} {past : List String}

theorem windowed_opened {requestID : String} {row : LedgerRow} (windowed : Windowed db month past)
    (inserted : db.spendLedger.insert requestID row = .ok after.spendLedger)
    (moved : balance after = balance db + entry row) : Windowed after month past := by
  have fresh := (Table.insert_ok inserted).2
  have new : requestID ∉ past := by
    intro old
    obtain ⟨row', held, _⟩ := windowed.gone requestID old
    rw [fresh] at held
    cases held
  refine ⟨fun other old => ?_, fun installID => ?_⟩
  · obtain ⟨row', held, ended⟩ := windowed.gone other old
    have differs : other ≠ requestID := by
      rintro rfl
      exact new old
    exact ⟨row', by rw [Table.get?_insert inserted, if_neg differs, held], ended⟩
  · rw [moved, Pi.add_apply, windowed.counts, Table.tally_insert inserted]
    rw [windowEntry, if_neg new]

/-- A row that is closed was open, so it is none from before the window. -/
theorem windowed_closed {requestID : String} {row closed : LedgerRow} (windowed : Windowed db month past)
    (closing : Closed db after requestID row closed) : Windowed after month past := by
  have new : requestID ∉ past := by
    intro old
    obtain ⟨row', held, ended⟩ := windowed.gone requestID old
    cases held.symm.trans closing.held
    rw [closing.wasOpen] at ended
    cases ended
  refine ⟨fun other old => ?_, fun installID => ?_⟩
  · obtain ⟨row', held, ended⟩ := windowed.gone other old
    have differs : other ≠ requestID := by
      rintro rfl
      exact new old
    exact ⟨row', by rw [closed_get? closing, if_neg differs, held], ended⟩
  · obtain ⟨condition, assign, met, rfl, updated⟩ := closing.ledger
    rw [closing.moved, Pi.add_apply, Pi.sub_apply, windowed.counts,
      Table.tally_updateAt updated closing.held met]
    rw [windowEntry, windowEntry, if_neg new, if_neg new]

/-- Without an open reservation every row is over. -/
theorem idle_terminal (idle : openReservations db = 0) {requestID : String}
    (stored : requestID ∈ db.spendLedger.rows.map Prod.fst) : ∃ row, Terminal requestID row db := by
  obtain ⟨⟨_, row⟩, member, rfl⟩ := List.mem_map.mp stored
  refine ⟨row, Table.get?_eq_some.mpr member, ?_⟩
  have closed := List.countP_eq_zero.mp idle _ member
  cases state : row.state with
  | «open» =>
    rw [state] at closed
    exact absurd rfl closed
  | _ => rfl

/-- A reset starts the window of its month, and leaves the others alone. -/
theorem windowed_reset {p : Period} {count : ℕ} (windowed : Windowed db month past)
    (ran : resetMonthlyRequests p db = (.ok count, after)) :
    Windowed after month (if p.month = month then after.spendLedger.rows.map Prod.fst else past) := by
  obtain ⟨idle, ledger, cleared⟩ := resetMonthlyRequests_ok ran
  have terminal {requestID : String} {row : LedgerRow} (held : Terminal requestID row db) :
      Terminal requestID row after := by
    unfold Terminal
    rw [ledger]
    exact held
  split
  · rename_i same
    subst same
    refine ⟨fun requestID stored => ?_, fun installID => ?_⟩
    · rw [ledger] at stored
      obtain ⟨row, held⟩ := idle_terminal idle stored
      exact ⟨row, terminal held⟩
    · rw [cleared, afterReset, if_pos rfl, Table.tally]
      have nothing : ∀ row ∈ after.spendLedger.rows,
          windowEntry (after.spendLedger.rows.map Prod.fst) installID p.month row.1 row.2 = 0 :=
        fun row member => if_pos (List.mem_map_of_mem member)
      rw [List.map_congr_left nothing]
      simp
  · rename_i other
    refine ⟨fun requestID stored => ?_, fun installID => ?_⟩
    · obtain ⟨row, held⟩ := windowed.gone requestID stored
      exact ⟨row, terminal held⟩
    · rw [cleared, afterReset, if_neg (fun same => other same.symm), windowed.counts, ledger]

end Step

theorem windowed_step {db : Database} {month : String} {past : List String} (call : Call)
    (windowed : Windowed db month past) :
    Windowed (step db call) month
      (if resets db month call then (step db call).spendLedger.rows.map Prod.fst else past) := by
  cases call with
  | reserve random now installID plan p lim =>
    change Windowed (reserve random now installID plan p lim db).2 month past
    rcases ran : reserve random now installID plan p lim db with ⟨failure | r, after⟩
    · rwa [reserve_failed ran]
    · obtain ⟨_, _, _, moved, inserted⟩ := reserve_ok ran
      exact windowed_opened windowed inserted moved
  | settle now presented actualPUSD =>
    change Windowed (settle now presented actualPUSD db).2 month past
    rcases ran : settle now presented actualPUSD db with ⟨failure | _, after⟩
    · rwa [settle_failed ran]
    · obtain ⟨r, _, _, rfl | ⟨opened, closing⟩⟩ := settle_ok ran
      · exact windowed
      · exact windowed_closed windowed closing
  | rollback now presented =>
    change Windowed (rollback now presented db).2 month past
    rcases ran : rollback now presented db with ⟨failure | _, after⟩
    · rwa [rollback_failed ran]
    · obtain ⟨r, _, rfl | ⟨opened, closing⟩⟩ := rollback_ok ran
      · exact windowed
      · exact windowed_closed windowed closing
  | reconcileOne now requestID =>
    change Windowed (reconcileOne now requestID db).2 month past
    rcases ran : reconcileOne now requestID db with ⟨failure | won, after⟩
    · rwa [reconcileOne_failed ran]
    · rcases reconcileOne_ok ran with rfl | ⟨row, closing⟩
      · exact windowed
      · exact windowed_closed windowed closing
  | resetMonthlyRequests p =>
    change Windowed (resetMonthlyRequests p db).2 month (if (p.month == month &&
      (resetMonthlyRequests p db).1.toBool) = true then _ else past)
    rcases ran : resetMonthlyRequests p db with ⟨failure | count, after⟩
    · rw [resetMonthlyRequests_failed ran]
      simpa [Except.toBool] using windowed
    · simpa [Except.toBool, step, ran] using windowed_reset windowed ran

/-! ## Runs -/

theorem windowed_observe {o : Observed} (call : Call) (windowed : ∀ month, Windowed o.db month (o.past month))
    (month : String) : Windowed (observe o call).db month ((observe o call).past month) :=
  windowed_step call (windowed month)

theorem windowed_observed (calls : List Call) :
    ∀ month, Windowed (observed calls).db month ((observed calls).past month) := by
  have kept (o : Observed) (windowed : ∀ month, Windowed o.db month (o.past month)) (month : String) :
      Windowed (runSteps observe o calls).db month ((runSteps observe o calls).past month) := by
    induction calls generalizing o with
    | nil => exact windowed month
    | cons call rest ih => exact ih (observe o call) (windowed_observe call windowed)
  exact kept .empty fun _ => ⟨nofun, fun _ => rfl⟩

theorem tally_window (o : Observed) (installID month : String) :
    o.db.spendLedger.tally (windowEntry (o.past month) installID month) =
      windowRequests o installID month := by
  rw [windowRequests, ← Table.tally_ite_one o.db.spendLedger fun requestID row =>
    decide (requestID ∉ o.past month) && row.installID == installID && row.periodMonth == month &&
      row.state != .rolledBack]
  congr 1
  funext requestID row
  unfold windowEntry
  by_cases old : requestID ∈ o.past month
  · simp [old]
  · by_cases rolledBack : row.state = .rolledBack <;> simp [old, entry, counted, rolledBack]

theorem windowEntry_nonneg (past : List String) (installID month requestID : String) (row : LedgerRow) :
    0 ≤ windowEntry past installID month requestID row := by
  simp only [windowEntry, entry, counted]
  split
  · exact le_rfl
  · split
    · split <;> decide
    · exact le_rfl

/-- An open reservation is in its month's window, and counted there. -/
theorem open_counted {o : Observed} {requestID : String} {row : LedgerRow}
    (windowed : Windowed o.db row.periodMonth (o.past row.periodMonth))
    (held : o.db.spendLedger.get? requestID = some row) (opened : row.state = .open) :
    1 ≤ balance o.db (.monthlyRequests row.installID row.periodMonth) := by
  have new : requestID ∉ o.past row.periodMonth := by
    intro old
    obtain ⟨row', held', ended⟩ := windowed.gone requestID old
    cases held.symm.trans held'
    rw [opened] at ended
    cases ended
  rw [windowed.counts]
  have mine := Table.weight_le_tally held fun other _ =>
    windowEntry_nonneg (o.past row.periodMonth) row.installID row.periodMonth other.1 other.2
  refine le_trans ?_ mine
  simp [windowEntry, new, entry, counted, opened]

/-- **The monthly window.** After any calls in any order, an install's counter for a month is
the number of its rows of that month since the month's last reset that are not rolled back.
So the counter of an open reservation is not at zero, and rolling it back succeeds. -/
theorem monthly_window (calls : List Call) :
    (observed calls).db = run .empty calls ∧
    (∀ installID month, (run .empty calls).quotaMonthly.read 0 (installID, month) =
      windowRequests (observed calls) installID month) ∧
    ∀ r row, (run .empty calls).spendLedger.get? r.requestID = some row → stillOpen r row = true →
      1 ≤ (run .empty calls).quotaMonthly.read 0 (r.installID, r.period.month) ∧
      ∀ now, validateReservation (some r) = .ok r →
        ∃ final, rollback now (some r) (run .empty calls) = (.ok (), final) := by
  refine ⟨observed_db calls, fun installID month => ?_, fun r row held opened => ?_⟩
  · have counts := (windowed_observed calls month).counts installID
    rw [tally_window, observed_db] at counts
    exact counts
  · have row_eq := stillOpen_row opened (Table.checked_get? held)
    rw [row_eq, ← observed_db] at held
    refine ⟨?_, fun now accepted => ?_⟩
    · rw [← observed_db]
      exact open_counted (windowed_observed calls r.period.month) held rfl
    · rw [← observed_db]
      have covered : OpenCovered (observed calls).db := by
        rw [observed_db]
        exact openCovered_run calls openCovered_empty
      obtain ⟨final, rolled, _⟩ := rollback_succeeds now accepted held (covered.row held rfl)
      exact ⟨final, rolled⟩

/-- A reset that is refused while a request is open, and another once it is settled. -/
def resetCalls : List Call :=
  [.reserve [1] 0 "install" imagePlan august imageLimits, .resetMonthlyRequests august,
    .settle 1 (some (granted (newRequestID [1]) "install" imagePlan august imageLimits)) 1,
    .resetMonthlyRequests august]

theorem monthly_window_reset :
    (run .empty (resetCalls.take 2)).quotaMonthly.read 0 ("install", "2026-08") = 1 ∧
      (run .empty resetCalls).quotaMonthly.read 0 ("install", "2026-08") = 0 := by
  have refused : windowRequests (observed (resetCalls.take 2)) "install" "2026-08" = 1 := by
    decide +kernel
  have cleared : windowRequests (observed resetCalls) "install" "2026-08" = 0 := by decide +kernel
  rw [(monthly_window _).2.1, (monthly_window _).2.1, refused, cleared]
  exact ⟨rfl, rfl⟩

end AnselmGateway.MonthlyWindow
