import AnselmGateway.QuotaStoreSemantics

/-! Terminal transitions. Settlement, rollback and orphan reconciliation race for
one ledger row through conditional updates; whichever comes first closes the
row, and a closed row is out of reach of every later call. -/
namespace AnselmGateway.LedgerTerminal
open Foundation Billing Quota QuotaStore Accounts QuotaStoreSemantics

/-- How many of the calls addressed to one reservation change the database at
all, along a run that may hold any other calls. -/
def terminalChanges (requestID : String) (db : Database) : List Call → ℕ
  | [] => 0
  | call :: rest =>
    (if addressed requestID call ∧ step db call ≠ db then 1 else 0) +
      terminalChanges requestID (step db call) rest

/-- The reservation's row, once it is terminal. -/
def Terminal (requestID : String) (row : LedgerRow) (db : Database) : Prop :=
  db.spendLedger.get? requestID = some row ∧ row.state.terminal = true

variable {requestID : String} {row : LedgerRow} {db : Database}

/-- Closing one row leaves every other row as it was. -/
theorem closed_get? {after : Database} {closed : LedgerRow}
    (closing : Closed db after requestID row closed) (other : String) :
    after.spendLedger.get? other =
      if other = requestID then some closed else db.spendLedger.get? other := by
  obtain ⟨condition, assign, met, rfl, updated⟩ := closing.ledger
  exact Table.get?_updateAt updated closing.held met other

/-! ## One call -/

/-- A terminal row is out of reach of every call. -/
theorem terminal_step (call : Call) (terminal : Terminal requestID row db) :
    Terminal requestID row (step db call) := by
  obtain ⟨held, ended⟩ := terminal
  refine ⟨?_, ended⟩
  cases step_effect db call with
  | unchanged same => rwa [same]
  | opened fresh added _ _ inserted _ _ =>
    have other : requestID ≠ fresh := by
      rintro rfl
      rw [(Table.insert_ok inserted).2] at held
      cases held
    rw [Table.get?_insert inserted, if_neg other, held]
  | closed target before closed closing _ _ _ =>
    have other : requestID ≠ target := by
      rintro rfl
      have same : row = before := Option.some.inj (held.symm.trans closing.held)
      rw [same, closing.wasOpen] at ended
      cases ended
    rw [closed_get? closing, if_neg other, held]
  | reset _ _ _ ledger _ => rwa [ledger]

/-- A call addressed to a terminal row changes nothing. -/
theorem terminal_idle {call : Call} (mine : addressed requestID call = true)
    (terminal : Terminal requestID row db) : step db call = db := by
  obtain ⟨held, ended⟩ := terminal
  cases step_effect db call with
  | unchanged same => exact same
  | opened _ _ _ other _ _ _ => exact absurd mine (by simp [other])
  | closed target before closed closing _ _ yours =>
    obtain rfl := addressed_unique mine yours
    have same : row = before := Option.some.inj (held.symm.trans closing.held)
    rw [same, closing.wasOpen] at ended
    cases ended
  | reset _ other _ _ _ => exact absurd mine (by simp [other])

/-- An addressed call that changes anything leaves its row terminal. -/
theorem addressed_closes {call : Call} (mine : addressed requestID call = true)
    (changed : step db call ≠ db) : ∃ closed, Terminal requestID closed (step db call) := by
  cases step_effect db call with
  | unchanged same => exact absurd same changed
  | opened _ _ _ other _ _ _ => exact absurd mine (by simp [other])
  | closed target before closed closing terminal _ yours =>
    obtain rfl := addressed_unique mine yours
    exact ⟨closed, by rw [closed_get? closing, if_pos rfl], terminal⟩
  | reset _ other _ _ _ => exact absurd mine (by simp [other])

/-! ## Runs -/

theorem terminal_run (calls : List Call) (terminal : Terminal requestID row db) :
    Terminal requestID row (run db calls) :=
  runSteps_invariant (fun _ call => terminal_step call) terminal

theorem terminalChanges_terminal (calls : List Call) (terminal : Terminal requestID row db) :
    terminalChanges requestID db calls = 0 := by
  induction calls generalizing db with
  | nil => rfl
  | cons call rest ih =>
    rw [terminalChanges, ih (terminal_step call terminal), if_neg]
    exact fun both => both.2 (terminal_idle both.1 terminal)

theorem terminalChanges_le_one (requestID : String) (db : Database) (calls : List Call) :
    terminalChanges requestID db calls ≤ 1 := by
  induction calls generalizing db with
  | nil => exact Nat.zero_le 1
  | cons call rest ih =>
    unfold terminalChanges
    split
    · rename_i changing
      obtain ⟨closed, terminal⟩ := addressed_closes changing.1 changing.2
      rw [terminalChanges_terminal rest terminal]
    · simpa using ih (step db call)

/-! ## Evidence -/

/-- A terminal row states what was charged. -/
def Charged (row : LedgerRow) : Prop := row.state.terminal = true → row.chargedPUSD.isSome = true

/-- Once the charge is stated, the compound check has no unknown verdict left
and the row carries exactly its state's evidence. -/
theorem evidence_of_check (checked : row.check = true) (charged : Charged row) :
    row.evidence = some true := by
  have accepted : row.evidence ≠ some false := by
    simp only [LedgerRow.check, Bool.and_eq_true, bne_iff_ne] at checked
    exact checked.2
  unfold Charged at charged
  unfold LedgerRow.evidence at accepted ⊢
  cases state : row.state with
  | «open» => simpa [state] using accepted
  | settled => simpa [state, Option.isSome_iff_ne_none] using accepted
  | rolledBack | orphaned =>
    obtain ⟨amount, stated⟩ := Option.isSome_iff_exists.mp (charged (by rw [state]; rfl))
    simp only [state, stated, Option.map_some] at accepted ⊢
    split
    · rename_i timed
      simpa [timed] using accepted
    · rename_i untimed
      simp [untimed] at accepted

/-- Every stored row states its charge once it is terminal. -/
def AllCharged (db : Database) : Prop := ∀ requestID row,
  db.spendLedger.get? requestID = some row → Charged row

theorem allCharged_step (call : Call) (all : AllCharged db) : AllCharged (step db call) := by
  intro requestID row held
  cases step_effect db call with
  | unchanged same => exact all requestID row (same ▸ held)
  | opened fresh added state _ inserted _ _ =>
    rw [Table.get?_insert inserted] at held
    split at held
    · cases held
      intro terminal
      rw [state] at terminal
      cases terminal
    · exact all requestID row held
  | closed target before closed closing _ charged _ =>
    rw [closed_get? closing] at held
    split at held
    · cases held
      exact fun _ => charged
    · exact all requestID row held
  | reset _ _ _ ledger _ => exact all requestID row (ledger ▸ held)

theorem allCharged_run (calls : List Call) : AllCharged (run .empty calls) :=
  runSteps_invariant (fun _ call => allCharged_step call) fun _ _ held => by cases held

/-- **A reservation ends once.** From any reachable database and in any run, at
most one call addressed to a reservation changes anything, and after it every
such call leaves the whole database alone; no row leaves a terminal state; and
every stored row satisfies the check that relates its state to its charge, as
does whatever a terminal call would write over it. -/
theorem terminal_transition_once (earlier : List Call) (requestID : String) :
    (∀ calls, terminalChanges requestID (run .empty earlier) calls ≤ 1) ∧
    (∀ first between later, addressed requestID first = true → addressed requestID later = true →
      step (run .empty earlier) first ≠ run .empty earlier →
      step (run (step (run .empty earlier) first) between) later =
        run (step (run .empty earlier) first) between) ∧
    (∀ row calls, Terminal requestID row (run .empty earlier) →
      Terminal requestID row (run (run .empty earlier) calls)) ∧
    (∀ row, (run .empty earlier).spendLedger.get? requestID = some row →
      row.evidence = some true ∧ ∀ (now : ℤ) (actualPUSD : Int64), 0 ≤ actualPUSD.toInt →
        (settledRow now actualPUSD row).check = true ∧ (rolledBackRow now row).check = true ∧
          (orphanedRow now row).check = true) := by
  refine ⟨terminalChanges_le_one requestID _, ?_, fun row calls => terminal_run calls, ?_⟩
  · intro first between later mine alsoMine changed
    obtain ⟨closed, terminal⟩ := addressed_closes mine changed
    exact terminal_idle alsoMine (terminal_run between terminal)
  · intro row held
    have checked := Table.checked_get? held
    exact ⟨evidence_of_check checked (allCharged_run earlier requestID row held),
      fun now amount charge => terminal_rows_accepted now amount charge checked⟩

end AnselmGateway.LedgerTerminal
