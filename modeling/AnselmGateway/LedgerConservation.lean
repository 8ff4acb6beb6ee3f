import AnselmGateway.QuotaStoreSemantics

/-! Ledger conservation. The ledger is the abstract state of the accounting
store: every balance row is a sum over it. One call moves both sides by the
same entry, so the equation holds after any run of serialized calls. -/
namespace AnselmGateway.LedgerConservation
open Foundation Billing Quota QuotaStore Accounts QuotaStoreSemantics

/-- The money of the ledger rows that meet a condition. -/
def ledgerSpend (db : Database) (matching : LedgerRow → Bool) : ℤ :=
  db.spendLedger.tally fun _ row => if matching row then value row else 0

/-- How many ledger rows meet a condition and are not rolled back. -/
def ledgerRequests (db : Database) (matching : LedgerRow → Bool) : ℕ :=
  db.spendLedger.rows.countP fun row => matching row.2 && row.2.state != .rolledBack

/-- The balance tables say what the ledger says. The install's daily counter
counts only the requests a daily sublimit was applied to. -/
structure Conserved (db : Database) : Prop where
  globalMonth : ∀ month, db.globalSpendMonthly.read 0 month =
    ⟨ledgerSpend db fun row => row.periodMonth == month,
      ledgerRequests db fun row => row.periodMonth == month⟩
  globalDay : ∀ day, db.globalSpendDaily.read 0 day =
    ⟨ledgerSpend db fun row => row.periodDay == day,
      ledgerRequests db fun row => row.periodDay == day⟩
  providerDay : ∀ provider day, db.providerSpendDaily.read 0 (provider, day) =
    ⟨ledgerSpend db fun row => row.provider == provider && row.periodDay == day,
      ledgerRequests db fun row => row.provider == provider && row.periodDay == day⟩
  installDay : ∀ installID day, db.installSpendDaily.read 0 (installID, day) =
    ⟨ledgerSpend db fun row => row.installID == installID && row.periodDay == day,
      ledgerRequests db fun row =>
        row.installID == installID && row.periodDay == day && row.sublimitApplied⟩

/-- A stored amount fits the column it is stored in. -/
def Fits (amount : ℤ) : Prop := 0 ≤ amount ∧ amount ≤ maxInt64

/-- Every counter of every stored row fits its column. -/
structure InRange (db : Database) : Prop where
  quotaMonthly : ∀ row ∈ db.quotaMonthly.rows, Fits row.2
  installCategoryDaily : ∀ row ∈ db.installCategoryDaily.rows, Fits row.2
  installSpendDaily : ∀ row ∈ db.installSpendDaily.rows, Fits row.2.spendPUSD ∧ Fits row.2.requests
  providerSpendDaily : ∀ row ∈ db.providerSpendDaily.rows, Fits row.2.spendPUSD ∧ Fits row.2.requests
  globalSpendDaily : ∀ row ∈ db.globalSpendDaily.rows, Fits row.2.spendPUSD ∧ Fits row.2.requests
  globalSpendMonthly : ∀ row ∈ db.globalSpendMonthly.rows,
    Fits row.2.spendPUSD ∧ Fits row.2.requests

/-! ## The invariant -/

/-- Every balance but the resettable monthly entitlement is the ledger's total
on its account. -/
def Balanced (db : Database) : Prop :=
  ∀ account, (∀ installID month, account ≠ .monthlyRequests installID month) →
    balance db account = db.spendLedger.tally fun _ row => entry row account

/-- No guarded counter has left its column's range upwards. -/
def Bounded (db : Database) : Prop :=
  ∀ account, (∀ month, account ≠ .monthRequests month) → balance db account ≤ maxInt64

theorem balance_empty : balance .empty = 0 := by
  funext account
  cases account <;> rfl

/-- Closing a row moves the ledger's total on an account by the change of that
row's entry. -/
theorem closed_tally {db after : Database} {requestID : String} {row closed : LedgerRow}
    (closing : Closed db after requestID row closed) (account : Account) :
    (after.spendLedger.tally fun _ row => entry row account) =
      (db.spendLedger.tally fun _ row => entry row account) +
        (entry closed account - entry row account) := by
  obtain ⟨condition, assign, met, rfl, updated⟩ := closing.ledger
  exact Table.tally_updateAt updated closing.held met fun _ row => entry row account

theorem balanced_step {db : Database} (call : Call) (balanced : Balanced db) :
    Balanced (step db call) := by
  intro account notReset
  have before := balanced account notReset
  cases step_effect db call with
  | unchanged same => rw [same, before]
  | opened requestID row _ _ inserted moved _ =>
    rw [moved, Pi.add_apply, before, Table.tally_insert inserted]
  | closed requestID row closed closing _ _ _ =>
    rw [closing.moved, Pi.add_apply, Pi.sub_apply, before, closed_tally closing]
  | reset month _ _ ledger cleared =>
    rw [cleared, ledger, ← before]
    cases account with
    | monthlyRequests installID other => exact absurd rfl (notReset installID other)
    | _ => rfl

theorem bounded_step {db : Database} (call : Call) (bounded : Bounded db) :
    Bounded (step db call) := by
  intro account guarded
  have before := bounded account guarded
  cases step_effect db call with
  | unchanged same => rwa [same]
  | opened _ _ _ _ _ _ within => exact (within account guarded).trans (max_le le_rfl before)
  | closed _ _ _ closing _ _ _ => exact (closing.within account guarded).trans (max_le le_rfl before)
  | reset month _ _ _ cleared =>
    rw [cleared]
    cases account with
    | monthlyRequests installID other =>
      simp only [afterReset]
      split
      · decide
      · exact before
    | _ => exact before

theorem balanced_run (calls : List Call) : Balanced (run .empty calls) :=
  runSteps_invariant (fun _ call => balanced_step call) fun account _ => by
    rw [balance_empty]
    rfl

theorem bounded_run (calls : List Call) : Bounded (run .empty calls) :=
  runSteps_invariant (fun _ call => bounded_step call) fun account _ => by
    rw [balance_empty, Pi.zero_apply]
    decide

/-! ## Reading the invariant per table -/

theorem tally_counted (db : Database) (matching : LedgerRow → Bool) :
    (db.spendLedger.tally fun _ row => if matching row then counted row else 0) =
      ledgerRequests db matching := by
  rw [ledgerRequests, ← Table.tally_ite_one db.spendLedger
    fun _ row => matching row && row.state != .rolledBack]
  congr 1
  funext _ row
  by_cases rolledBack : row.state = .rolledBack <;> simp [counted, rolledBack]

theorem conserved_of_balanced {db : Database} (balanced : Balanced db) : Conserved db where
  globalMonth month := by
    have spend := balanced (.monthSpend month) (by simp)
    have requests := balanced (.monthRequests month) (by simp)
    rw [← tally_counted]
    simp only [balance, entry] at spend requests
    simp [SpendRow.ext_iff, ledgerSpend, spend, requests]
  globalDay day := by
    have spend := balanced (.daySpend day) (by simp)
    have requests := balanced (.dayRequests day) (by simp)
    rw [← tally_counted]
    simp only [balance, entry] at spend requests
    simp [SpendRow.ext_iff, ledgerSpend, spend, requests]
  providerDay provider day := by
    have spend := balanced (.providerSpend provider day) (by simp)
    have requests := balanced (.providerRequests provider day) (by simp)
    rw [← tally_counted]
    simp only [balance, entry] at spend requests
    simp [SpendRow.ext_iff, ledgerSpend, spend, requests]
  installDay installID day := by
    have spend := balanced (.installSpend installID day) (by simp)
    have requests := balanced (.installRequests installID day) (by simp)
    rw [← tally_counted]
    simp only [balance, entry] at spend requests
    simp [SpendRow.ext_iff, ledgerSpend, spend, requests, and_assoc]

/-- The wallet's request counter needs no guard: it counts ledger rows, and a
table runs out of row numbers first. -/
theorem monthRequests_le {db : Database} (balanced : Balanced db) (month : String) :
    balance db (.monthRequests month) ≤ maxInt64 := by
  have counted := (conserved_of_balanced balanced).globalMonth month
  simp only [balance, counted]
  have rows : ledgerRequests db (fun row => row.periodMonth == month) ≤ maxRowid :=
    Nat.le_trans List.countP_le_length db.spendLedger.bounded
  unfold maxRowid at rows
  unfold maxInt64
  omega

theorem inRange_of_bounded {db : Database} (bounded : Bounded db)
    (months : ∀ month, balance db (.monthRequests month) ≤ maxInt64) : InRange db where
  quotaMonthly row member := by
    have held := Table.get?_eq_some.mpr member
    have high := bounded (.monthlyRequests row.1.1 row.1.2) (by simp)
    simp only [balance, Table.read, held, Option.getD_some] at high
    exact ⟨of_decide_eq_true (db.quotaMonthly.checked row member), high⟩
  installCategoryDaily row member := by
    have held := Table.get?_eq_some.mpr member
    have high := bounded (.categoryUnits row.1.1 row.1.2.1 row.1.2.2) (by simp)
    simp only [balance, Table.read, held, Option.getD_some] at high
    exact ⟨of_decide_eq_true (db.installCategoryDaily.checked row member), high⟩
  installSpendDaily row member := by
    have held := Table.get?_eq_some.mpr member
    have spend := bounded (.installSpend row.1.1 row.1.2) (by simp)
    have requests := bounded (.installRequests row.1.1 row.1.2) (by simp)
    simp only [balance, Table.read, held, Option.getD_some] at spend requests
    have low := Bool.and_eq_true_iff.mp (db.installSpendDaily.checked row member)
    exact ⟨⟨of_decide_eq_true low.1, spend⟩, of_decide_eq_true low.2, requests⟩
  providerSpendDaily row member := by
    have held := Table.get?_eq_some.mpr member
    have spend := bounded (.providerSpend row.1.1 row.1.2) (by simp)
    have requests := bounded (.providerRequests row.1.1 row.1.2) (by simp)
    simp only [balance, Table.read, held, Option.getD_some] at spend requests
    have low := Bool.and_eq_true_iff.mp
      (Bool.and_eq_true_iff.mp (db.providerSpendDaily.checked row member)).2
    exact ⟨⟨of_decide_eq_true low.1, spend⟩, of_decide_eq_true low.2, requests⟩
  globalSpendDaily row member := by
    have held := Table.get?_eq_some.mpr member
    have spend := bounded (.daySpend row.1) (by simp)
    have requests := bounded (.dayRequests row.1) (by simp)
    simp only [balance, Table.read, held, Option.getD_some] at spend requests
    have low := Bool.and_eq_true_iff.mp (db.globalSpendDaily.checked row member)
    exact ⟨⟨of_decide_eq_true low.1, spend⟩, of_decide_eq_true low.2, requests⟩
  globalSpendMonthly row member := by
    have held := Table.get?_eq_some.mpr member
    have spend := bounded (.monthSpend row.1) (by simp)
    have requests := months row.1
    simp only [balance, Table.read, held, Option.getD_some] at spend requests
    have low := Bool.and_eq_true_iff.mp (db.globalSpendMonthly.checked row member)
    exact ⟨⟨of_decide_eq_true low.1, spend⟩, of_decide_eq_true low.2, requests⟩

/-- **Ledger conservation.** After any run of serialized calls from an empty
database, failing calls included, every balance row is the ledger's sum on its
key, and every stored counter fits its column. -/
theorem ledger_conservation (calls : List Call) :
    Conserved (run .empty calls) ∧ InRange (run .empty calls) := by
  have balanced := balanced_run calls
  exact ⟨conserved_of_balanced balanced,
    inRange_of_bounded (bounded_run calls) (monthRequests_le balanced)⟩

end AnselmGateway.LedgerConservation
