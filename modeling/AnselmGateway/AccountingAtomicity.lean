import AnselmGateway.QuotaStoreSemantics

/-! Atomicity of accounting. A failed operation leaves no trace, and a rollback
undoes its reservation account by account: what it gives back is what the ledger
row recorded, whatever the limits have become. -/
namespace AnselmGateway.AccountingAtomicity
open Foundation Billing Quota QuotaStore Accounts QuotaStoreSemantics

/-- A row check keeps every stored counter from going below zero. -/
theorem balance_nonneg (db : Database) (account : Account) : 0 ≤ balance db account := by
  have stored {κ : Type} [DecidableEq κ] {schema : Schema κ SpendRow} (table : Table schema) (key : κ)
      (sound : ∀ row, schema.check key row = true → row.check = true) :
      0 ≤ (table.read 0 key).spendPUSD ∧ 0 ≤ (table.read 0 key).requests := by
    cases held : table.get? key with
    | none => simp [Table.read, held]
    | some row =>
      have low := Bool.and_eq_true_iff.mp (sound row (Table.checked_get? held))
      simpa [Table.read, held] using And.intro (of_decide_eq_true low.1) (of_decide_eq_true low.2)
  have plain {κ : Type} [DecidableEq κ] {schema : Schema κ ℤ} (table : Table schema) (key : κ)
      (sound : ∀ amount, schema.check key amount = true → 0 ≤ amount) : 0 ≤ table.read 0 key := by
    cases held : table.get? key with
    | none => simp [Table.read, held]
    | some amount => simpa [Table.read, held] using sound amount (Table.checked_get? held)
  cases account with
  | monthlyRequests installID month => exact plain _ _ fun _ checked => of_decide_eq_true checked
  | categoryUnits installID category day => exact plain _ _ fun _ checked => of_decide_eq_true checked
  | installSpend installID day => exact (stored _ _ fun _ checked => checked).1
  | installRequests installID day => exact (stored _ _ fun _ checked => checked).2
  | providerSpend provider day =>
    exact (stored _ _ fun _ checked => (Bool.and_eq_true_iff.mp checked).2).1
  | providerRequests provider day =>
    exact (stored _ _ fun _ checked => (Bool.and_eq_true_iff.mp checked).2).2
  | daySpend day => exact (stored _ _ fun _ checked => checked).1
  | dayRequests day => exact (stored _ _ fun _ checked => checked).2
  | monthSpend month => exact (stored _ _ fun _ checked => checked).1
  | monthRequests month => exact (stored _ _ fun _ checked => checked).2

/-! ## A rollback that has its balances succeeds -/

section Refund
variable {db : Database} {r : Reservation}

theorem refundRow_succeeds {κ : Type} [DecidableEq κ] {schema : Schema κ SpendRow} {op : String}
    {part : Part Database (Table schema)} {key : κ} {amount : ℤ}
    (spend : amount ≤ ((part.get db).read 0 key).spendPUSD)
    (requests : 1 ≤ ((part.get db).read 0 key).requests)
    (sound : ∀ row : SpendRow, 0 ≤ row.spendPUSD → 0 ≤ row.requests → schema.check key row = true) :
    ∃ after, refundRow op part key amount db = (.ok (), after) :=
  execOne_succeeds (by simp [spend, requests]) (by simp)
    (sound _ (Int.sub_nonneg_of_le spend) (Int.sub_nonneg_of_le requests))

theorem refundInstall_succeeds (priced : 0 < r.reservedPUSD.toInt)
    (spend : r.reservedPUSD.toInt ≤ balance db (.installSpend r.installID r.period.day))
    (requests : r.sublimitApplied = true →
      1 ≤ balance db (.installRequests r.installID r.period.day)) :
    ∃ after, refundInstall r db = (.ok (), after) := by
  have sound (row : SpendRow) (low : 0 ≤ row.spendPUSD) (counted : 0 ≤ row.requests) :
      installSpendSchema.check (r.installID, r.period.day) row = true := by
    simp [installSpendSchema, SpendRow.check, low, counted]
  unfold refundInstall
  split
  · rename_i applied
    exact refundRow_succeeds spend (requests applied) sound
  · exact execOne_succeeds (decide_eq_true spend) (by simpa using priced)
      (sound _ (Int.sub_nonneg_of_le spend)
        (balance_nonneg db (.installRequests r.installID r.period.day)))

theorem refundCategory_succeeds (now : ℤ)
    (units : heldUnits (openRow now r) ≤
      balance db (.categoryUnits r.installID r.categoryApplied r.period.day)) :
    ∃ after, refundCategory r db = (.ok (), after) := by
  unfold refundCategory
  split
  · rename_i held
    rw [heldUnits, if_pos ⟨held.1, toInt_pos.mpr held.2⟩] at units
    exact execOne_succeeds (decide_eq_true units) (by simpa using toInt_pos.mpr held.2)
      (decide_eq_true (Int.sub_nonneg_of_le units))
  · exact ⟨db, rfl⟩

/-- A database that holds a reservation's whole entry can give it back. -/
theorem refundBalances_succeeds (db : Database) (now : ℤ) (known : r.plan.provider = providerQwen)
    (priced : 0 < r.reservedPUSD.toInt)
    (covered : ∀ account, entry (openRow now r) account ≤ balance db account) :
    ∃ after, refundBalances r db = (.ok (), after) := by
  have spendSound (key : String) (row : SpendRow) (low : 0 ≤ row.spendPUSD)
      (counted : 0 ≤ row.requests) : globalSpendSchema.check key row = true := by
    simp [globalSpendSchema, SpendRow.check, low, counted]
  have providerSound (row : SpendRow) (low : 0 ≤ row.spendPUSD) (counted : 0 ≤ row.requests) :
      providerSpendSchema.check (r.plan.provider, r.period.day) row = true := by
    simp [providerSpendSchema, SpendRow.check, known, low, counted]
  have spend (account : Account) (held : entry (openRow now r) account = r.reservedPUSD.toInt) :
      r.reservedPUSD.toInt ≤ balance db account := held ▸ covered account
  have requests (account : Account) (held : entry (openRow now r) account = 1) :
      1 ≤ balance db account := held ▸ covered account
  obtain ⟨db₁, ran₁⟩ := refundInstall_succeeds priced
    (spend (.installSpend r.installID r.period.day) (by simp [entry, openRow, value]))
    fun applied => requests (.installRequests r.installID r.period.day)
      (by simp [entry, openRow, counted, applied])
  have moved₁ := refundInstall_ok ran₁
  have units : heldUnits (openRow now r) ≤
      balance db₁ (.categoryUnits r.installID r.categoryApplied r.period.day) := by
    have booked := covered (.categoryUnits r.installID r.categoryApplied r.period.day)
    rw [entry] at booked
    split at moved₁ <;> simpa [moved₁.moved, openRow, counted] using booked
  obtain ⟨db₂, ran₂⟩ := refundCategory_succeeds now units
  have moved₂ := moved₁.trans (refundCategory_ok now ran₂)
  obtain ⟨db₃, ran₃⟩ : ∃ db₃, refundRow "provider rollback" providerSpendDaily
      (r.plan.provider, r.period.day) r.reservedPUSD.toInt db₂ = (.ok (), db₃) := by
    refine refundRow_succeeds ?_ ?_ providerSound
    · change _ ≤ balance db₂ (.providerSpend r.plan.provider r.period.day)
      split at moved₂ <;> simpa [moved₂.moved] using spend _ (by simp [entry, openRow, value])
    · change _ ≤ balance db₂ (.providerRequests r.plan.provider r.period.day)
      split at moved₂ <;> simpa [moved₂.moved] using requests _ (by simp [entry, openRow, counted])
  have moved₃ := moved₂.trans (refundRow_ok providerBooks rfl ran₃)
  obtain ⟨db₄, ran₄⟩ : ∃ db₄, refundRow "global rollback" globalSpendDaily r.period.day
      r.reservedPUSD.toInt db₃ = (.ok (), db₄) := by
    refine refundRow_succeeds ?_ ?_ (spendSound _)
    · change _ ≤ balance db₃ (.daySpend r.period.day)
      split at moved₃ <;> simpa [moved₃.moved] using spend _ (by simp [entry, openRow, value])
    · change _ ≤ balance db₃ (.dayRequests r.period.day)
      split at moved₃ <;> simpa [moved₃.moved] using requests _ (by simp [entry, openRow, counted])
  have moved₄ := moved₃.trans (refundRow_ok dayBooks rfl ran₄)
  obtain ⟨db₅, ran₅⟩ : ∃ db₅, refundRow "global month rollback" globalSpendMonthly r.period.month
      r.reservedPUSD.toInt db₄ = (.ok (), db₅) := by
    refine refundRow_succeeds ?_ ?_ (spendSound _)
    · change _ ≤ balance db₄ (.monthSpend r.period.month)
      split at moved₄ <;> simpa [moved₄.moved] using spend _ (by simp [entry, openRow, value])
    · change _ ≤ balance db₄ (.monthRequests r.period.month)
      split at moved₄ <;> simpa [moved₄.moved] using requests _ (by simp [entry, openRow, counted])
  have moved₅ := moved₄.trans (refundRow_ok monthBooks rfl ran₅)
  have monthly : 1 ≤ balance db₅ (.monthlyRequests r.installID r.period.month) := by
    split at moved₅ <;> simpa [moved₅.moved] using requests _ (by simp [entry, openRow, counted])
  obtain ⟨db₆, ran₆⟩ : ∃ db₆, execOne "month rollback" quotaMonthly (r.installID, r.period.month)
      (fun requests => decide (1 ≤ requests)) (fun requests => requests - 1) db₅ = (.ok (), db₆) :=
    execOne_succeeds (decide_eq_true monthly) rfl (decide_eq_true (Int.sub_nonneg_of_le monthly))
  exact ⟨db₆, Tx.bind_ok.mpr ⟨(), db₁, ran₁, Tx.bind_ok.mpr ⟨(), db₂, ran₂,
    Tx.bind_ok.mpr ⟨(), db₃, ran₃, Tx.bind_ok.mpr ⟨(), db₄, ran₄,
      Tx.bind_ok.mpr ⟨(), db₅, ran₅, ran₆⟩⟩⟩⟩⟩⟩

end Refund

/-! ## Reserve, then roll back -/

theorem newRequestID_ne_empty (random : List UInt8) : newRequestID random ≠ "" := by
  intro empty
  have length := congrArg String.length empty
  simp [newRequestID] at length

theorem stillOpen_openRow (now : ℤ) (r : Reservation) : stillOpen r (openRow now r) = true := by
  simp [stillOpen, openRow]

/-- The reservation a successful call hands out passes its own validation. -/
theorem validateReservation_granted {requestID installID : String} {plan : Plan} {p : Period}
    {lim : Limits} (identified : requestID ≠ "") (owned : installID ≠ "")
    (valid : validatePlan plan = .ok ()) :
    validateReservation (some (granted requestID installID plan p lim)) =
      .ok (granted requestID installID plan p lim) := by
  have priced := (validatePlan_ok valid).2
  have positive : ¬plan.reservedPUSD ≤ 0 := Int64.not_le.mpr (toInt_pos.mp priced)
  simp [validateReservation, granted, identified, owned, positive, valid, Except.map]

/-- A reservation whose row is still open and whose entry is on the books can be
rolled back: its row is closed and its entry taken off. -/
theorem rollback_succeeds {r : Reservation} {db : Database} {now : ℤ} (later : ℤ)
    (accepted : validateReservation (some r) = .ok r)
    (held : db.spendLedger.get? r.requestID = some (openRow now r))
    (covered : ∀ account, entry (openRow now r) account ≤ balance db account) :
    ∃ final, rollback later (some r) db = (.ok (), final) ∧
      final.spendLedger.get? r.requestID = some (rolledBackRow later (openRow now r)) ∧
      balance final = balance db + -entry (openRow now r) := by
  obtain ⟨_, _, _, quoted, _, priced⟩ := validateReservation_ok accepted
  have provider := (validate_ok (validatePlan_ok priced).1).1
  obtain ⟨table, updated⟩ := Table.updateAt_succeeds held (stillOpen_openRow now r)
    (terminal_rows_accepted later 0 le_rfl (Table.checked_get? held)).2.1
  obtain ⟨final, balances⟩ := refundBalances_succeeds { db with spendLedger := table } now
    provider quoted covered
  have given := refundBalances_ok now balances
  refine ⟨final, ?_, ?_, given.moved⟩
  · refine Tx.bind_ok.mpr ⟨r, db, Tx.ofExcept_ok.mpr ⟨accepted, rfl⟩, Tx.transaction_ok.mpr ?_⟩
    refine Tx.bind_ok.mpr ⟨1, { db with spendLedger := table }, ?_, balances⟩
    simp only [execCount, spendLedger, updated]
  · rw [given.ledger]
    change table.get? r.requestID = _
    rw [Table.get?_updateAt updated held (stillOpen_openRow now r), if_pos rfl]

/-- A rollback right after its reservation succeeds and restores every counter
and every spend balance. -/
theorem rollback_restores {random : List UInt8} {now : ℤ} {installID : String} {plan : Plan}
    {p : Period} {lim : Limits} {db after : Database} {r : Reservation} (owned : installID ≠ "")
    (ran : reserve random now installID plan p lim db = (.ok r, after)) (later : ℤ) :
    ∃ final, rollback later (some r) after = (.ok (), final) ∧ balance final = balance db := by
  obtain ⟨valid, rfl, _, moved, inserted⟩ := reserve_ok ran
  have held : after.spendLedger.get? (newRequestID random) =
      some (openRow now (granted (newRequestID random) installID plan p lim)) := by
    rw [Table.get?_insert inserted, if_pos rfl]
  have booked (account : Account) :
      entry (openRow now (granted (newRequestID random) installID plan p lim)) account ≤
        balance after account := by
    have before := balance_nonneg db account
    rw [moved, Pi.add_apply]
    omega
  obtain ⟨final, closed, _, given⟩ := rollback_succeeds later
    (validateReservation_granted (newRequestID_ne_empty random) owned valid) held booked
  exact ⟨final, closed, by rw [given, moved, add_neg_cancel_right]⟩

/-- A terminal call whose reservation disagrees with the stored row in any frozen
field leaves the database alone. -/
theorem disagreement_idle {r : Reservation} {db : Database}
    (disagrees : ∀ row, db.spendLedger.get? r.requestID = some row → stillOpen r row = false)
    (now : ℤ) (actualPUSD : Int64) :
    (settle now (some r) actualPUSD db).2 = db ∧ (rollback now (some r) db).2 = db := by
  have never {opened : ℤ} (held : db.spendLedger.get? r.requestID = some (openRow opened r)) :
      False := by
    have agrees := stillOpen_openRow opened r
    rw [disagrees _ held] at agrees
    cases agrees
  constructor
  · rcases ran : settle now (some r) actualPUSD db with ⟨failure | _, after⟩
    · exact settle_failed ran
    · obtain ⟨_, same, _, unchanged | ⟨opened, closing⟩⟩ := settle_ok ran
      · exact unchanged
      · cases same
        exact (never closing.held).elim
  · rcases ran : rollback now (some r) db with ⟨failure | _, after⟩
    · exact rollback_failed ran
    · obtain ⟨_, same, unchanged | ⟨opened, closing⟩⟩ := rollback_ok ran
      · exact unchanged
      · cases same
        exact (never closing.held).elim

/-- **Accounting is atomic.** A reservation, settlement or rollback that reports
an error, or that disagrees with the stored row, leaves every table as it was;
and rolling a successful reservation straight back restores every balance, no
limits being consulted on the way back. A reservation is only made
for an install that is registered, so its id is not empty; `Rollback` refuses one that is. -/
theorem accounting_atomicity :
    (∀ random now installID plan p lim db failure after,
      reserve random now installID plan p lim db = (.error failure, after) → after = db) ∧
    (∀ now presented actualPUSD db failure after,
      settle now presented actualPUSD db = (.error failure, after) → after = db) ∧
    (∀ now presented db failure after,
      rollback now presented db = (.error failure, after) → after = db) ∧
    (∀ (r : Reservation) (db : Database),
      (∀ row, db.spendLedger.get? r.requestID = some row → stillOpen r row = false) →
      ∀ now actualPUSD,
        (settle now (some r) actualPUSD db).2 = db ∧ (rollback now (some r) db).2 = db) ∧
    (∀ random now installID plan p lim db r after, installID ≠ "" →
      reserve random now installID plan p lim db = (.ok r, after) →
      ∀ later, ∃ final, rollback later (some r) after = (.ok (), final) ∧
        balance final = balance db) :=
  ⟨fun _ _ _ _ _ _ _ _ _ ran => reserve_failed ran, fun _ _ _ _ _ _ ran => settle_failed ran,
    fun _ _ _ _ _ ran => rollback_failed ran, fun _ _ disagrees => disagreement_idle disagrees,
    fun _ _ _ _ _ _ _ _ _ owned ran => rollback_restores owned ran⟩

/-- An image request over the wallet is refused without a trace, and an admitted
one is given back whole. -/
theorem accounting_atomicity_images :
    (reserve [1] 0 "install" imagePlan august
        { imageLimits with globalMonthlySpendPUSD := 1, wallet_nonneg := by decide } .empty).2 = .empty ∧
      ∃ final, rollback 7 (some (granted (newRequestID [1]) "install" imagePlan august imageLimits))
          (reserve [1] 0 "install" imagePlan august imageLimits .empty).2 = (.ok (), final) ∧
        balance final = balance .empty :=
  ⟨accounting_atomicity.1 [1] 0 "install" imagePlan august _ .empty .budgetExceeded _
      (Prod.ext (by decide) rfl),
    accounting_atomicity.2.2.2.2 [1] 0 "install" imagePlan august imageLimits .empty _ _ (by decide)
      (Prod.ext (by decide) rfl) 7⟩

end AnselmGateway.AccountingAtomicity
