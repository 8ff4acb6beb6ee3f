import AnselmGateway.AccountingAtomicity

/-! When a reservation goes through. A call whose gates are met, whose request id is new and
whose rows have numbers left succeeds, and a call at its monthly entitlement is refused
before anything else is looked at. -/
namespace AnselmGateway.ReserveAdmission
open Foundation Billing Quota QuotaStore Accounts QuotaStoreSemantics

/-! ## Statements that go through -/

section Table
variable {κ ν : Type} [DecidableEq κ] {schema : Schema κ ν} {table : Table schema} {key : κ} {value : ν}

/-- A row number left is all `INSERT OR IGNORE` asks of a valid row. -/
theorem insertOrIgnore_succeeds (valid : schema.check key value = true) (spare : table.rows.length < maxRowid) :
    ∃ after, table.insertOrIgnore key value = .ok after ∧ after.get? key = some (table.read value key) := by
  obtain ⟨after, ran⟩ : ∃ after, table.insertOrIgnore key value = .ok after := by
    unfold Table.insertOrIgnore
    split
    · exact ⟨_, rfl⟩
    · rename_i full
      unfold Table.insert at full
      split at full
      · cases full
      · cases full
    · exact ⟨_, rfl⟩
  refine ⟨after, ran, ?_⟩
  rw [Table.get?_insertOrIgnore valid ran, if_pos rfl]
  rfl

/-- A condition the row does not meet leaves it alone. -/
theorem updateAt_missed {condition : ν → Bool} {assign : ν → ν} (held : table.get? key = some value)
    (missed : condition value = false) : table.updateWhere (Table.at' key condition) assign = .ok (table, 0) := by
  have idle : ∀ row ∈ table.rows, Table.at' key condition row.1 row.2 = false := by
    rintro ⟨other, stored⟩ member
    by_cases same : other = key
    · subst same
      rw [Table.get?_eq_some.mpr member] at held
      cases held
      simp [Table.at', missed]
    · simp [Table.at', same]
  have kept : (table.rows.map fun row => (row.1, if Table.at' key condition row.1 row.2 then assign row.2 else row.2)) =
      table.rows := by
    conv_rhs => rw [← List.map_id table.rows]
    exact List.map_congr_left fun row member => by simp [idle row member]
  unfold Table.updateWhere
  simp only [kept]
  rw [dif_pos table.checked, List.countP_eq_zero.mpr fun row member => by simp [idle row member]]

end Table

section Statements
variable {κ ν : Type} [DecidableEq κ] {schema : Schema κ ν} (op : String) (part : Part Database (Table schema))
  (key : κ) (db : Database) {value : ν}

theorem upsert_succeeds (value : ν) (valid : schema.check key value = true) (spare : (part.get db).rows.length < maxRowid) :
    ∃ table, upsert op part key value db = (.ok (), part.set table db) ∧
      table.get? key = some ((part.get db).read value key) := by
  obtain ⟨table, ran, held⟩ := insertOrIgnore_succeeds valid spare
  exact ⟨table, by rw [upsert, ran], held⟩

theorem execOne_held (condition : ν → Bool) (assign : ν → ν) (held : (part.get db).get? key = some value) (met : condition value = true)
    (valid : schema.check key (assign value) = true) :
    ∃ table, execOne op part key condition assign db = (.ok (), part.set table db) ∧
      table.get? key = some (assign value) := by
  obtain ⟨table, updated⟩ := Table.updateAt_succeeds held met valid
  refine ⟨table, Tx.bind_ok.mpr ⟨1, _, ?_, rfl⟩, ?_⟩
  · rw [execCount, updated]
  · rw [Table.get?_updateAt updated held met, if_pos rfl]

theorem execOne_missed (condition : ν → Bool) (assign : ν → ν) (held : (part.get db).get? key = some value) (missed : condition value = false) :
    execOne op part key condition assign db = (.error (.conditionalMiss op), part.set (part.get db) db) := by
  refine Tx.bind_failure.mpr (Or.inr ⟨0, _, ?_, rfl⟩)
  rw [execCount, updateAt_missed held missed]

end Statements

/-! ## Gates that let a call through -/

/-- Every table the store writes has a row number left. -/
structure Spare (db : Database) : Prop where
  quotaMonthly : db.quotaMonthly.rows.length < maxRowid
  installSpendDaily : db.installSpendDaily.rows.length < maxRowid
  installCategoryDaily : db.installCategoryDaily.rows.length < maxRowid
  providerSpendDaily : db.providerSpendDaily.rows.length < maxRowid
  globalSpendDaily : db.globalSpendDaily.rows.length < maxRowid
  globalSpendMonthly : db.globalSpendMonthly.rows.length < maxRowid
  spendLedger : db.spendLedger.rows.length < maxRowid

instance : DecidablePred Spare := fun _ =>
  decidable_of_iff (_ ∧ _ ∧ _ ∧ _ ∧ _ ∧ _ ∧ _)
    ⟨fun ⟨month, installDay, category, providerDay, globalDay, globalMonth, ledger⟩ =>
      ⟨month, installDay, category, providerDay, globalDay, globalMonth, ledger⟩,
    fun spare => ⟨spare.quotaMonthly, spare.installSpendDaily, spare.installCategoryDaily, spare.providerSpendDaily,
      spare.globalSpendDaily, spare.globalSpendMonthly, spare.spendLedger⟩⟩

theorem check_add {row : SpendRow} {spend requests : ℤ} (checked : row.check = true) (money : 0 ≤ spend)
    (count : 0 ≤ requests) : SpendRow.check ⟨row.spendPUSD + spend, row.requests + requests⟩ = true := by
  simp only [SpendRow.check, Bool.and_eq_true, decide_eq_true_eq] at checked ⊢
  omega

theorem check_read {κ : Type} [DecidableEq κ] {schema : Schema κ SpendRow} (table : Table schema) (key : κ)
    (sound : ∀ row, schema.check key row = true → row.check = true) : (table.read 0 key).check = true := by
  cases held : table.get? key with
  | none => simp [Table.read, held, SpendRow.check]
  | some row => simpa [Table.read, held] using sound row (Table.checked_get? held)

section Gates
variable {installID : String} {plan : Plan} {p : Period} {lim : Limits} {db : Database}

theorem reserveMonthly_succeeds (spare : db.quotaMonthly.rows.length < maxRowid)
    (left : balance db (.monthlyRequests installID p.month) < lim.monthlyQuota.toInt) :
    ∃ table, reserveMonthly installID p lim db = (.ok (), quotaMonthly.set table db) := by
  obtain ⟨created, upserted, held⟩ :=
    upsert_succeeds "month upsert" quotaMonthly (installID, p.month) db 0 rfl spare
  have nonneg := AccountingAtomicity.balance_nonneg db (.monthlyRequests installID p.month)
  obtain ⟨table, counted, _⟩ := execOne_held "month reserve" quotaMonthly (installID, p.month)
    (quotaMonthly.set created db) (fun requests => decide (requests < lim.monthlyQuota.toInt))
    (fun requests => requests + 1) held (decide_eq_true left) (decide_eq_true (Int.add_nonneg nonneg (by decide)))
  exact ⟨table, Tx.bind_ok.mpr ⟨(), _, upserted, Tx.mapFailure_ok.mpr counted⟩⟩

/-- At its entitlement a call is refused by this gate, and by no other. -/
theorem reserveMonthly_refuses (spare : db.quotaMonthly.rows.length < maxRowid)
    (used : lim.monthlyQuota.toInt ≤ balance db (.monthlyRequests installID p.month)) :
    ∃ after, reserveMonthly installID p lim db = (.error .monthlyExhausted, after) := by
  obtain ⟨created, upserted, held⟩ :=
    upsert_succeeds "month upsert" quotaMonthly (installID, p.month) db 0 rfl spare
  have missed := execOne_missed "month reserve" quotaMonthly (installID, p.month) (quotaMonthly.set created db)
    (fun requests => decide (requests < lim.monthlyQuota.toInt)) (fun requests => requests + 1) held
    (decide_eq_false (Int.not_lt.mpr used))
  rw [reserveMonthly, Tx.bind_of_ok upserted, Tx.mapFailure, missed]
  exact ⟨_, rfl⟩

/-- The install's day row is there afterwards, for the sublimit to count in. -/
theorem reserveInstallDay_succeeds (priced : 0 < plan.reservedPUSD.toInt)
    (spare : db.installSpendDaily.rows.length < maxRowid)
    (room : balance db (.installSpend installID p.day) + plan.reservedPUSD.toInt ≤ maxInt64) :
    ∃ table, reserveInstallDay installID plan p db = (.ok (), installSpendDaily.set table db) ∧
      (table.get? (installID, p.day)).isSome = true := by
  obtain ⟨created, upserted, held⟩ :=
    upsert_succeeds "install-day upsert" installSpendDaily (installID, p.day) db 0 rfl spare
  have sound := check_read db.installSpendDaily (installID, p.day) fun _ checked => checked
  obtain ⟨table, counted, kept⟩ := execOne_held "install spend reserve" installSpendDaily (installID, p.day)
    (installSpendDaily.set created db)
    (fun row => decide (row.spendPUSD ≤ (Int64.maxValue - plan.reservedPUSD).toInt))
    (fun row => { row with spendPUSD := row.spendPUSD + plan.reservedPUSD.toInt }) held
    (decide_eq_true ((le_ceiling_iff priced.le).mpr room))
    (by simpa [installSpendSchema, installSpendDaily] using check_add sound priced.le le_rfl)
  exact ⟨table, Tx.bind_ok.mpr ⟨(), _, upserted, counted⟩, by rw [kept]; rfl⟩

theorem reserveSublimit_succeeds (there : (db.installSpendDaily.get? (installID, p.day)).isSome = true)
    (room : 0 < lim.dailySublimit.toInt → balance db (.installRequests installID p.day) < lim.dailySublimit.toInt) :
    ∃ table, reserveSublimit installID p lim db =
      (.ok (decide (lim.dailySublimit > 0)), installSpendDaily.set table db) := by
  unfold reserveSublimit
  split
  · rename_i enabled
    obtain ⟨row, held⟩ := Option.isSome_iff_exists.mp there
    have read : db.installSpendDaily.read 0 (installID, p.day) = row := by rw [Table.read, held]; rfl
    have below := room (toInt_pos.mpr enabled)
    simp only [balance, read] at below
    have sound : row.check = true := Table.checked_get? held
    obtain ⟨table, counted, _⟩ := execOne_held "daily sublimit reserve" installSpendDaily (installID, p.day) db
      (fun row => decide (row.requests < lim.dailySublimit.toInt))
      (fun row => { row with requests := row.requests + 1 }) held (decide_eq_true below)
      (by simpa [installSpendSchema] using check_add sound le_rfl (by decide))
    refine ⟨table, Tx.bind_ok.mpr ⟨(), _, Tx.mapFailure_ok.mpr counted, ?_⟩⟩
    rw [decide_eq_true enabled]
    rfl
  · rename_i disabled
    exact ⟨db.installSpendDaily, by rw [decide_eq_false disabled]; rfl⟩

theorem reserveCategory_succeeds (valid : plan.validate = .ok ())
    (spare : db.installCategoryDaily.rows.length < maxRowid)
    (room : (planCategory plan).1 ≠ "" →
      balance db (.categoryUnits installID (planCategory plan).1 p.day) + (planCategory plan).2.toInt ≤
        if 0 < (categoryCap (planCategory plan).1 lim).toInt then (categoryCap (planCategory plan).1 lim).toInt
        else maxInt64) :
    ∃ table, reserveCategory installID plan p lim db =
      (.ok (planCategory plan), installCategoryDaily.set table db) := by
  unfold reserveCategory
  dsimp only
  split
  · rename_i named
    have positive := planCategory_positive valid named
    have room := room named
    obtain ⟨created, upserted, held⟩ := upsert_succeeds "category-day upsert" installCategoryDaily
      (installID, (planCategory plan).1, p.day) db 0 rfl spare
    have nonneg := AccountingAtomicity.balance_nonneg db (.categoryUnits installID (planCategory plan).1 p.day)
    have sound := decide_eq_true (Int.add_nonneg nonneg positive.le)
    by_cases enabled : categoryCap (planCategory plan).1 lim > 0
    · rw [if_pos (toInt_pos.mpr enabled)] at room
      obtain ⟨table, counted, _⟩ := execOne_held "category daily reserve" installCategoryDaily
        (installID, (planCategory plan).1, p.day) (installCategoryDaily.set created db)
        (fun held => decide (held + (planCategory plan).2.toInt ≤ (categoryCap (planCategory plan).1 lim).toInt))
        (fun held => held + (planCategory plan).2.toInt) held (decide_eq_true room) sound
      refine ⟨table, Tx.bind_ok.mpr ⟨(), _, upserted, ?_⟩⟩
      rw [if_pos enabled]
      exact Tx.bind_ok.mpr ⟨(), _, Tx.mapFailure_ok.mpr counted, rfl⟩
    · rw [if_neg (fun cap => enabled (toInt_pos.mp cap))] at room
      obtain ⟨table, counted, _⟩ := execOne_held "category daily record" installCategoryDaily
        (installID, (planCategory plan).1, p.day) (installCategoryDaily.set created db)
        (fun held => decide (held ≤ (Int64.maxValue - (planCategory plan).2).toInt))
        (fun held => held + (planCategory plan).2.toInt) held
        (decide_eq_true ((le_ceiling_iff positive.le).mpr room)) sound
      refine ⟨table, Tx.bind_ok.mpr ⟨(), _, upserted, ?_⟩⟩
      rw [if_neg enabled]
      exact Tx.bind_ok.mpr ⟨(), _, counted, rfl⟩
  · rename_i unnamed
    exact ⟨db.installCategoryDaily, by rw [planCategory_unnamed (not_not.mp unnamed)]; rfl⟩

theorem reserveProviderDay_succeeds (known : plan.provider = providerQwen) (priced : 0 < plan.reservedPUSD.toInt)
    (spare : db.providerSpendDaily.rows.length < maxRowid)
    (room : balance db (.providerSpend plan.provider p.day) + plan.reservedPUSD.toInt ≤ maxInt64)
    (few : balance db (.providerRequests plan.provider p.day) < maxInt64) :
    ∃ table, reserveProviderDay plan p db = (.ok (), providerSpendDaily.set table db) := by
  have qwen : (plan.provider == providerQwen) = true := beq_iff_eq.mpr known
  obtain ⟨created, upserted, held⟩ := upsert_succeeds "provider-day upsert" providerSpendDaily
    (plan.provider, p.day) db 0 (by simp [providerSpendSchema, qwen, SpendRow.check]) spare
  have sound := check_read db.providerSpendDaily (plan.provider, p.day)
    fun _ checked => (Bool.and_eq_true_iff.mp checked).2
  obtain ⟨table, counted, _⟩ := execOne_held "provider spend reserve" providerSpendDaily (plan.provider, p.day)
    (providerSpendDaily.set created db)
    (fun row => decide (row.spendPUSD ≤ (Int64.maxValue - plan.reservedPUSD).toInt) &&
      decide (row.requests < Int64.maxValue.toInt))
    (fun row => ⟨row.spendPUSD + plan.reservedPUSD.toInt, row.requests + 1⟩) held
    (Bool.and_eq_true_iff.mpr ⟨decide_eq_true ((le_ceiling_iff priced.le).mpr room), decide_eq_true few⟩)
    (Bool.and_eq_true_iff.mpr ⟨qwen, check_add sound priced.le (by decide)⟩)
  exact ⟨table, Tx.bind_ok.mpr ⟨(), _, upserted, counted⟩⟩

theorem reserveGlobalDay_succeeds (priced : 0 < plan.reservedPUSD.toInt)
    (spare : db.globalSpendDaily.rows.length < maxRowid)
    (room : balance db (.daySpend p.day) + plan.reservedPUSD.toInt ≤ maxInt64)
    (few : balance db (.dayRequests p.day) < maxInt64) :
    ∃ table, reserveGlobalDay plan p db = (.ok (), globalSpendDaily.set table db) := by
  obtain ⟨created, upserted, held⟩ :=
    upsert_succeeds "global-day upsert" globalSpendDaily p.day db 0 rfl spare
  have sound := check_read db.globalSpendDaily p.day fun _ checked => checked
  obtain ⟨table, counted, _⟩ := execOne_held "global spend reserve" globalSpendDaily p.day
    (globalSpendDaily.set created db)
    (fun row => decide (row.spendPUSD ≤ (Int64.maxValue - plan.reservedPUSD).toInt) &&
      decide (row.requests < Int64.maxValue.toInt))
    (fun row => ⟨row.spendPUSD + plan.reservedPUSD.toInt, row.requests + 1⟩) held
    (Bool.and_eq_true_iff.mpr ⟨decide_eq_true ((le_ceiling_iff priced.le).mpr room), decide_eq_true few⟩)
    (check_add sound priced.le (by decide))
  exact ⟨table, Tx.bind_ok.mpr ⟨(), _, upserted, counted⟩⟩

theorem reserveGlobalMonth_succeeds (priced : 0 < plan.reservedPUSD.toInt)
    (spare : db.globalSpendMonthly.rows.length < maxRowid)
    (room : balance db (.monthSpend p.month) + plan.reservedPUSD.toInt ≤ lim.globalMonthlySpendPUSD.toInt) :
    ∃ table, reserveGlobalMonth plan p lim db = (.ok (), globalSpendMonthly.set table db) := by
  obtain ⟨created, upserted, held⟩ :=
    upsert_succeeds "global-month upsert" globalSpendMonthly p.month db 0 rfl spare
  have sound := check_read db.globalSpendMonthly p.month fun _ checked => checked
  have capacity := toInt_sub_of_nonneg lim.wallet_nonneg priced.le
  obtain ⟨table, counted, _⟩ := execOne_held "global month reserve" globalSpendMonthly p.month
    (globalSpendMonthly.set created db)
    (fun row => decide (row.spendPUSD ≤ (lim.globalMonthlySpendPUSD - plan.reservedPUSD).toInt))
    (fun row => ⟨row.spendPUSD + plan.reservedPUSD.toInt, row.requests + 1⟩) held
    (decide_eq_true (capacity ▸ Int.le_sub_right_of_add_le room)) (check_add sound priced.le (by decide))
  exact ⟨table, Tx.bind_ok.mpr ⟨(), _, upserted, Tx.mapFailure_ok.mpr counted⟩⟩

/-! ## The whole reservation -/

theorem insertLedger_succeeds {r : Reservation} {now : ℤ} (known : r.plan.provider = providerQwen)
    (priced : 0 < r.reservedPUSD.toInt) (fresh : db.spendLedger.get? r.requestID = none)
    (spare : db.spendLedger.rows.length < maxRowid) : ∃ after, insertLedger now r db = (.ok (), after) := by
  have valid : spendLedgerSchema.check r.requestID (openRow now r) = true := by
    simp [spendLedgerSchema, LedgerRow.check, LedgerRow.evidence, openRow, known, priced]
  unfold insertLedger Table.insert
  rw [dif_neg (Table.get?_eq_none.mp fresh), dif_pos valid, dif_pos spare]
  exact ⟨_, rfl⟩

/-- A call that meets its gates is handed its reservation. -/
theorem reserve_succeeds {random : List UInt8} {now : ℤ} (valid : validatePlan plan = .ok ())
    (admitted : Admitted db installID plan p lim) (spare : Spare db)
    (fresh : db.spendLedger.get? (newRequestID random) = none) :
    ∃ after, reserve random now installID plan p lim db =
      (.ok (granted (newRequestID random) installID plan p lim), after) := by
  obtain ⟨known, priced⟩ := validatePlan_ok valid
  have provider := (validate_ok known).1
  -- Each gate reads its balance as it was, and writes a table that no later gate reads or fills.
  obtain ⟨t₁, ran₁⟩ := reserveMonthly_succeeds spare.quotaMonthly admitted.monthly
  let db₁ := quotaMonthly.set t₁ db
  have moved₁ : Moved db db₁ _ := (reserveMonthly_ok ran₁).2
  obtain ⟨t₂, ran₂, there⟩ : ∃ t₂, reserveInstallDay installID plan p db₁ = (.ok (), installSpendDaily.set t₂ db₁) ∧
      (t₂.get? (installID, p.day)).isSome = true :=
    reserveInstallDay_succeeds priced spare.installSpendDaily (by simpa [moved₁.moved] using admitted.installDay)
  let db₂ := installSpendDaily.set t₂ db₁
  have moved₂ : Moved db db₂ _ := moved₁.trans (reserveInstallDay_ok priced ran₂).2
  obtain ⟨t₃, ran₃⟩ : ∃ t₃, reserveSublimit installID p lim db₂ =
      (.ok (decide (lim.dailySublimit > 0)), installSpendDaily.set t₃ db₂) :=
    reserveSublimit_succeeds there (by simpa [moved₂.moved] using admitted.sublimit)
  let db₃ := installSpendDaily.set t₃ db₂
  have moved₃ : Moved db db₃ _ := moved₂.trans (reserveSublimit_ok ran₃).2.2
  obtain ⟨t₄, ran₄⟩ : ∃ t₄, reserveCategory installID plan p lim db₃ =
      (.ok (planCategory plan), installCategoryDaily.set t₄ db₃) :=
    reserveCategory_succeeds known spare.installCategoryDaily
      (by split at moved₃ <;> simpa [moved₃.moved] using admitted.category)
  let db₄ := installCategoryDaily.set t₄ db₃
  have moved₄ : Moved db db₄ _ := moved₃.trans (reserveCategory_ok known ran₄).2.2
  obtain ⟨t₅, ran₅⟩ : ∃ t₅, reserveProviderDay plan p db₄ = (.ok (), providerSpendDaily.set t₅ db₄) :=
    reserveProviderDay_succeeds provider priced spare.providerSpendDaily
      (by split at moved₄ <;> simpa [moved₄.moved] using admitted.providerDay.1)
      (by split at moved₄ <;> simpa [moved₄.moved] using admitted.providerDay.2)
  let db₅ := providerSpendDaily.set t₅ db₄
  have moved₅ : Moved db db₅ _ := moved₄.trans (reserveProviderDay_ok priced ran₅).2
  obtain ⟨t₆, ran₆⟩ : ∃ t₆, reserveGlobalDay plan p db₅ = (.ok (), globalSpendDaily.set t₆ db₅) :=
    reserveGlobalDay_succeeds priced spare.globalSpendDaily
      (by split at moved₅ <;> simpa [moved₅.moved] using admitted.globalDay.1)
      (by split at moved₅ <;> simpa [moved₅.moved] using admitted.globalDay.2)
  let db₆ := globalSpendDaily.set t₆ db₅
  have moved₆ : Moved db db₆ _ := moved₅.trans (reserveGlobalDay_ok priced ran₆).2
  obtain ⟨t₇, ran₇⟩ : ∃ t₇, reserveGlobalMonth plan p lim db₆ = (.ok (), globalSpendMonthly.set t₇ db₆) :=
    reserveGlobalMonth_succeeds priced spare.globalSpendMonthly
      (by split at moved₆ <;> simpa [moved₆.moved] using admitted.globalMonth)
  obtain ⟨after, inserted⟩ : ∃ after, insertLedger now (granted (newRequestID random) installID plan p lim)
      (globalSpendMonthly.set t₇ db₆) = (.ok (), after) :=
    insertLedger_succeeds provider priced fresh spare.spendLedger
  refine ⟨after, Tx.bind_ok.mpr ⟨(), db, Tx.ofExcept_ok.mpr ⟨valid, rfl⟩, Tx.transaction_ok.mpr ?_⟩⟩
  exact Tx.bind_ok.mpr ⟨_, _, ran₁, Tx.bind_ok.mpr ⟨_, _, ran₂, Tx.bind_ok.mpr ⟨_, _, ran₃,
    Tx.bind_ok.mpr ⟨_, _, ran₄, Tx.bind_ok.mpr ⟨_, _, ran₅, Tx.bind_ok.mpr ⟨_, _, ran₆,
      Tx.bind_ok.mpr ⟨_, _, ran₇, Tx.bind_ok.mpr ⟨_, _, inserted, rfl⟩⟩⟩⟩⟩⟩⟩⟩

/-- A call at its monthly entitlement is refused as such, whatever else it asks. -/
theorem reserve_exhausted {random : List UInt8} {now : ℤ} (valid : validatePlan plan = .ok ())
    (spare : db.quotaMonthly.rows.length < maxRowid)
    (used : lim.monthlyQuota.toInt ≤ balance db (.monthlyRequests installID p.month)) :
    reserve random now installID plan p lim db = (.error .monthlyExhausted, db) := by
  obtain ⟨after, refused⟩ := reserveMonthly_refuses spare used
  have body : reserveBody (newRequestID random) now installID plan p lim db = (.error .monthlyExhausted, after) :=
    Tx.bind_failure.mpr (Or.inl refused)
  rw [reserve, Tx.bind_of_ok (Tx.ofExcept_ok.mpr ⟨valid, rfl⟩), Tx.transaction, body]

end Gates

end AnselmGateway.ReserveAdmission
