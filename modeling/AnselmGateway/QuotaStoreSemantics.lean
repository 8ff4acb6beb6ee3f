import AnselmGateway.Accounts

/-! What one call of the accounting store can do. Each operation is inverted
once: which row it opens or closes, under which guards, and by which entry the
balances follow. Every invariant of the store is read off these lemmas. -/
namespace AnselmGateway.QuotaStoreSemantics
open Foundation Billing Quota QuotaStore Accounts

/-! ## Plans -/

theorem validatePlan_ok {plan : Plan} (valid : validatePlan plan = .ok ()) :
    plan.validate = .ok () ∧ 0 < plan.reservedPUSD.toInt := by
  unfold validatePlan at valid
  split at valid
  · cases valid
  · rename_i priced
    split at valid
    · cases valid
    · rename_i positive
      rw [Int64.le_iff_toInt_le] at positive
      exact ⟨priced, by simpa using positive⟩

/-- A plan with a category asks for at least one unit of it. -/
theorem planCategory_positive {plan : Plan} (valid : plan.validate = .ok ())
    (named : (planCategory plan).1 ≠ "") : 0 < (planCategory plan).2.toInt := by
  have minimum := (validate_ok valid).2
  have atLeastOne (quote : Int64) (enough : ¬quote < 1) : 0 < quote.toInt := by
    rw [Int64.lt_iff_toInt_lt] at enough
    change ¬quote.toInt < 1 at enough
    omega
  unfold planCategory at named ⊢
  cases listed : plan.inputClass <;> simp only [listed] at named ⊢
  case standard | audioSeconds | unlisted => exact absurd rfl named
  case images => exact atLeastOne _ (minimum ⟨_, 1⟩ (by rw [listed]; rfl))
  case characters => exact atLeastOne _ (minimum ⟨_, 1⟩ (by rw [listed]; rfl))
  case voices => exact atLeastOne _ (minimum ⟨_, 1⟩ (by rw [listed]; rfl))
  case videoSeconds => decide

theorem planCategory_unnamed {plan : Plan} (unnamed : (planCategory plan).1 = "") :
    planCategory plan = ("", 0) := by
  unfold planCategory at unnamed ⊢
  cases listed : plan.inputClass <;> simp only [listed] at unnamed
  case images | characters | videoSeconds | voices => exact absurd unnamed (by decide)
  all_goals rfl

/-! ## Reserve -/

/-- The gates a reservation has passed, each on the balances it started from.
A disabled cap leaves only the room of the counter itself. -/
structure Admitted (db : Database) (installID : String) (plan : Plan) (p : Period) (lim : Limits) :
    Prop where
  monthly : balance db (.monthlyRequests installID p.month) < lim.monthlyQuota.toInt
  installDay : balance db (.installSpend installID p.day) + plan.reservedPUSD.toInt ≤ maxInt64
  sublimit : 0 < lim.dailySublimit.toInt →
    balance db (.installRequests installID p.day) < lim.dailySublimit.toInt
  category : (planCategory plan).1 ≠ "" →
    balance db (.categoryUnits installID (planCategory plan).1 p.day) +
        (planCategory plan).2.toInt ≤
      if 0 < (categoryCap (planCategory plan).1 lim).toInt then
        (categoryCap (planCategory plan).1 lim).toInt
      else maxInt64
  providerDay : balance db (.providerSpend plan.provider p.day) + plan.reservedPUSD.toInt ≤ maxInt64 ∧
    balance db (.providerRequests plan.provider p.day) < maxInt64
  globalDay : balance db (.daySpend p.day) + plan.reservedPUSD.toInt ≤ maxInt64 ∧
    balance db (.dayRequests p.day) < maxInt64
  globalMonth : balance db (.monthSpend p.month) + plan.reservedPUSD.toInt ≤
    lim.globalMonthlySpendPUSD.toInt

/-- The reservation an admitted call is handed: only the two optional counters
depend on the limits. -/
def granted (requestID installID : String) (plan : Plan) (p : Period) (lim : Limits) :
    Reservation where
  requestID := requestID
  installID := installID
  period := p
  plan := plan
  reservedPUSD := plan.reservedPUSD
  sublimitApplied := decide (lim.dailySublimit > 0)
  categoryApplied := (planCategory plan).1
  categoryUnits := (planCategory plan).2

/-- An opened row holds exactly the units its plan asked for. -/
theorem heldUnits_granted (requestID installID : String) {plan : Plan} (p : Period) (lim : Limits)
    (now : ℤ) (valid : plan.validate = .ok ()) :
    heldUnits (openRow now (granted requestID installID plan p lim)) =
      (planCategory plan).2.toInt := by
  by_cases named : (planCategory plan).1 = ""
  · simp [heldUnits, openRow, granted, planCategory_unnamed named]
  · simp [heldUnits, openRow, granted, named, planCategory_positive valid named]

theorem spendPosts_sub (spend requests : Account) (after before : SpendRow) :
    spendPosts spend requests after - spendPosts spend requests before =
      Pi.single spend (after.spendPUSD - before.spendPUSD) +
        Pi.single requests (after.requests - before.requests) := by
  simp only [spendPosts, Pi.single_sub]
  abel

section Gates
variable {installID : String} {plan : Plan} {p : Period} {lim : Limits} {db after : Database}

theorem reserveMonthly_ok (ran : reserveMonthly installID p lim db = (.ok (), after)) :
    balance db (.monthlyRequests installID p.month) < lim.monthlyQuota.toInt ∧
      Moved db after (Pi.single (.monthlyRequests installID p.month) 1) := by
  obtain ⟨_, middle, created, counted⟩ := Tx.bind_ok.mp ran
  obtain ⟨met, moved⟩ := lazyOne_moves monthlyBooks created (Tx.mapFailure_ok.mp counted)
  exact ⟨of_decide_eq_true met, by simpa [monthlyBooks, ← Pi.single_sub] using moved⟩

theorem reserveInstallDay_ok (priced : 0 < plan.reservedPUSD.toInt)
    (ran : reserveInstallDay installID plan p db = (.ok (), after)) :
    balance db (.installSpend installID p.day) + plan.reservedPUSD.toInt ≤ maxInt64 ∧
      Moved db after (Pi.single (.installSpend installID p.day) plan.reservedPUSD.toInt) := by
  obtain ⟨_, middle, created, counted⟩ := Tx.bind_ok.mp ran
  obtain ⟨met, moved⟩ := lazyOne_moves installBooks created counted
  exact ⟨(le_ceiling_iff priced.le).mp (of_decide_eq_true met),
    by simpa [installBooks, spendPosts_sub] using moved⟩

theorem reserveSublimit_ok {applied : Bool}
    (ran : reserveSublimit installID p lim db = (.ok applied, after)) :
    applied = decide (lim.dailySublimit > 0) ∧
      (0 < lim.dailySublimit.toInt →
        balance db (.installRequests installID p.day) < lim.dailySublimit.toInt) ∧
      Moved db after (if applied then Pi.single (.installRequests installID p.day) 1 else 0) := by
  unfold reserveSublimit at ran
  split at ran
  · rename_i enabled
    obtain ⟨_, middle, counted, finished⟩ := Tx.bind_ok.mp ran
    cases finished
    obtain ⟨met, moved⟩ := execOne_moves installBooks (Tx.mapFailure_ok.mp counted)
    exact ⟨by simp [enabled], fun _ => of_decide_eq_true met,
      by simpa [installBooks, spendPosts_sub] using moved⟩
  · rename_i disabled
    cases ran
    refine ⟨by simp [disabled], fun enabled => ?_, ⟨by simp, rfl⟩⟩
    exact absurd (toInt_pos.mp enabled) disabled

theorem reserveCategory_ok {applied : String × Int64} (valid : plan.validate = .ok ())
    (ran : reserveCategory installID plan p lim db = (.ok applied, after)) :
    applied = planCategory plan ∧
      ((planCategory plan).1 ≠ "" →
        balance db (.categoryUnits installID (planCategory plan).1 p.day) +
            (planCategory plan).2.toInt ≤
          if 0 < (categoryCap (planCategory plan).1 lim).toInt then
            (categoryCap (planCategory plan).1 lim).toInt
          else maxInt64) ∧
      Moved db after (Pi.single (.categoryUnits installID (planCategory plan).1 p.day)
        (planCategory plan).2.toInt) := by
  unfold reserveCategory at ran
  dsimp only at ran
  split at ran
  · rename_i named
    have positive := planCategory_positive valid named
    obtain ⟨_, middle, created, rest⟩ := Tx.bind_ok.mp ran
    by_cases enabled : categoryCap (planCategory plan).1 lim > 0
    · rw [if_pos enabled] at rest
      obtain ⟨_, _, counted, finished⟩ := Tx.bind_ok.mp rest
      cases finished
      obtain ⟨met, moved⟩ := lazyOne_moves categoryBooks created (Tx.mapFailure_ok.mp counted)
      refine ⟨rfl, fun _ => ?_, by simpa [categoryBooks, ← Pi.single_sub] using moved⟩
      rw [if_pos (toInt_pos.mpr enabled)]
      exact of_decide_eq_true met
    · rw [if_neg enabled] at rest
      obtain ⟨_, _, counted, finished⟩ := Tx.bind_ok.mp rest
      cases finished
      obtain ⟨met, moved⟩ := lazyOne_moves categoryBooks created counted
      refine ⟨rfl, fun _ => ?_, by simpa [categoryBooks, ← Pi.single_sub] using moved⟩
      rw [if_neg fun cap => enabled (toInt_pos.mp cap)]
      exact (le_ceiling_iff positive.le).mp (of_decide_eq_true met)
  · rename_i unnamed
    have none := planCategory_unnamed (not_not.mp unnamed)
    cases ran
    refine ⟨none.symm, fun named => absurd named unnamed, ?_⟩
    rw [none]
    exact ⟨by simp, rfl⟩

theorem reserveProviderDay_ok (priced : 0 < plan.reservedPUSD.toInt)
    (ran : reserveProviderDay plan p db = (.ok (), after)) :
    (balance db (.providerSpend plan.provider p.day) + plan.reservedPUSD.toInt ≤ maxInt64 ∧
        balance db (.providerRequests plan.provider p.day) < maxInt64) ∧
      Moved db after (Pi.single (.providerSpend plan.provider p.day) plan.reservedPUSD.toInt +
        Pi.single (.providerRequests plan.provider p.day) 1) := by
  obtain ⟨_, middle, created, counted⟩ := Tx.bind_ok.mp ran
  obtain ⟨met, moved⟩ := lazyOne_moves providerBooks created counted
  obtain ⟨spend, requests⟩ := Bool.and_eq_true_iff.mp met
  exact ⟨⟨(le_ceiling_iff priced.le).mp (of_decide_eq_true spend), of_decide_eq_true requests⟩,
    by simpa [providerBooks, spendPosts_sub] using moved⟩

theorem reserveGlobalDay_ok (priced : 0 < plan.reservedPUSD.toInt)
    (ran : reserveGlobalDay plan p db = (.ok (), after)) :
    (balance db (.daySpend p.day) + plan.reservedPUSD.toInt ≤ maxInt64 ∧
        balance db (.dayRequests p.day) < maxInt64) ∧
      Moved db after (Pi.single (.daySpend p.day) plan.reservedPUSD.toInt +
        Pi.single (.dayRequests p.day) 1) := by
  obtain ⟨_, middle, created, counted⟩ := Tx.bind_ok.mp ran
  obtain ⟨met, moved⟩ := lazyOne_moves dayBooks created counted
  obtain ⟨spend, requests⟩ := Bool.and_eq_true_iff.mp met
  exact ⟨⟨(le_ceiling_iff priced.le).mp (of_decide_eq_true spend), of_decide_eq_true requests⟩,
    by simpa [dayBooks, spendPosts_sub] using moved⟩

theorem reserveGlobalMonth_ok (priced : 0 < plan.reservedPUSD.toInt)
    (ran : reserveGlobalMonth plan p lim db = (.ok (), after)) :
    balance db (.monthSpend p.month) + plan.reservedPUSD.toInt ≤ lim.globalMonthlySpendPUSD.toInt ∧
      Moved db after (Pi.single (.monthSpend p.month) plan.reservedPUSD.toInt +
        Pi.single (.monthRequests p.month) 1) := by
  obtain ⟨_, middle, created, counted⟩ := Tx.bind_ok.mp ran
  obtain ⟨met, moved⟩ := lazyOne_moves monthBooks created (Tx.mapFailure_ok.mp counted)
  refine ⟨?_, by simpa [monthBooks, spendPosts_sub] using moved⟩
  -- The wallet is not negative, so the remaining capacity does not wrap.
  have capacity := toInt_sub_of_nonneg lim.wallet_nonneg priced.le
  simp only [decide_eq_true_eq, capacity] at met
  change (globalSpendMonthly.get db |>.read 0 p.month).spendPUSD + _ ≤ _
  omega

/-- A successful body passed every gate on the balances it started from, and
books exactly the entry of the row it opens. -/
theorem reserveBody_ok {requestID : String} {now : ℤ} {r : Reservation}
    (valid : plan.validate = .ok ()) (priced : 0 < plan.reservedPUSD.toInt)
    (ran : reserveBody requestID now installID plan p lim db = (.ok r, after)) :
    r = granted requestID installID plan p lim ∧ Admitted db installID plan p lim ∧
      balance after = balance db + entry (openRow now r) ∧
      db.spendLedger.insert requestID (openRow now r) = .ok after.spendLedger := by
  obtain ⟨_, db₁, ran₁, ran⟩ := Tx.bind_ok.mp ran
  obtain ⟨_, db₂, ran₂, ran⟩ := Tx.bind_ok.mp ran
  obtain ⟨applied, db₃, ran₃, ran⟩ := Tx.bind_ok.mp ran
  obtain ⟨⟨category, units⟩, db₄, ran₄, ran⟩ := Tx.bind_ok.mp ran
  obtain ⟨_, db₅, ran₅, ran⟩ := Tx.bind_ok.mp ran
  obtain ⟨_, db₆, ran₆, ran⟩ := Tx.bind_ok.mp ran
  obtain ⟨_, db₇, ran₇, ran⟩ := Tx.bind_ok.mp ran
  obtain ⟨_, db₈, inserted, finished⟩ := Tx.bind_ok.mp ran
  obtain ⟨monthly, moved₁⟩ := reserveMonthly_ok ran₁
  obtain ⟨installDay, moved₂⟩ := reserveInstallDay_ok priced ran₂
  obtain ⟨rfl, sublimit, moved₃⟩ := reserveSublimit_ok ran₃
  obtain ⟨named, capped, moved₄⟩ := reserveCategory_ok valid ran₄
  obtain ⟨providerDay, moved₅⟩ := reserveProviderDay_ok priced ran₅
  obtain ⟨globalDay, moved₆⟩ := reserveGlobalDay_ok priced ran₆
  obtain ⟨globalMonth, moved₇⟩ := reserveGlobalMonth_ok priced ran₇
  have before₂ := moved₁
  have before₃ := before₂.trans moved₂
  have before₄ := before₃.trans moved₃
  have before₅ := before₄.trans moved₄
  have before₆ := before₅.trans moved₅
  have before₇ := before₆.trans moved₆
  have before₈ := before₇.trans moved₇
  -- No gate moves an account that a later gate reads.
  have gates : Admitted db installID plan p lim := {
    monthly := monthly
    installDay := by simpa [before₂.moved] using installDay
    sublimit := by simpa [before₃.moved] using sublimit
    category := by split at before₄ <;> simpa [before₄.moved] using capped
    providerDay := by split at before₅ <;> simpa [before₅.moved] using providerDay
    globalDay := by split at before₆ <;> simpa [before₆.moved] using globalDay
    globalMonth := by split at before₇ <;> simpa [before₇.moved] using globalMonth }
  unfold insertLedger at inserted
  split at inserted
  · cases inserted
  · rename_i table stored
    cases inserted
    cases finished
    obtain ⟨rfl, rfl⟩ : category = (planCategory plan).1 ∧ units = (planCategory plan).2 := by
      rw [← named]
      exact ⟨rfl, rfl⟩
    refine ⟨rfl, gates, ?_, before₈.ledger ▸ stored⟩
    change balance db₇ =
      balance db + entry (openRow now (granted requestID installID plan p lim))
    have held := heldUnits_granted requestID installID p lim now valid
    rw [before₈.moved, entry_eq, smul_spendAccounts, requestAccounts, held]
    by_cases enabled : lim.dailySublimit > 0 <;>
      simp only [openRow, granted, value, counted, reduceCtorEq, ↓reduceIte, one_zsmul, enabled,
        decide_true, decide_false, Bool.false_eq_true] <;>
      abel

theorem reserve_ok {random : List UInt8} {now : ℤ} {r : Reservation}
    (ran : reserve random now installID plan p lim db = (.ok r, after)) :
    validatePlan plan = .ok () ∧ r = granted (newRequestID random) installID plan p lim ∧
      Admitted db installID plan p lim ∧ balance after = balance db + entry (openRow now r) ∧
      db.spendLedger.insert (newRequestID random) (openRow now r) = .ok after.spendLedger := by
  obtain ⟨_, middle, checked, body⟩ := Tx.bind_ok.mp ran
  obtain ⟨valid, rfl⟩ := Tx.ofExcept_ok.mp checked
  obtain ⟨known, priced⟩ := validatePlan_ok valid
  exact ⟨valid, reserveBody_ok known priced (Tx.transaction_ok.mp body)⟩

theorem reserve_failed {random : List UInt8} {now : ℤ} {failure : StoreError}
    (ran : reserve random now installID plan p lim db = (.error failure, after)) : after = db := by
  rcases Tx.bind_failure.mp ran with refused | ⟨_, middle, checked, body⟩
  · exact (congrArg Prod.snd refused).symm
  · obtain ⟨_, rfl⟩ := Tx.ofExcept_ok.mp checked
    exact Tx.transaction_failure body

end Gates

/-- A two-image request, under limits with room for one such request. -/
def imagePlan : Plan where
  provider := providerQwen
  model := qwenImage20
  rateCardID := qwenImage20Card.id
  inputClass := .images
  promptQuote := 2
  outputQuote := 0
  reservedPUSD := 70000000000
  card := qwenImage20Card
  tier := { inputUpperBound := qwenImageInputLimit, inputPUSD := 35000000000 }

def imageLimits : Limits := ⟨5, 100000000000, 3, 4, 0, 0, 0, by decide⟩

def august : Period := ⟨"2026-08", "2026-08-06"⟩

/-! ## Closing a ledger row -/

theorem validateReservation_ok {presented : Option Reservation} {r : Reservation}
    (valid : validateReservation presented = .ok r) :
    presented = some r ∧ r.requestID ≠ "" ∧ r.installID ≠ "" ∧ 0 < r.reservedPUSD.toInt ∧
      r.reservedPUSD = r.plan.reservedPUSD ∧ validatePlan r.plan = .ok () := by
  unfold validateReservation at valid
  split at valid
  · cases valid
  · rename_i stored
    split at valid
    · cases valid
    · rename_i named
      split at valid
      · cases valid
      · rename_i same
        cases priced : validatePlan stored.plan with
        | error failure =>
          rw [priced] at valid
          cases valid
        | ok _ =>
          rw [priced] at valid
          cases valid
          simp only [Bool.or_eq_true, decide_eq_true_eq, not_or, Int64.not_le] at named
          obtain ⟨⟨identified, owned⟩, positive⟩ := named
          exact ⟨rfl, identified, owned, toInt_pos.mpr positive, not_not.mp same, priced⟩

/-- The row a terminal statement matches is, field for field, the one the
reservation opened. -/
theorem stillOpen_row {r : Reservation} {row : LedgerRow} (matched : stillOpen r row = true)
    (checked : row.check = true) : row = openRow row.createdAt r := by
  simp only [stillOpen, Bool.and_eq_true, beq_iff_eq] at matched
  obtain ⟨⟨⟨⟨⟨⟨⟨⟨⟨⟨state, install⟩, provider⟩, model⟩, card⟩, month⟩, day⟩, reserved⟩, sublimit⟩,
    category⟩, units⟩ := matched
  simp only [LedgerRow.check, LedgerRow.evidence, state, Bool.and_eq_true, bne_iff_ne, ne_eq,
    Option.some.injEq, Bool.not_eq_false] at checked
  obtain ⟨_, uncharged, unclosed⟩ := checked
  cases row
  simp_all [openRow]

theorem execCount_ledger {op requestID : String} {condition : LedgerRow → Bool}
    {assign : LedgerRow → LedgerRow} {count : ℕ} {db after : Database}
    (ran : execCount op spendLedger requestID condition assign db = (.ok count, after)) :
    (count = 0 ∧ after = db) ∨
      count = 1 ∧ balance after = balance db ∧
        ∃ row, db.spendLedger.get? requestID = some row ∧ condition row = true ∧
          db.spendLedger.updateWhere (Table.at' requestID condition) assign =
            .ok (after.spendLedger, 1) := by
  unfold execCount at ran
  split at ran
  · cases ran
  · rename_i table found updated
    cases ran
    have matched := Table.count_updateAt updated
    cases held : db.spendLedger.get? requestID with
    | none =>
      have none : count = 0 := by simpa [spendLedger, held] using matched
      subst none
      exact .inl ⟨rfl, by rw [Table.updateWhere_none updated]; rfl⟩
    | some row =>
      cases met : condition row with
      | false =>
        have none : count = 0 := by simpa [spendLedger, held, met] using matched
        subst none
        exact .inl ⟨rfl, by rw [Table.updateWhere_none updated]; rfl⟩
      | true =>
        have one : count = 1 := by simpa [spendLedger, held, met] using matched
        subst one
        exact .inr ⟨rfl, rfl, row, rfl, met, updated⟩

/-- No terminal statement is refused by the row check: whatever row it finds
open, the rewritten row passes. -/
theorem terminal_rows_accepted (now : ℤ) (actualPUSD : Int64) {row : LedgerRow}
    (charge : 0 ≤ actualPUSD.toInt) (checked : row.check = true) :
    (settledRow now actualPUSD row).check = true ∧ (rolledBackRow now row).check = true ∧
      (orphanedRow now row).check = true := by
  simp only [LedgerRow.check, Bool.and_eq_true] at checked
  obtain ⟨⟨⟨provider, reserved⟩, _⟩, _⟩ := checked
  have positive : 0 < row.reservedPUSD := of_decide_eq_true reserved
  refine ⟨?_, ?_, ?_⟩ <;>
    simp [LedgerRow.check, LedgerRow.evidence, settledRow, rolledBackRow, orphanedRow,
      beq_iff_eq.mp provider, positive, positive.le, charge]

/-- What closing an open row does: the row is rewritten in place, the balances
follow its entry, and no guarded counter overflows. -/
structure Closed (db after : Database) (requestID : String) (row closed : LedgerRow) : Prop where
  held : db.spendLedger.get? requestID = some row
  wasOpen : row.state = .open
  ledger : ∃ condition assign, condition row = true ∧ assign row = closed ∧
    db.spendLedger.updateWhere (Table.at' requestID condition) assign = .ok (after.spendLedger, 1)
  moved : balance after = balance db + (entry closed - entry row)
  within : Within db after

/-- Either another terminal operation won and nothing changed, or the row the
reservation opened was closed and its balances were moved. -/
theorem terminate_ok {op : String} {r : Reservation} {assign : LedgerRow → LedgerRow}
    {balances : StoreTx Unit} {db after : Database}
    (ran : terminate op r assign balances db = (.ok (), after)) :
    after = db ∨ ∃ opened middle, balance middle = balance db ∧
      db.spendLedger.get? r.requestID = some (openRow opened r) ∧
      stillOpen r (openRow opened r) = true ∧
      db.spendLedger.updateWhere (Table.at' r.requestID (stillOpen r)) assign =
        .ok (middle.spendLedger, 1) ∧
      balances middle = (.ok (), after) := by
  obtain ⟨count, middle, closed, rest⟩ := Tx.bind_ok.mp ran
  rcases execCount_ledger closed with ⟨rfl, rfl⟩ | ⟨rfl, same, row, held, matched, updated⟩
  · cases rest
    exact .inl rfl
  · have row_eq := stillOpen_row matched (Table.checked_get? held)
    rw [row_eq] at held matched
    exact .inr ⟨row.createdAt, middle, same, held, matched, updated, rest⟩

section SpendRows
variable {κ : Type} [DecidableEq κ] {schema : Schema κ SpendRow}
  {part : Part Database (Table schema)} {op : String} {key : κ} {db after : Database}
  {spend requests : Account}

theorem moveSpend_ok (books : Books part) (posts : books.posts key = spendPosts spend requests)
    {condition : SpendRow → Bool} {amount : ℤ}
    (ran : moveSpend op part key condition amount db = (.ok (), after)) :
    condition ((part.get db).read 0 key) = true ∧ Moved db after (Pi.single spend amount) := by
  obtain ⟨met, moved⟩ := execOne_moves books ran
  exact ⟨met, by simpa [posts, spendPosts_sub] using moved⟩

theorem refundRow_ok (books : Books part) (posts : books.posts key = spendPosts spend requests)
    {amount : ℤ} (ran : refundRow op part key amount db = (.ok (), after)) :
    Moved db after (Pi.single spend (-amount) + Pi.single requests (-1)) := by
  simpa [posts, spendPosts_sub] using (execOne_moves books ran).2

end SpendRows

/-- A delta is taken off, or put on, all four spend accounts of the reservation
alike. -/
theorem adjustSpend_ok {r : Reservation} {delta : Int64} {db after : Database} (now : ℤ)
    (range : -2 ^ 63 < delta.toInt) (ran : adjustSpend r delta db = (.ok (), after)) :
    Moved db after ((-delta.toInt) • spendAccounts (openRow now r)) ∧ Within db after := by
  unfold adjustSpend at ran
  split at ran
  · rename_i settled
    cases ran
    subst settled
    exact ⟨⟨by simp, rfl⟩, Within.refl _⟩
  · split at ran
    · rename_i refund
      have positive : 0 < delta.toInt := toInt_pos.mpr refund
      obtain ⟨_, db₁, ran₁, ran⟩ := Tx.bind_ok.mp ran
      obtain ⟨_, db₂, ran₂, ran⟩ := Tx.bind_ok.mp ran
      obtain ⟨_, db₃, ran₃, ran₄⟩ := Tx.bind_ok.mp ran
      obtain ⟨_, moved₁⟩ := moveSpend_ok installBooks rfl ran₁
      obtain ⟨_, moved₂⟩ := moveSpend_ok providerBooks rfl ran₂
      obtain ⟨_, moved₃⟩ := moveSpend_ok dayBooks rfl ran₃
      obtain ⟨_, moved₄⟩ := moveSpend_ok monthBooks rfl ran₄
      refine ⟨?_, ((moved₁.within ?_).trans (moved₂.within ?_)).trans
        ((moved₃.within ?_).trans (moved₄.within ?_))⟩
      · rw [smul_spendAccounts]
        exact ((moved₁.trans moved₂).trans moved₃).trans moved₄
      all_goals
        right
        omega
    · rename_i charged notRefund
      have negative : delta.toInt ≤ 0 := Int.not_lt.mp fun positive => notRefund (toInt_pos.mp positive)
      have topUp : (-delta).toInt = -delta.toInt := toInt_neg_of_range range
      have room {held : ℤ} (below : held ≤ (Int64.maxValue - -delta).toInt) :
          held + (-delta).toInt ≤ maxInt64 := (le_ceiling_iff (by omega)).mp below
      obtain ⟨_, db₁, ran₁, ran⟩ := Tx.bind_ok.mp ran
      obtain ⟨_, db₂, ran₂, ran⟩ := Tx.bind_ok.mp ran
      obtain ⟨_, db₃, ran₃, ran₄⟩ := Tx.bind_ok.mp ran
      obtain ⟨fits₁, moved₁⟩ := moveSpend_ok installBooks rfl ran₁
      obtain ⟨fits₂, moved₂⟩ := moveSpend_ok providerBooks rfl ran₂
      obtain ⟨fits₃, moved₃⟩ := moveSpend_ok dayBooks rfl ran₃
      obtain ⟨fits₄, moved₄⟩ := moveSpend_ok monthBooks rfl ran₄
      refine ⟨?_, ((moved₁.within (.inl ?_)).trans (moved₂.within (.inl ?_))).trans
        ((moved₃.within (.inl ?_)).trans (moved₄.within (.inl ?_)))⟩
      · rw [smul_spendAccounts, ← topUp]
        exact ((moved₁.trans moved₂).trans moved₃).trans moved₄
      · exact room (of_decide_eq_true fits₁)
      · exact room (of_decide_eq_true fits₂)
      · exact room (of_decide_eq_true fits₃)
      · exact room (of_decide_eq_true fits₄)

/-- A successful settlement either lost to another terminal operation, or closed
the open row at the charge it was given. -/
theorem settle_ok {now : ℤ} {presented : Option Reservation} {actualPUSD : Int64}
    {db after : Database} (ran : settle now presented actualPUSD db = (.ok (), after)) :
    ∃ r, presented = some r ∧ 0 ≤ actualPUSD.toInt ∧
      (after = db ∨ ∃ opened, Closed db after r.requestID (openRow opened r)
        (settledRow now actualPUSD (openRow opened r))) := by
  obtain ⟨r, middle, checked, rest⟩ := Tx.bind_ok.mp ran
  obtain ⟨valid, rfl⟩ := Tx.ofExcept_ok.mp checked
  obtain ⟨rfl, _, _, positive, _⟩ := validateReservation_ok valid
  split at rest
  · cases rest
  · rename_i charged
    have nonneg : 0 ≤ actualPUSD.toInt :=
      Int.not_lt.mp fun negative => charged (Int64.lt_iff_toInt_lt.mpr (by simpa using negative))
    refine ⟨r, rfl, nonneg, ?_⟩
    rcases terminate_ok (Tx.transaction_ok.mp rest) with
      rfl | ⟨opened, middle, same, held, matched, updated, balances⟩
    · exact .inl rfl
    · have delta : (r.reservedPUSD - actualPUSD).toInt = r.reservedPUSD.toInt - actualPUSD.toInt :=
        toInt_sub_of_nonneg positive.le nonneg
      have high := actualPUSD.toInt_lt
      obtain ⟨moved, within⟩ := adjustSpend_ok opened (by omega) balances
      refine .inr ⟨opened, held, rfl, ⟨_, _, matched, rfl, ?_⟩, ?_, ?_⟩
      · rw [moved.ledger]
        exact updated
      · rw [moved.moved, same, entry_settledRow rfl, delta, neg_sub, add_sub_cancel_left]
        rfl
      · intro account guarded
        rw [← same]
        exact within account guarded

theorem settle_failed {now : ℤ} {presented : Option Reservation} {actualPUSD : Int64}
    {db after : Database} {failure : StoreError}
    (ran : settle now presented actualPUSD db = (.error failure, after)) : after = db := by
  rcases Tx.bind_failure.mp ran with refused | ⟨r, middle, checked, body⟩
  · exact (congrArg Prod.snd refused).symm
  · obtain ⟨_, rfl⟩ := Tx.ofExcept_ok.mp checked
    split at body
    · exact (congrArg Prod.snd body).symm
    · exact Tx.transaction_failure body

/-! ## Rollback -/

section Refund
variable {r : Reservation} {db after : Database}

theorem refundInstall_ok (ran : refundInstall r db = (.ok (), after)) :
    Moved db after (Pi.single (.installSpend r.installID r.period.day) (-r.reservedPUSD.toInt) +
      if r.sublimitApplied then Pi.single (.installRequests r.installID r.period.day) (-1) else 0) := by
  unfold refundInstall at ran
  split at ran
  · rename_i applied
    rw [if_pos applied]
    exact refundRow_ok installBooks rfl ran
  · rename_i unapplied
    rw [if_neg unapplied]
    simpa [installBooks, spendPosts_sub] using (execOne_moves installBooks ran).2

theorem refundCategory_ok (now : ℤ) (ran : refundCategory r db = (.ok (), after)) :
    Moved db after (Pi.single (.categoryUnits r.installID r.categoryApplied r.period.day)
      (-heldUnits (openRow now r))) := by
  unfold refundCategory at ran
  split at ran
  · rename_i held
    rw [heldUnits, if_pos ⟨held.1, toInt_pos.mpr held.2⟩]
    change Moved db after (Pi.single _ (-r.categoryUnits.toInt))
    simpa [categoryBooks, ← Pi.single_sub] using (execOne_moves categoryBooks ran).2
  · rename_i unheld
    rw [heldUnits, if_neg fun both => unheld ⟨both.1, toInt_pos.mp both.2⟩]
    cases ran
    exact ⟨by simp, rfl⟩

/-- The balance half of a rollback takes exactly the reservation's entry off. -/
theorem refundBalances_ok (now : ℤ) (ran : refundBalances r db = (.ok (), after)) :
    Moved db after (-entry (openRow now r)) := by
  obtain ⟨_, db₁, ran₁, ran⟩ := Tx.bind_ok.mp ran
  obtain ⟨_, db₂, ran₂, ran⟩ := Tx.bind_ok.mp ran
  obtain ⟨_, db₃, ran₃, ran⟩ := Tx.bind_ok.mp ran
  obtain ⟨_, db₄, ran₄, ran⟩ := Tx.bind_ok.mp ran
  obtain ⟨_, db₅, ran₅, ran₆⟩ := Tx.bind_ok.mp ran
  have month : Moved db₅ after (Pi.single (.monthlyRequests r.installID r.period.month) (-1)) := by
    simpa [monthlyBooks, ← Pi.single_sub] using (execOne_moves monthlyBooks ran₆).2
  have whole := (((((refundInstall_ok ran₁).trans (refundCategory_ok now ran₂)).trans
    (refundRow_ok providerBooks rfl ran₃)).trans (refundRow_ok dayBooks rfl ran₄)).trans
    (refundRow_ok monthBooks rfl ran₅)).trans month
  convert whole using 1
  rw [entry_eq, smul_spendAccounts]
  cases applied : r.sublimitApplied <;>
    simp only [requestAccounts, openRow, value, counted, applied, reduceCtorEq, ↓reduceIte,
      one_zsmul, Bool.false_eq_true, Pi.single_neg, add_zero] <;>
    abel

end Refund

/-- A successful rollback either lost to another terminal operation, or gave
back everything the open row had booked. -/
theorem rollback_ok {now : ℤ} {presented : Option Reservation} {db after : Database}
    (ran : rollback now presented db = (.ok (), after)) :
    ∃ r, presented = some r ∧
      (after = db ∨ ∃ opened, Closed db after r.requestID (openRow opened r)
        (rolledBackRow now (openRow opened r))) := by
  obtain ⟨r, middle, checked, rest⟩ := Tx.bind_ok.mp ran
  obtain ⟨valid, rfl⟩ := Tx.ofExcept_ok.mp checked
  obtain ⟨rfl, _, _, positive, _⟩ := validateReservation_ok valid
  refine ⟨r, rfl, ?_⟩
  rcases terminate_ok (Tx.transaction_ok.mp rest) with
    rfl | ⟨opened, middle, same, held, matched, updated, balances⟩
  · exact .inl rfl
  · have moved := refundBalances_ok opened balances
    refine .inr ⟨opened, held, rfl, ⟨_, _, matched, rfl, ?_⟩, ?_, ?_⟩
    · rw [moved.ledger]
      exact updated
    · rw [moved.moved, same, entry_rolledBackRow, zero_sub]
    · intro account _
      have booked := entry_nonneg (openRow opened r) positive.le account
      rw [moved.moved, same, Pi.add_apply, Pi.neg_apply]
      omega

theorem rollback_failed {now : ℤ} {presented : Option Reservation} {db after : Database}
    {failure : StoreError} (ran : rollback now presented db = (.error failure, after)) :
    after = db := by
  rcases Tx.bind_failure.mp ran with refused | ⟨r, middle, checked, body⟩
  · exact (congrArg Prod.snd refused).symm
  · obtain ⟨_, rfl⟩ := Tx.ofExcept_ok.mp checked
    exact Tx.transaction_failure body

/-! ## Reconciliation and reset -/

/-- Reconciliation closes an open row at its whole quote and moves no balance. -/
theorem reconcileOne_ok {now : ℤ} {requestID : String} {won : Bool} {db after : Database}
    (ran : reconcileOne now requestID db = (.ok won, after)) :
    after = db ∨ ∃ row, Closed db after requestID row (orphanedRow now row) := by
  obtain ⟨count, middle, closed, rest⟩ := Tx.bind_ok.mp (Tx.transaction_ok.mp ran)
  rcases execCount_ledger closed with ⟨rfl, rfl⟩ | ⟨rfl, same, row, held, opened, updated⟩
  · cases rest
    exact .inl rfl
  · cases rest
    have wasOpen : row.state = .open := beq_iff_eq.mp opened
    refine .inr ⟨row, held, wasOpen, ⟨_, _, opened, rfl, updated⟩, ?_, ?_⟩
    · rw [same, entry_orphanedRow wasOpen, sub_self, add_zero]
    · rw [Within, same]
      exact Within.refl db

theorem reconcileOne_failed {now : ℤ} {requestID : String} {db after : Database}
    {failure : StoreError} (ran : reconcileOne now requestID db = (.error failure, after)) :
    after = db := Tx.transaction_failure ran

/-- What a monthly reset leaves on the books: that month's request counters are
gone, everything else is as it was. -/
def afterReset (month : String) (before : Posting) : Posting
  | .monthlyRequests installID other =>
    if other = month then 0 else before (.monthlyRequests installID other)
  | account => before account

theorem resetMonthlyRequests_ok {p : Period} {count : ℕ} {db after : Database}
    (ran : resetMonthlyRequests p db = (.ok count, after)) :
    openReservations db = 0 ∧ after.spendLedger = db.spendLedger ∧
      balance after = afterReset p.month (balance db) := by
  replace ran := Tx.transaction_ok.mp ran
  split at ran
  · cases ran
  · rename_i closed
    split at ran
    · cases ran
    · rename_i table found updated
      cases ran
      refine ⟨not_not.mp closed, rfl, ?_⟩
      funext account
      cases account with
      | monthlyRequests installID month =>
        change table.read 0 (installID, month) =
          if month = p.month then 0 else db.quotaMonthly.read 0 (installID, month)
        simp only [Table.read, Table.get?_updateWhere updated]
        cases held : db.quotaMonthly.get? (installID, month) with
        | none => simp
        | some requests =>
          have nonneg : 0 ≤ requests := of_decide_eq_true (Table.checked_get? held)
          by_cases same : month = p.month
          · simp only [same, beq_self_eq_true, Bool.true_and, Option.map_some, Option.getD_some,
              ↓reduceIte, decide_eq_true_eq]
            split <;> omega
          · simp [same]
      | _ => rfl

theorem resetMonthlyRequests_failed {p : Period} {db after : Database} {failure : StoreError}
    (ran : resetMonthlyRequests p db = (.error failure, after)) : after = db :=
  Tx.transaction_failure ran

/-! ## One call -/

/-- The terminal calls addressed to one reservation. -/
def addressed (requestID : String) : Call → Bool
  | .settle _ (some r) _ | .rollback _ (some r) => r.requestID == requestID
  | .reconcileOne _ other => other == requestID
  | _ => false

theorem addressed_unique {call : Call} {first second : String}
    (mine : addressed first call = true) (yours : addressed second call = true) :
    first = second := by
  unfold addressed at mine yours
  split at mine <;> simp_all

/-- Everything one call can do to the database. -/
inductive Effect (call : Call) (db after : Database) : Prop
  /-- The call failed, found nothing to do, or lost to an earlier one. -/
  | unchanged (same : after = db)
  /-- A reservation opened its row and booked it. -/
  | opened (requestID : String) (row : LedgerRow) (state : row.state = .open)
      (other : ∀ target, addressed target call = false)
      (inserted : db.spendLedger.insert requestID row = .ok after.spendLedger)
      (moved : balance after = balance db + entry row) (within : Within db after)
  /-- A terminal operation closed one open row. -/
  | closed (requestID : String) (row closed : LedgerRow)
      (closing : Closed db after requestID row closed) (terminal : closed.state.terminal = true)
      (charged : closed.chargedPUSD.isSome = true) (mine : addressed requestID call = true)
  /-- A month's request counters were cleared while nothing was open. -/
  | reset (month : String) (other : ∀ target, addressed target call = false)
      (idle : openReservations db = 0)
      (ledger : after.spendLedger = db.spendLedger)
      (cleared : balance after = afterReset month (balance db))

/-- How much a reservation under these limits may leave on each account. A
disabled cap leaves the range of the counter; the wallet's request counter has
no bound of its own. -/
def capacity (lim : Limits) : Account → Option ℤ
  | .monthlyRequests _ _ => some lim.monthlyQuota.toInt
  | .installRequests _ _ => some lim.dailySublimit.toInt
  | .categoryUnits _ category _ =>
    if 0 < (categoryCap category lim).toInt then some (categoryCap category lim).toInt
    else some maxInt64
  | .monthSpend _ => some lim.globalMonthlySpendPUSD.toInt
  | .monthRequests _ => none
  | _ => some maxInt64

theorem capacity_le_maxInt64 {lim : Limits} {account : Account} {limit : ℤ}
    (bounded : capacity lim account = some limit) : limit ≤ maxInt64 := by
  cases account with
  | categoryUnits installID category day =>
    simp only [capacity] at bounded
    split at bounded <;> cases bounded
    · exact toInt_le_maxInt64 _
    · exact le_rfl
  | monthRequests month => cases bounded
  | _ =>
    cases bounded
    first | exact toInt_le_maxInt64 _ | exact le_rfl

/-- Every account an admitted reservation books on stays within its capacity. -/
theorem Admitted.fits {db : Database} {installID : String} {plan : Plan} {p : Period} {lim : Limits}
    (admitted : Admitted db installID plan p lim) (requestID : String) (now : ℤ)
    (valid : plan.validate = .ok ()) {account : Account} {limit : ℤ}
    (bounded : capacity lim account = some limit)
    (booked : entry (openRow now (granted requestID installID plan p lim)) account ≠ 0) :
    balance db account + entry (openRow now (granted requestID installID plan p lim)) account ≤
      limit := by
  have units := heldUnits_granted requestID installID p lim now valid
  -- Only the accounts the row names are booked on; each has its own gate.
  cases account <;> simp only [entry, ne_eq, ite_eq_right_iff, not_forall] at booked ⊢
  all_goals
    obtain ⟨same, moves⟩ := booked
    rw [if_pos same]
  case monthlyRequests =>
    obtain ⟨rfl, rfl⟩ := same
    cases bounded
    exact admitted.monthly
  case installSpend =>
    obtain ⟨rfl, rfl⟩ := same
    cases bounded
    exact admitted.installDay
  case installRequests =>
    obtain ⟨rfl, rfl, applied⟩ := same
    cases bounded
    exact admitted.sublimit (toInt_pos.mpr (of_decide_eq_true applied))
  case categoryUnits =>
    obtain ⟨rfl, rfl, rfl⟩ := same
    have named : (planCategory plan).1 ≠ "" := by
      intro unnamed
      simp [units, planCategory_unnamed unnamed] at moves
    have gate := admitted.category named
    change (if 0 < (categoryCap (planCategory plan).1 lim).toInt then _ else _) = some limit at bounded
    rw [units]
    change _ + 1 * _ ≤ _
    rw [one_mul]
    split at bounded
    · rename_i enabled
      cases bounded
      rwa [if_pos enabled] at gate
    · rename_i disabled
      cases bounded
      rwa [if_neg disabled] at gate
  case providerSpend =>
    obtain ⟨rfl, rfl⟩ := same
    cases bounded
    exact admitted.providerDay.1
  case providerRequests =>
    obtain ⟨rfl, rfl⟩ := same
    cases bounded
    exact admitted.providerDay.2
  case daySpend =>
    obtain rfl := same
    cases bounded
    exact admitted.globalDay.1
  case dayRequests =>
    obtain rfl := same
    cases bounded
    exact admitted.globalDay.2
  case monthSpend =>
    obtain rfl := same
    cases bounded
    exact admitted.globalMonth
  case monthRequests => cases bounded

theorem Admitted.within {db after : Database} {installID : String} {plan : Plan} {p : Period}
    {lim : Limits} (admitted : Admitted db installID plan p lim) (requestID : String) (now : ℤ)
    (valid : plan.validate = .ok ())
    (moved : balance after =
      balance db + entry (openRow now (granted requestID installID plan p lim))) :
    Within db after := by
  intro account guarded
  rw [moved, Pi.add_apply]
  by_cases booked : entry (openRow now (granted requestID installID plan p lim)) account = 0
  · rw [booked, add_zero]
    exact le_max_right _ _
  · cases bounded : capacity lim account with
    | none =>
      cases account <;> simp only [capacity, reduceCtorEq] at bounded
      case categoryUnits => split at bounded <;> cases bounded
      case monthRequests month => exact absurd rfl (guarded month)
    | some limit =>
      exact ((admitted.fits requestID now valid bounded booked).trans
        (capacity_le_maxInt64 bounded)).trans (le_max_left _ _)

theorem reserve_effect (random : List UInt8) (now : ℤ) (installID : String) (plan : Plan)
    (p : Period) (lim : Limits) (db : Database) :
    Effect (.reserve random now installID plan p lim) db
      (reserve random now installID plan p lim db).2 := by
  rcases ran : reserve random now installID plan p lim db with ⟨failure | r, after⟩
  · exact .unchanged (reserve_failed ran)
  · obtain ⟨valid, rfl, admitted, moved, inserted⟩ := reserve_ok ran
    exact .opened _ _ rfl (fun _ => rfl) inserted moved
      (admitted.within _ now (validatePlan_ok valid).1 moved)

/-- Every call, from any database, has one of the four effects. -/
theorem step_effect (db : Database) (call : Call) : Effect call db (step db call) := by
  cases call with
  | reserve random now installID plan p lim => exact reserve_effect random now installID plan p lim db
  | settle now presented actualPUSD =>
    change Effect _ db (settle now presented actualPUSD db).2
    rcases ran : settle now presented actualPUSD db with ⟨failure | _, after⟩
    · exact .unchanged (settle_failed ran)
    · obtain ⟨r, rfl, _, same | ⟨opened, closing⟩⟩ := settle_ok ran
      · exact .unchanged same
      · exact .closed _ _ _ closing rfl rfl (beq_self_eq_true _)
  | rollback now presented =>
    change Effect _ db (rollback now presented db).2
    rcases ran : rollback now presented db with ⟨failure | _, after⟩
    · exact .unchanged (rollback_failed ran)
    · obtain ⟨r, rfl, same | ⟨opened, closing⟩⟩ := rollback_ok ran
      · exact .unchanged same
      · exact .closed _ _ _ closing rfl rfl (beq_self_eq_true _)
  | reconcileOne now requestID =>
    change Effect _ db (reconcileOne now requestID db).2
    rcases ran : reconcileOne now requestID db with ⟨failure | won, after⟩
    · exact .unchanged (reconcileOne_failed ran)
    · rcases reconcileOne_ok ran with same | ⟨row, closing⟩
      · exact .unchanged same
      · exact .closed _ _ _ closing rfl rfl (beq_self_eq_true _)
  | resetMonthlyRequests p =>
    change Effect _ db (resetMonthlyRequests p db).2
    rcases ran : resetMonthlyRequests p db with ⟨failure | count, after⟩
    · exact .unchanged (resetMonthlyRequests_failed ran)
    · obtain ⟨idle, ledger, cleared⟩ := resetMonthlyRequests_ok ran
      exact .reset _ (fun _ => rfl) idle ledger cleared

/-- Orphan reconciliation is a run of per-row calls. -/
theorem reconcileEach_run (clock : ℕ → ℤ) (requestIDs : List String) (won : ℕ) (db : Database) :
    ∃ calls, (∀ call ∈ calls, ∃ now, ∃ requestID ∈ requestIDs, call = .reconcileOne now requestID) ∧
      (reconcileEach clock requestIDs won db).2 = run db calls := by
  induction requestIDs generalizing won db with
  | nil => exact ⟨[], by simp, rfl⟩
  | cons requestID rest ih =>
    rcases ran : reconcileOne (clock rest.length) requestID db with ⟨failure | closed, after⟩
    · refine ⟨[], by simp, ?_⟩
      have stopped : reconcileEach clock (requestID :: rest) won db = (.error failure, after) :=
        Tx.bind_failure.mpr (.inl ran)
      rw [stopped]
      exact reconcileOne_failed ran
    · obtain ⟨calls, listed, same⟩ := ih (if closed then won + 1 else won) after
      refine ⟨.reconcileOne (clock rest.length) requestID :: calls, ?_, ?_⟩
      · intro call member
        rcases List.mem_cons.mp member with rfl | member
        · exact ⟨_, requestID, List.mem_cons_self, rfl⟩
        · obtain ⟨now, other, inside, rfl⟩ := listed call member
          exact ⟨now, other, List.mem_cons_of_mem _ inside, rfl⟩
      · have continued : reconcileEach clock (requestID :: rest) won db =
            reconcileEach clock rest (if closed then won + 1 else won) after := Tx.bind_of_ok ran
        have first : step db (.reconcileOne (clock rest.length) requestID) = after :=
          congrArg Prod.snd ran
        rw [continued, same, run, run, runSteps_cons, first]

theorem reconcileOrphans_run (clock : ℕ → ℤ) (cutoff : ZonedTime) (db : Database) :
    ∃ calls, (∀ call ∈ calls, ∃ now, ∃ requestID ∈ agedOpen cutoff db,
        call = .reconcileOne now requestID) ∧
      (reconcileOrphans clock cutoff db).2 = run db calls :=
  reconcileEach_run clock (agedOpen cutoff db) 0 db

end AnselmGateway.QuotaStoreSemantics
