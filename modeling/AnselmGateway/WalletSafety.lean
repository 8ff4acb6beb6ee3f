import AnselmGateway.QuotaStoreSemantics

/-! No oversell. The wallet is tested and moved by one statement, so a successful
reservation ends below the budget it was tested against; between reservations
the wallet only comes down as long as settlements stay within their quotes. -/
namespace AnselmGateway.WalletSafety
open Foundation Billing Quota QuotaStore Accounts QuotaStoreSemantics

/-- Where one successful reservation leaves the guarded counters. -/
structure WithinLimits (after : Database) (installID : String) (plan : Plan) (p : Period)
    (lim : Limits) : Prop where
  wallet : (after.globalSpendMonthly.read 0 p.month).spendPUSD ≤ lim.globalMonthlySpendPUSD.toInt
  monthly : after.quotaMonthly.read 0 (installID, p.month) ≤ lim.monthlyQuota.toInt
  sublimit : 0 < lim.dailySublimit.toInt →
    (after.installSpendDaily.read 0 (installID, p.day)).requests ≤ lim.dailySublimit.toInt
  category : (planCategory plan).1 ≠ "" → 0 < (categoryCap (planCategory plan).1 lim).toInt →
    after.installCategoryDaily.read 0 (installID, (planCategory plan).1, p.day) ≤
      (categoryCap (planCategory plan).1 lim).toInt

theorem reserve_within_limits {random : List UInt8} {now : ℤ} {installID : String} {plan : Plan}
    {p : Period} {lim : Limits} {db after : Database} {r : Reservation}
    (ran : reserve random now installID plan p lim db = (.ok r, after)) :
    WithinLimits after installID plan p lim := by
  obtain ⟨valid, rfl, admitted, moved, _⟩ := reserve_ok ran
  obtain ⟨known, priced⟩ := validatePlan_ok valid
  have units := heldUnits_granted (newRequestID random) installID p lim now known
  have at' (account : Account) := congrFun moved account
  constructor
  · have wallet := at' (.monthSpend p.month)
    have gate := admitted.globalMonth
    simp only [balance, Pi.add_apply, entry, openRow, granted, value, ↓reduceIte] at wallet gate
    omega
  · have monthly := at' (.monthlyRequests installID p.month)
    have gate := admitted.monthly
    simp only [balance, Pi.add_apply, entry, openRow, granted, counted, reduceCtorEq, and_self,
      ↓reduceIte] at monthly gate
    omega
  · intro enabled
    have requests := at' (.installRequests installID p.day)
    have gate := admitted.sublimit enabled
    simp only [balance, Pi.add_apply, entry, openRow, granted, counted, toInt_pos.mp enabled,
      decide_true, reduceCtorEq, and_self, ↓reduceIte] at requests gate
    omega
  · intro named enabled
    have held := at' (.categoryUnits installID (planCategory plan).1 p.day)
    have gate := admitted.category named
    rw [if_pos enabled] at gate
    rw [Pi.add_apply, entry, units] at held
    simp only [balance, openRow, granted, counted, reduceCtorEq, and_self, ↓reduceIte,
      one_mul] at held gate
    omega

/-! ## Runs under constant limits -/

/-- Reservations see one limits snapshot, and settlements charge at most what
was reserved. -/
def Steady (lim : Limits) : Call → Prop
  | .reserve _ _ _ _ _ snapshot => snapshot = lim
  | .settle _ (some r) actualPUSD => actualPUSD ≤ r.reservedPUSD
  | _ => True

/-- No month's wallet holds more than the budget. -/
def Funded (lim : Limits) (db : Database) : Prop :=
  ∀ month, balance db (.monthSpend month) ≤ lim.globalMonthlySpendPUSD.toInt

/-- Closing a row for no more than it held never raises a wallet. -/
theorem funded_closed {lim : Limits} {db after : Database} {requestID : String}
    {row closed : LedgerRow} (funded : Funded lim db) (closing : Closed db after requestID row closed)
    (month : closed.periodMonth = row.periodMonth) (charge : value closed ≤ value row) :
    Funded lim after := by
  intro other
  have before := funded other
  rw [closing.moved, Pi.add_apply, Pi.sub_apply]
  simp only [entry, month]
  split <;> omega

theorem funded_step {lim : Limits} {db : Database} (call : Call) (steady : Steady lim call)
    (funded : Funded lim db) : Funded lim (step db call) := by
  cases call with
  | reserve random now installID plan p snapshot =>
    obtain rfl : snapshot = lim := steady
    change Funded snapshot (reserve random now installID plan p snapshot db).2
    rcases ran : reserve random now installID plan p snapshot db with ⟨failure | r, after⟩
    · rwa [reserve_failed ran]
    · have wallet := (reserve_within_limits ran).wallet
      obtain ⟨_, rfl, _, moved, _⟩ := reserve_ok ran
      intro month
      by_cases same : p.month = month
      · exact same ▸ wallet
      · rw [moved, Pi.add_apply]
        simpa [entry, openRow, granted, same] using funded month
  | settle now presented actualPUSD =>
    change Funded lim (settle now presented actualPUSD db).2
    rcases ran : settle now presented actualPUSD db with ⟨failure | _, after⟩
    · rwa [settle_failed ran]
    · obtain ⟨r, rfl, _, rfl | ⟨opened, closing⟩⟩ := settle_ok ran
      · exact funded
      · exact funded_closed funded closing rfl (Int64.le_iff_toInt_le.mp steady)
  | rollback now presented =>
    change Funded lim (rollback now presented db).2
    rcases ran : rollback now presented db with ⟨failure | _, after⟩
    · rwa [rollback_failed ran]
    · obtain ⟨r, rfl, rfl | ⟨opened, closing⟩⟩ := rollback_ok ran
      · exact funded
      · have checked := Table.checked_get? closing.held
        simp only [spendLedgerSchema, LedgerRow.check, Bool.and_eq_true] at checked
        exact funded_closed funded closing rfl (of_decide_eq_true checked.1.1.2).le
  | reconcileOne now requestID =>
    change Funded lim (reconcileOne now requestID db).2
    rcases ran : reconcileOne now requestID db with ⟨failure | won, after⟩
    · rwa [reconcileOne_failed ran]
    · rcases reconcileOne_ok ran with rfl | ⟨row, closing⟩
      · exact funded
      · exact funded_closed funded closing rfl (by simp [value, orphanedRow, closing.wasOpen])
  | resetMonthlyRequests p =>
    change Funded lim (resetMonthlyRequests p db).2
    rcases ran : resetMonthlyRequests p db with ⟨failure | count, after⟩
    · rwa [resetMonthlyRequests_failed ran]
    · intro month
      rw [(resetMonthlyRequests_ok ran).2.2]
      exact funded month

theorem funded_empty (lim : Limits) : Funded lim .empty := fun _ => lim.wallet_nonneg

/-- **No oversell.** From any database a successful reservation leaves the
wallet, the monthly entitlement and every enabled daily cap within the limits it
was tested against; and along any run under constant limits in which no
settlement exceeds its reservation, no month's wallet ever exceeds the budget.
Limits that are live have a wallet that is not negative
(`PublishedCapabilities.live_wallet`). -/
theorem no_oversell (lim : Limits) :
    (∀ random now installID plan p db r after,
      reserve random now installID plan p lim db = (.ok r, after) →
        WithinLimits after installID plan p lim) ∧
    (∀ calls, (∀ call ∈ calls, Steady lim call) → ∀ month,
      ((run .empty calls).globalSpendMonthly.read 0 month).spendPUSD ≤
        lim.globalMonthlySpendPUSD.toInt) :=
  ⟨fun _ _ _ _ _ _ _ _ ran => reserve_within_limits ran,
    fun _ steady => runSteps_invariant_of (fun _ call => funded_step call) (funded_empty lim) steady⟩

/-- The first image request of a month is admitted, and a second one finds the
wallet spent. -/
theorem no_oversell_images :
    WithinLimits (reserve [1] 0 "install" imagePlan august imageLimits .empty).2 "install" imagePlan
        august imageLimits ∧
      ((run .empty [.reserve [1] 0 "install" imagePlan august imageLimits,
        .reserve [2] 0 "install" imagePlan august imageLimits]).globalSpendMonthly.read 0
          "2026-08").spendPUSD ≤ 100000000000 :=
  ⟨(no_oversell imageLimits).1 [1] 0 "install" imagePlan august .empty
      (granted (newRequestID [1]) "install" imagePlan august imageLimits) _
      (Prod.ext (by decide) rfl),
    (no_oversell imageLimits).2 _ (by simp [Steady]) "2026-08"⟩

end AnselmGateway.WalletSafety
