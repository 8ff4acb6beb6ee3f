import AnselmGateway.GenerationCloseOut
import AnselmGateway.ReserveAdmission

/-! The read model of `internal/app/quota` against the gate it describes. What the view shows
as remaining is a counter that passed reservations take from and rollbacks give back to, and
the monthly gate refuses exactly when it is used up. -/
namespace AnselmGateway.QuotaView
open Foundation Billing Quota QuotaStore Accounts QuotaStoreSemantics
open LedgerConservation AccountingAtomicity GenerationCloseOut ReserveAdmission

/-- `View`. -/
structure View where
  limit : Int64
  used : Int64
  remaining : Int64
  resetAt : ℤ
  available : Bool
  deriving DecidableEq

/-- `View`, as the service builds it; `monthResetAt` is `quota.MonthResetAt` where the
service is configured. -/
def view (monthResetAt : Period → ℤ) (installID : String) (p : Period) (lim : Limits) (db : Database) : View :=
  let (used, _, globalSpend) := QuotaStore.view installID p db
  let used := Int64.ofInt used
  let globalSpend := Int64.ofInt globalSpend
  let remaining := lim.monthlyQuota - used
  let remaining := if remaining < 0 then 0 else remaining
  { limit := lim.monthlyQuota
    used := used
    remaining := remaining
    resetAt := monthResetAt p
    available := decide (remaining > 0) && decide (globalSpend < lim.globalMonthlySpendPUSD) }

/-- One step of an install's traffic in a period: a reservation, or one given back. -/
inductive Turn where
  | reserve (random : List UInt8) (now : ℤ) (plan : Plan)
  | rollback (now : ℤ) (r : Reservation)

/-- What a turn comes to. -/
inductive Verdict where
  | passed
  | exhausted
  | returned
  | failed (error : StoreError)
  deriving DecidableEq

/-- How many requests of the month's entitlement a verdict takes. -/
def Verdict.taken : Verdict → ℤ
  | .passed => 1
  | .returned => -1
  | _ => 0

section
variable (installID : String) (p : Period) (lim : Limits)

def Turn.call : Turn → Call
  | .reserve random now plan => .reserve random now installID plan p lim
  | .rollback now r => .rollback now (some r)

/-- The tables as a turn leaves them. -/
def turnStep (db : Database) (turn : Turn) : Database := step db (turn.call installID p lim)

def verdict (db : Database) : Turn → Verdict
  | .reserve random now plan =>
    match (reserve random now installID plan p lim db).1 with
    | .ok _ => .passed
    | .error .monthlyExhausted => .exhausted
    | .error error => .failed error
  | .rollback now r =>
    match (rollback now (some r) db).1 with
    | .ok () => .returned
    | .error error => .failed error

/-- The turns of a list, one after the other. -/
def verdicts : Database → List Turn → List Verdict
  | _, [] => []
  | db, turn :: rest => verdict installID p lim db turn :: verdicts (turnStep installID p lim db turn) rest

end

/-- What the turns come to by a counter alone, of which a reservation takes one and a
rollback gives one back. -/
def entitled : ℤ → List Turn → List Verdict
  | _, [] => []
  | left, .reserve _ _ _ :: rest =>
    if 0 < left then .passed :: entitled (left - 1) rest else .exhausted :: entitled left rest
  | left, .rollback _ _ :: rest => .returned :: entitled (left + 1) rest

/-- Every daily cap is off. -/
structure CapsOff (lim : Limits) : Prop where
  dailySublimit : lim.dailySublimit.toInt ≤ 0
  imageDailyLimit : lim.imageDailyLimit.toInt ≤ 0
  speechDailyLimit : lim.speechDailyLimit.toInt ≤ 0
  videoDailyLimit : lim.videoDailyLimit.toInt ≤ 0
  voiceDailyLimit : lim.voiceDailyLimit.toInt ≤ 0

/-- The wallet has room for a reservation, and no other statement of it is in the way: its
request id is new, its tables have row numbers left, and its counters are not at the end of
their type. -/
structure Room (db : Database) (random : List UInt8) (installID : String) (plan : Plan) (p : Period)
    (lim : Limits) : Prop where
  wallet : balance db (.monthSpend p.month) + plan.reservedPUSD.toInt ≤ lim.globalMonthlySpendPUSD.toInt
  installDay : balance db (.installSpend installID p.day) + plan.reservedPUSD.toInt ≤ maxInt64
  category : (planCategory plan).1 ≠ "" →
    balance db (.categoryUnits installID (planCategory plan).1 p.day) + (planCategory plan).2.toInt ≤ maxInt64
  providerDay : balance db (.providerSpend plan.provider p.day) + plan.reservedPUSD.toInt ≤ maxInt64
  globalDay : balance db (.daySpend p.day) + plan.reservedPUSD.toInt ≤ maxInt64
  fresh : db.spendLedger.get? (newRequestID random) = none

instance (db : Database) (random : List UInt8) (installID : String) (plan : Plan) (p : Period) (lim : Limits) :
    Decidable (Room db random installID plan p lim) :=
  decidable_of_iff (_ ∧ _ ∧ (_ → _) ∧ _ ∧ _ ∧ _)
    ⟨fun ⟨wallet, installDay, category, providerDay, globalDay, fresh⟩ =>
      ⟨wallet, installDay, category, providerDay, globalDay, fresh⟩,
    fun room => ⟨room.wallet, room.installDay, room.category, room.providerDay, room.globalDay, room.fresh⟩⟩

section
variable (installID : String) (p : Period) (lim : Limits)

/-- A reservation of a valid plan, which has room as long as the month has; or the rollback
of a reservation of this install and month that is still open. -/
def Allowed (db : Database) : Turn → Prop
  | .reserve random _ plan => validatePlan plan = .ok () ∧ Spare db ∧
      (balance db (.monthlyRequests installID p.month) < lim.monthlyQuota.toInt →
        Room db random installID plan p lim)
  | .rollback _ r => validateReservation (some r) = .ok r ∧ r.installID = installID ∧ r.period.month = p.month ∧
      ∃ row, db.spendLedger.get? r.requestID = some row ∧ stillOpen r row = true

instance (db : Database) : (turn : Turn) → Decidable (Allowed installID p lim db turn)
  | .reserve _ _ _ => inferInstanceAs (Decidable (_ ∧ _ ∧ (_ → _)))
  | .rollback _ r =>
    decidable_of_iff (validateReservation (some r) = .ok r ∧ r.installID = installID ∧ r.period.month = p.month ∧
      (db.spendLedger.get? r.requestID).any (stillOpen r) = true) (by simp only [Allowed, Option.any_eq_true])

end

/-- What holds of the tables in every reachable state. -/
structure Sound (db : Database) : Prop where
  balanced : Balanced db
  bounded : Bounded db
  covered : OpenCovered db

theorem sound_step {db : Database} (call : Call) (sound : Sound db) : Sound (step db call) :=
  ⟨balanced_step call sound.balanced, bounded_step call sound.bounded, openCovered_step call sound.covered⟩

theorem sound_run (calls : List Call) : Sound (run .empty calls) :=
  ⟨balanced_run calls, bounded_run calls, openCovered_run calls openCovered_empty⟩

section Shown
variable (monthResetAt : Period → ℤ) (installID : String) (p : Period) {lim : Limits} {db : Database}

/-! ## What the view shows -/

theorem scan_toInt (bounded : Bounded db) (account : Account)
    (guarded : ∀ month, account ≠ .monthRequests month) :
    (Int64.ofInt (balance db account)).toInt = balance db account := by
  have low := balance_nonneg db account
  have high := bounded account guarded
  unfold maxInt64 at high
  exact Int64.toInt_ofInt_of_le (by omega) (by omega)

theorem view_used (lim : Limits) (bounded : Bounded db) :
    (view monthResetAt installID p lim db).used.toInt = balance db (.monthlyRequests installID p.month) :=
  scan_toInt bounded (.monthlyRequests installID p.month) (by simp)

/-- The remaining requests are what the limit leaves, and none beyond it. -/
theorem view_remaining (bounded : Bounded db) (quota : 0 ≤ lim.monthlyQuota.toInt) :
    (view monthResetAt installID p lim db).remaining.toInt =
      max 0 (lim.monthlyQuota.toInt - balance db (.monthlyRequests installID p.month)) := by
  have used := view_used monthResetAt installID p lim bounded
  have low := balance_nonneg db (.monthlyRequests installID p.month)
  have left := toInt_sub_of_nonneg quota (used.symm ▸ low)
  rw [used] at left
  change (if lim.monthlyQuota - (view monthResetAt installID p lim db).used < 0 then 0
    else lim.monthlyQuota - (view monthResetAt installID p lim db).used).toInt = _
  split
  · rename_i over_
    rw [Int64.lt_iff_toInt_lt, left, zero_toInt] at over_
    rw [zero_toInt]
    omega
  · rename_i within
    rw [Int64.lt_iff_toInt_lt, left, zero_toInt] at within
    rw [left]
    omega

theorem view_available (bounded : Bounded db) (quota : 0 ≤ lim.monthlyQuota.toInt) :
    (view monthResetAt installID p lim db).available = true ↔
      balance db (.monthlyRequests installID p.month) < lim.monthlyQuota.toInt ∧
        balance db (.monthSpend p.month) < lim.globalMonthlySpendPUSD.toInt := by
  have remaining := view_remaining monthResetAt installID p bounded quota
  have spent := scan_toInt bounded (.monthSpend p.month) (by simp)
  change (decide (0 < (view monthResetAt installID p lim db).remaining) &&
    decide (Int64.ofInt (balance db (.monthSpend p.month)) < lim.globalMonthlySpendPUSD)) = true ↔ _
  rw [Bool.and_eq_true, decide_eq_true_iff, decide_eq_true_iff, Int64.lt_iff_toInt_lt, Int64.lt_iff_toInt_lt,
    remaining, spent, zero_toInt]
  omega

/-- What is shown as unavailable is refused, and the refusal leaves no trace. -/
theorem unavailable_refused (bounded : Bounded db) (quota : 0 ≤ lim.monthlyQuota.toInt)
    (closed : (view monthResetAt installID p lim db).available = false) (random : List UInt8) (now : ℤ) {plan : Plan}
    (valid : validatePlan plan = .ok ()) :
    ∃ failure, reserve random now installID plan p lim db = (.error failure, db) := by
  rcases ran : reserve random now installID plan p lim db with ⟨failure | r, after⟩
  · exact ⟨failure, by rw [reserve_failed ran]⟩
  · -- A reservation that goes through found a request left, and the wallet below its limit.
    obtain ⟨_, _, admitted, _, _⟩ := reserve_ok ran
    have priced := (validatePlan_ok valid).2
    have monthly := admitted.monthly
    have wallet := admitted.globalMonth
    have shown := (view_available monthResetAt installID p bounded quota).mpr ⟨monthly, by omega⟩
    rw [closed] at shown
    cases shown

end Shown

/-! ## One turn -/

variable {installID : String} {p : Period} {lim : Limits} {db : Database}

theorem categoryCap_off (off : CapsOff lim) (category : String) : ¬ 0 < (categoryCap category lim).toInt := by
  have image := off.imageDailyLimit
  have speech := off.speechDailyLimit
  have video := off.videoDailyLimit
  have voice := off.voiceDailyLimit
  unfold categoryCap
  repeat' split
  all_goals first | omega | decide

/-- A table with a row number left counts fewer requests than its column holds. -/
theorem requests_lt (balanced : Balanced db) (spare : db.spendLedger.rows.length < maxRowid) (provider day : String) :
    balance db (.providerRequests provider day) < maxInt64 ∧ balance db (.dayRequests day) < maxInt64 := by
  have conserved := conserved_of_balanced balanced
  have rows : ∀ matching, (ledgerRequests db matching : ℤ) < maxInt64 := by
    intro matching
    have few := Nat.lt_of_le_of_lt (List.countP_le_length (p := fun row : String × LedgerRow =>
      matching row.2 && row.2.state != .rolledBack) (l := db.spendLedger.rows)) spare
    unfold maxRowid at few
    unfold ledgerRequests maxInt64
    omega
  simp only [balance, conserved.providerDay, conserved.globalDay]
  exact ⟨rows _, rows _⟩

/-- With the caps off, a request left and room, every gate is met. -/
theorem admitted_of_room {random : List UInt8} {plan : Plan} (balanced : Balanced db) (off : CapsOff lim)
    (spare : Spare db) (left : balance db (.monthlyRequests installID p.month) < lim.monthlyQuota.toInt)
    (room : Room db random installID plan p lim) : Admitted db installID plan p lim where
  monthly := left
  installDay := room.installDay
  sublimit enabled := absurd enabled (Int.not_lt.mpr off.dailySublimit)
  category named := by
    rw [if_neg (categoryCap_off off _)]
    exact room.category named
  providerDay := ⟨room.providerDay, (requests_lt balanced spare.spendLedger plan.provider p.day).1⟩
  globalDay := ⟨room.globalDay, (requests_lt balanced spare.spendLedger plan.provider p.day).2⟩
  globalMonth := room.wallet

/-- What is left of the month's entitlement; below zero where the limit was lowered. -/
def left (installID : String) (p : Period) (lim : Limits) (db : Database) : ℤ :=
  lim.monthlyQuota.toInt - balance db (.monthlyRequests installID p.month)

theorem left_pos : 0 < left installID p lim db ↔
    balance db (.monthlyRequests installID p.month) < lim.monthlyQuota.toInt := by
  unfold left
  omega

/-- A reservation passes if anything is left, and takes one. -/
theorem reserve_passes {random : List UInt8} {now : ℤ} {plan : Plan} (balanced : Balanced db) (off : CapsOff lim)
    (valid : validatePlan plan = .ok ()) (spare : Spare db) (some_ : 0 < left installID p lim db)
    (room : Room db random installID plan p lim) :
    verdict installID p lim db (.reserve random now plan) = .passed ∧
      left installID p lim (reserve random now installID plan p lim db).2 = left installID p lim db - 1 := by
  obtain ⟨after, ran⟩ : ∃ after, reserve random now installID plan p lim db =
      (.ok (granted (newRequestID random) installID plan p lim), after) :=
    reserve_succeeds valid (admitted_of_room balanced off spare (left_pos.mp some_) room) spare room.fresh
  obtain ⟨_, _, _, moved, _⟩ := reserve_ok ran
  refine ⟨by rw [verdict, ran], ?_⟩
  have one : entry (openRow now (granted (newRequestID random) installID plan p lim))
      (.monthlyRequests installID p.month) = 1 := by simp [entry, openRow, granted, counted]
  rw [ran, left, left, moved, Pi.add_apply, one]
  omega

/-- With nothing left it is refused as exhausted, and takes nothing. -/
theorem reserve_refused {random : List UInt8} {now : ℤ} {plan : Plan} (valid : validatePlan plan = .ok ())
    (spare : Spare db) (none_ : ¬ 0 < left installID p lim db) :
    verdict installID p lim db (.reserve random now plan) = .exhausted ∧
      (reserve random now installID plan p lim db).2 = db := by
  have used : lim.monthlyQuota.toInt ≤ balance db (.monthlyRequests installID p.month) :=
    Int.not_lt.mp fun under => none_ (left_pos.mpr under)
  have ran : reserve random now installID plan p lim db = (.error .monthlyExhausted, db) :=
    reserve_exhausted valid spare.quotaMonthly used
  exact ⟨by rw [verdict, ran], by rw [ran]⟩

/-- A rollback of an open reservation of this install and month gives back one. -/
theorem rollback_returns {now : ℤ} {r : Reservation} (covered : OpenCovered db)
    (allowed : Allowed installID p lim db (.rollback now r)) :
    verdict installID p lim db (.rollback now r) = .returned ∧
      left installID p lim (rollback now (some r) db).2 = left installID p lim db + 1 := by
  obtain ⟨accepted, rfl, month, row, held, opened⟩ := allowed
  have row_eq := stillOpen_row opened (Table.checked_get? held)
  rw [row_eq] at held
  obtain ⟨final, ran, _, given⟩ := rollback_succeeds now accepted held (covered.row held rfl)
  refine ⟨by rw [verdict, ran], ?_⟩
  have one : entry (openRow row.createdAt r) (.monthlyRequests r.installID p.month) = 1 := by
    simp [entry, openRow, month, counted]
  rw [ran, left, left, given, Pi.add_apply, Pi.neg_apply, one]
  omega

/-- A turn comes to what the counter says, and moves it by what it comes to. -/
theorem turn_answered (sound : Sound db) (off : CapsOff lim) {turn : Turn}
    (allowed : Allowed installID p lim db turn) (rest : List Turn) :
    entitled (left installID p lim db) (turn :: rest) = verdict installID p lim db turn ::
        entitled (left installID p lim (turnStep installID p lim db turn)) rest ∧
      left installID p lim (turnStep installID p lim db turn) =
        left installID p lim db - (verdict installID p lim db turn).taken := by
  cases turn with
  | reserve random now plan =>
    obtain ⟨valid, spare, room⟩ := allowed
    change _ = _ :: entitled (left installID p lim (reserve random now installID plan p lim db).2) rest ∧
      left installID p lim (reserve random now installID plan p lim db).2 = _
    by_cases some_ : 0 < left installID p lim db
    · obtain ⟨passed, moved⟩ : verdict installID p lim db (.reserve random now plan) = .passed ∧ _ :=
        reserve_passes sound.balanced off valid spare some_ (room (left_pos.mp some_))
      rw [entitled, if_pos some_, passed, moved]
      exact ⟨rfl, rfl⟩
    · obtain ⟨exhausted, kept⟩ : verdict installID p lim db (.reserve random now plan) = .exhausted ∧ _ :=
        reserve_refused valid spare some_
      rw [entitled, if_neg some_, exhausted, kept]
      exact ⟨rfl, (Int.sub_zero _).symm⟩
  | rollback now r =>
    change _ = _ :: entitled (left installID p lim (rollback now (some r) db).2) rest ∧
      left installID p lim (rollback now (some r) db).2 = _
    obtain ⟨returned, moved⟩ := rollback_returns sound.covered allowed
    rw [entitled, returned, moved]
    exact ⟨rfl, (Int.sub_neg _ 1).symm⟩

/-! ## A run of turns -/

theorem sound_turn (turn : Turn) (sound : Sound db) : Sound (turnStep installID p lim db turn) :=
  sound_step (turn.call installID p lim) sound

theorem verdicts_eq (sound : Sound db) (off : CapsOff lim) {turns : List Turn}
    (allowed : AllAlong (turnStep installID p lim) (Allowed installID p lim) db turns) :
    verdicts installID p lim db turns = entitled (left installID p lim db) turns := by
  induction turns generalizing db with
  | nil => rfl
  | cons turn rest ih =>
    obtain ⟨here, later⟩ := allowed
    obtain ⟨answered, _⟩ := turn_answered sound off here rest
    rw [verdicts, answered, ih (sound_turn turn sound) later]

/-- What is left after a run is what was left, less what the run took. -/
theorem left_after (sound : Sound db) (off : CapsOff lim) {turns : List Turn}
    (allowed : AllAlong (turnStep installID p lim) (Allowed installID p lim) db turns) :
    left installID p lim (runSteps (turnStep installID p lim) db turns) =
      left installID p lim db - ((verdicts installID p lim db turns).map Verdict.taken).sum := by
  induction turns generalizing db with
  | nil => exact (Int.sub_zero _).symm
  | cons turn rest ih =>
    obtain ⟨here, later⟩ := allowed
    obtain ⟨_, moved⟩ := turn_answered sound off here rest
    rw [runSteps_cons, ih (sound_turn turn sound) later, moved, verdicts, List.map_cons,
      List.sum_cons]
    omega

theorem sound_after (sound : Sound db) (turns : List Turn) :
    Sound (runSteps (turnStep installID p lim) db turns) :=
  runSteps_invariant (fun _ turn held => sound_turn turn held) sound

/-- Reservations alone pass while anything is left, and none after. -/
theorem entitled_reserves {turns : List Turn} (only : ∀ turn ∈ turns, ∃ random now plan, turn = .reserve random now plan)
    (count : ℤ) : entitled count turns =
      List.replicate (min count.toNat turns.length) .passed ++
        List.replicate (turns.length - count.toNat) .exhausted := by
  induction turns generalizing count with
  | nil => simp [entitled]
  | cons turn rest ih =>
    obtain ⟨random, now, plan, rfl⟩ := only turn List.mem_cons_self
    have only := fun other member => only other (List.mem_cons_of_mem _ member)
    rw [entitled, List.length_cons]
    split
    · rename_i some_
      have one : count.toNat = (count - 1).toNat + 1 := by omega
      rw [ih only, one, Nat.succ_min_succ, Nat.add_sub_add_right, List.replicate_succ]
      rfl
    · rename_i none_
      have zero : count.toNat = 0 := by omega
      rw [ih only, zero]
      simp [List.replicate_succ]

/-! ## The view and the gate -/

/-- In every reachable state, what the view shows as unavailable is refused. With the daily
caps off, turns that have room come to what a counter of the limit less the requests shown
as used says, and the view after them shows the requests used then; reservations alone pass
exactly as often as the view shows remaining, and are refused as exhausted from there on. -/
theorem view_agrees_with_gate (monthResetAt : Period → ℤ) (calls : List Call) (installID : String) (p : Period)
    (lim : Limits) (quota : 0 ≤ lim.monthlyQuota.toInt) :
    let db := run .empty calls
    let seen := view monthResetAt installID p lim db
    (seen.available = false → ∀ random now plan, validatePlan plan = .ok () →
      ∃ failure, reserve random now installID plan p lim db = (.error failure, db)) ∧
    (CapsOff lim → ∀ turns,
      AllAlong (turnStep installID p lim) (Allowed installID p lim) db turns →
      verdicts installID p lim db turns = entitled (lim.monthlyQuota.toInt - seen.used.toInt) turns ∧
      (view monthResetAt installID p lim
          (runSteps (turnStep installID p lim) db turns)).used.toInt =
        seen.used.toInt + ((verdicts installID p lim db turns).map Verdict.taken).sum ∧
      ((∀ turn ∈ turns, ∃ random now plan, turn = .reserve random now plan) →
        verdicts installID p lim db turns =
          List.replicate (min seen.remaining.toInt.toNat turns.length) .passed ++
            List.replicate (turns.length - seen.remaining.toInt.toNat) .exhausted)) := by
  intro db seen
  have sound : Sound db := sound_run calls
  have used : seen.used.toInt = balance db (.monthlyRequests installID p.month) :=
    view_used monthResetAt installID p lim sound.bounded
  have remaining : seen.remaining.toInt = max 0 (lim.monthlyQuota.toInt - _) :=
    view_remaining monthResetAt installID p sound.bounded quota
  refine ⟨fun closed random now plan valid =>
    unavailable_refused monthResetAt installID p sound.bounded quota closed random now valid, ?_⟩
  intro off turns allowed
  have counted := verdicts_eq sound off allowed
  refine ⟨by rw [counted, used, left], ?_, ?_⟩
  · have taken := left_after sound off allowed
    have after : Sound (runSteps (turnStep installID p lim) db turns) := sound_after sound turns
    have shown := view_used monthResetAt installID p lim after.bounded
    unfold left at taken
    omega
  · intro only
    have same : (left installID p lim db).toNat = seen.remaining.toInt.toNat := by
      unfold left
      omega
    rw [counted, entitled_reserves only, same]

/-! An install at two requests a month gets its second one back, and uses it again. -/

def twoRequests : Limits := ⟨2, 200000000000, 0, 0, 0, 0, 0, by decide⟩

def returnedOnce : List Turn :=
  [.reserve [1] 0 imagePlan, .reserve [2] 0 imagePlan, .rollback 1 (granted (newRequestID [2]) "install" imagePlan
    august twoRequests), .reserve [3] 2 imagePlan, .reserve [4] 3 imagePlan]

theorem view_agrees_with_gate_returned :
    let seen := view (fun _ => 0) "install" august twoRequests .empty
    seen.remaining = 2 ∧
      verdicts "install" august twoRequests .empty returnedOnce = [.passed, .passed, .returned, .passed, .exhausted] ∧
      (view (fun _ => 0) "install" august twoRequests
        (runSteps (turnStep "install" august twoRequests) .empty returnedOnce)).used.toInt = 2 := by
  have along : AllAlong (turnStep "install" august twoRequests) (Allowed "install" august twoRequests) .empty
      returnedOnce :=
    allAlong_of_check (fun _ _ => of_decide_eq_true)
      (show checkAlong _ (fun db turn => decide (Allowed "install" august twoRequests db turn)) _ _ = true by
        decide +kernel)
  obtain ⟨came, used, _⟩ := (view_agrees_with_gate (fun _ => 0) [] "install" august twoRequests (by decide)).2
    ⟨by decide, by decide, by decide, by decide, by decide⟩ returnedOnce along
  have answers : verdicts "install" august twoRequests .empty returnedOnce =
      [.passed, .passed, .returned, .passed, .exhausted] := came.trans (by decide)
  refine ⟨by decide, answers, used.trans ?_⟩
  change _ + ((verdicts "install" august twoRequests .empty returnedOnce).map Verdict.taken).sum = 2
  rw [answers]
  decide

/-- The wallet has room for a turn, and nothing else is asked. -/
def walletRoom (p : Period) (lim : Limits) (db : Database) : Turn → Bool
  | .reserve _ _ plan =>
    decide (balance db (.monthSpend p.month) + plan.reservedPUSD.toInt ≤ lim.globalMonthlySpendPUSD.toInt)
  | .rollback _ _ => true

/-- A wallet with room is not enough: a request id drawn twice is refused by the ledger's key
while the view still shows a request remaining. -/
theorem repeated_id_refused :
    ¬ ∀ (calls : List Call) (installID : String) (p : Period) (lim : Limits), 0 ≤ lim.monthlyQuota.toInt →
      CapsOff lim → ∀ turns : List Turn,
      (∀ turn ∈ turns, ∃ random now plan, turn = .reserve random now plan ∧ validatePlan plan = .ok ()) →
      AllAlong (turnStep installID p lim) (fun db turn => walletRoom p lim db turn = true) (run .empty calls) turns →
      let remaining := (view (fun _ => 0) installID p lim (run .empty calls)).remaining.toInt.toNat
      verdicts installID p lim (run .empty calls) turns =
        List.replicate (min remaining turns.length) .passed ++ List.replicate (turns.length - remaining) .exhausted := by
  intro exact_
  let turns : List Turn := List.replicate 3 (.reserve [1] 0 imagePlan)
  have room : AllAlong (turnStep "install" august twoRequests)
      (fun db turn => walletRoom august twoRequests db turn = true) .empty turns :=
    allAlong_of_check (fun _ _ met => met) (by decide +kernel)
  have promised := exact_ [] "install" august twoRequests (by decide)
    ⟨by decide, by decide, by decide, by decide, by decide⟩ turns
    (fun _ member => ⟨[1], 0, imagePlan, List.eq_of_mem_replicate member, by decide⟩) room
  -- The view shows two remaining; the second call is refused, and so is the third.
  have answers : verdicts "install" august twoRequests .empty turns =
      [.passed, .failed (.statement "spend ledger insert" .unique),
        .failed (.statement "spend ledger insert" .unique)] := by decide +kernel
  exact absurd (answers.symm.trans promised) (by decide +kernel)

end AnselmGateway.QuotaView
