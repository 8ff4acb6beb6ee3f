import AnselmGateway.AccountingAtomicity
import AnselmGateway.Genrun
import AnselmGateway.LedgerConservation
import AnselmGateway.LedgerTerminal

/-! Whether a generation's reservation is closed when its run returns. Nothing
in the accounts stands in the way: the row is still open and its entry is still
on the books. What decides is the context, which the close-out inherits. -/
namespace AnselmGateway.GenerationCloseOut
open Foundation Billing Quota QuotaStore Accounts QuotaStoreSemantics LedgerTerminal
open LedgerConservation AccountingAtomicity Genrun

/-! ## What the open rows have booked -/

/-- The entries of the open rows are on the books. -/
def OpenCovered (db : Database) : Prop := ∀ account,
  (db.spendLedger.tally fun _ row => if row.state = .open then entry row account else 0) ≤
    balance db account

theorem value_nonneg {row : LedgerRow} (checked : row.check = true) : 0 ≤ value row := by
  simp only [LedgerRow.check, Bool.and_eq_true] at checked
  obtain ⟨⟨⟨_, reserved⟩, charge⟩, _⟩ := checked
  have positive : 0 < row.reservedPUSD := of_decide_eq_true reserved
  have charged : 0 ≤ row.chargedPUSD.getD 0 := by
    cases amount : row.chargedPUSD with
    | none => exact le_rfl
    | some amount' => simpa [amount] using charge
  unfold value
  split <;> omega

theorem openCovered_empty : OpenCovered .empty := fun account => by
  rw [balance_empty]
  exact le_rfl

/-- While nothing is open, nothing has to be covered. -/
theorem open_tally_idle {db : Database} (idle : openReservations db = 0) (account : Account) :
    (db.spendLedger.tally fun _ row => if row.state = .open then entry row account else 0) = 0 := by
  have closed := List.countP_eq_zero.mp idle
  apply List.sum_eq_zero
  intro amount member
  obtain ⟨row, inside, rfl⟩ := List.mem_map.mp member
  dsimp only
  rw [if_neg]
  intro opened
  exact closed row inside (beq_iff_eq.mpr opened)

theorem openCovered_step {db : Database} (call : Call) (covered : OpenCovered db) :
    OpenCovered (step db call) := by
  intro account
  have before := covered account
  cases step_effect db call with
  | unchanged same => rwa [same]
  | opened requestID row opened _ inserted moved _ =>
    rw [moved, Pi.add_apply, Table.tally_insert inserted, if_pos opened]
    omega
  | closed requestID row closed closing terminal _ _ =>
    have worth : 0 ≤ entry closed account := by
      have held : (step db call).spendLedger.get? requestID = some closed := by
        rw [closed_get? closing, if_pos rfl]
      exact entry_nonneg closed (value_nonneg (Table.checked_get? held)) account
    have notOpen : closed.state ≠ .open := by
      rintro opened
      rw [opened] at terminal
      cases terminal
    obtain ⟨condition, assign, met, rfl, updated⟩ := closing.ledger
    rw [closing.moved, Pi.add_apply, Pi.sub_apply,
      Table.tally_updateAt updated closing.held met
        fun _ row => if row.state = .open then entry row account else 0,
      if_pos closing.wasOpen, if_neg notOpen]
    omega
  | reset month _ idle ledger _ =>
    rw [ledger, open_tally_idle idle]
    exact balance_nonneg _ account

theorem openCovered_run (calls : List Call) {db : Database} (covered : OpenCovered db) :
    OpenCovered (QuotaStore.run db calls) :=
  runSteps_invariant (fun _ call => openCovered_step call) covered

/-- One open row is covered by what all of them have booked. -/
theorem OpenCovered.row {db : Database} (covered : OpenCovered db) {requestID : String}
    {row : LedgerRow} (held : db.spendLedger.get? requestID = some row) (opened : row.state = .open)
    (account : Account) : entry row account ≤ balance db account := by
  have single : (if row.state = .open then entry row account else 0) ≤
      db.spendLedger.tally fun _ row => if row.state = .open then entry row account else 0 := by
    refine Table.weight_le_tally held fun other member => ?_
    split
    · exact entry_nonneg _ (value_nonneg (db.spendLedger.checked other member)) account
    · exact le_rfl
  rw [if_pos opened] at single
  exact single.trans (covered account)

/-! ## The row of one reservation -/

section Row
variable {requestID : String} {row : LedgerRow} {db : Database}

/-- Calls that are not addressed to a reservation leave its open row alone. -/
theorem held_step {call : Call} (apart : addressed requestID call = false)
    (held : db.spendLedger.get? requestID = some row) :
    (step db call).spendLedger.get? requestID = some row := by
  cases step_effect db call with
  | unchanged same => rwa [same]
  | opened fresh added _ _ inserted _ _ =>
    have other : requestID ≠ fresh := by
      rintro rfl
      rw [(Table.insert_ok inserted).2] at held
      cases held
    rw [Table.get?_insert inserted, if_neg other, held]
  | closed target before closed closing _ _ mine =>
    have other : requestID ≠ target := by
      rintro rfl
      rw [apart] at mine
      cases mine
    rw [closed_get? closing, if_neg other, held]
  | reset _ _ _ ledger _ => rwa [ledger]

theorem held_run {calls : List Call} (apart : ∀ call ∈ calls, addressed requestID call = false)
    (held : db.spendLedger.get? requestID = some row) :
    (QuotaStore.run db calls).spendLedger.get? requestID = some row := by
  induction calls generalizing db with
  | nil => exact held
  | cons call rest ih =>
    exact ih (fun other member => apart other (List.mem_cons_of_mem _ member))
      (held_step (apart call List.mem_cons_self) held)

end Row

/-! ## The amount -/

theorem checkedMul_zero {price cost : Int64} (priced : checkedMul 0 price = .ok cost) : cost = 0 := by
  unfold checkedMul at priced
  split at priced
  · cases priced
  · cases priced
    exact Int64.zero_mul

theorem checkedAdd_zero {cost total : Int64} (summed : checkedAdd cost 0 = .ok total) :
    total = cost := by
  unfold checkedAdd at summed
  split at summed
  · cases summed
  · cases summed
    exact Int64.add_zero cost

/-- A plan priced by its own unit costs, for the units it was made for, what it
reserves; one that has no unit price falls back to the same. -/
theorem cost_reserved {provider : Provider} {model : String} {c : Charge} {res : Reservation}
    (built : newUnitPlan provider model c.inputClass c.units = .ok res.plan)
    (quoted : res.reservedPUSD = res.plan.reservedPUSD) : c.cost res = res.reservedPUSD := by
  obtain ⟨card, tier, inCost, outCost, total, _, _, inRange, tiered, inPriced, outPriced, summed,
    plan⟩ := newPlan_ok built
  obtain rfl := checkedMul_zero outPriced
  obtain rfl := checkedAdd_zero summed
  unfold Charge.cost Plan.unitCost
  rw [quoted, plan]
  by_cases unit : (unitClasses c.inputClass).isNone = true
  · simp [unit, throw, throwThe, MonadExceptOf.throw, bind, Except.bind]
  · obtain ⟨low, _, high, _⟩ := inRange
    simp [unit, low, high, tiered, inPriced]

/-! ## Closing -/

section Close
variable {r : Reservation} {db : Database} {now : ℤ}

/-- Settling at the reserved amount moves no balance, so nothing can refuse it. -/
theorem settle_full_succeeds (later : ℤ) (accepted : validateReservation (some r) = .ok r)
    (held : db.spendLedger.get? r.requestID = some (openRow now r)) :
    ∃ final, QuotaStore.settle later (some r) r.reservedPUSD db = (.ok (), final) ∧
      final.spendLedger.get? r.requestID =
        some (settledRow later r.reservedPUSD (openRow now r)) := by
  obtain ⟨_, _, _, quoted, _, _⟩ := validateReservation_ok accepted
  obtain ⟨table, updated⟩ := Table.updateAt_succeeds held (stillOpen_openRow now r)
    (terminal_rows_accepted later r.reservedPUSD quoted.le (Table.checked_get? held)).1
  refine ⟨{ db with spendLedger := table }, ?_, ?_⟩
  · refine Tx.bind_ok.mpr ⟨r, db, Tx.ofExcept_ok.mpr ⟨accepted, rfl⟩, ?_⟩
    rw [if_neg (Int64.not_lt.mpr (Int64.le_of_lt (toInt_pos.mp quoted)))]
    refine Tx.transaction_ok.mpr (Tx.bind_ok.mpr ⟨1, { db with spendLedger := table }, ?_, ?_⟩)
    · simp only [execCount, spendLedger, updated]
    · simp [adjustSpend]
  · change table.get? r.requestID = _
    rw [Table.get?_updateAt updated held (stillOpen_openRow now r), if_pos rfl]

/-- A transaction none of whose steps fails does what its body does. -/
theorem transaction_runs {fails : Moment → Bool} {body : StoreTx Unit} {after : Database}
    (steady : ∀ moment, fails moment = false) (ran : body db = (.ok (), after)) :
    Genrun.transaction fails body db = (.ok (), after) := by
  simp [Genrun.transaction, steady, ran]

/-- One whose commit fails leaves nothing behind. -/
theorem transaction_lost {fails : Moment → Bool} (body : StoreTx Unit) (db : Database)
    (lost : fails .commit = true) (restores : ∀ failure after, body db = (.error failure, after) →
      after = db) : (Genrun.transaction fails body db).2 = db := by
  unfold Genrun.transaction
  split
  · rfl
  · split
    · rfl
    · rcases ran : body db with ⟨failure | _, after⟩
      · exact restores failure after ran
      · rfl

end Close

/-! ## A run -/

/-- What is relied on of the storage layer: it fails only under a context that is
done, and it does not commit a transaction whose context is. -/
structure Obeys (ctx : Context) (fails : Moment → Bool) : Prop where
  onlyDone : ∀ moment, fails moment = true → ctx.done moment = true
  atCommit : ctx.done .commit = true → fails .commit = true

/-- How the reservation must stand when the run returns: rolled back exactly if
the call failed with a proof of no charge, otherwise settled at what was
reserved. -/
def ClosedAs {α : Type} (answer : Answer α) (res : Reservation) (db : Database) : Prop :=
  ∃ row, db.spendLedger.get? res.requestID = some row ∧
    match answer with
    | .failed true _ => row.state = .rolledBack
    | .failed false _ | .value _ => row.state = .settled ∧ row.chargedPUSD = some res.reservedPUSD.toInt

theorem not_closedAs_open {α : Type} {answer : Answer α} {res : Reservation} {db : Database}
    (now : ℤ) (held : db.spendLedger.get? res.requestID = some (openRow now res)) :
    ¬ClosedAs answer res db := by
  rintro ⟨row, found, closed⟩
  rw [held] at found
  obtain rfl := Option.some.inj found
  split at closed
  · cases closed
  · cases closed.1
  · cases closed.1

section Run
variable {α : Type} {ctx : Context} {fails : Moment → Bool} {c : Charge} {answer : Answer α}
  {res : Reservation} {s : State} {now closedAt : ℤ}

/-- Under a context that is done at the commit the close-out leaves no trace. -/
theorem closeOut_lost (lost : fails .commit = true) :
    (closeOut fails closedAt c res answer s).db = s.db := by
  have settles (amount : Int64) : (Genrun.settle fails closedAt res amount s).db = s.db := by
    have kept := transaction_lost (QuotaStore.settle closedAt (some res) amount) s.db lost
      fun _ _ ran => settle_failed ran
    unfold Genrun.settle
    split
    · rename_i ran
      rw [ran] at kept
      exact kept
    · rename_i ran
      rw [ran] at kept
      exact kept
  have rolls : (Genrun.rollback fails closedAt res s).db = s.db := by
    have kept := transaction_lost (QuotaStore.rollback closedAt (some res)) s.db lost
      fun _ _ ran => rollback_failed ran
    unfold Genrun.rollback
    split
    · rename_i ran
      rw [ran] at kept
      exact kept
    · rename_i ran
      rw [ran] at kept
      exact kept
  unfold closeOut
  split
  · exact rolls
  · exact settles _
  · exact settles _

/-- Under a context that lives on, it closes the reservation as it must. -/
theorem closeOut_closes (steady : ∀ moment, fails moment = false)
    (cost : c.cost res = res.reservedPUSD)
    (accepted : validateReservation (some res) = .ok res)
    (held : s.db.spendLedger.get? res.requestID = some (openRow now res))
    (covered : ∀ account, entry (openRow now res) account ≤ balance s.db account) :
    ClosedAs answer res (closeOut fails closedAt c res answer s).db := by
  obtain ⟨settled, ran, row⟩ := settle_full_succeeds closedAt accepted held
  have closes : (Genrun.settle fails closedAt res res.reservedPUSD s).db = settled := by
    unfold Genrun.settle
    rw [transaction_runs steady ran]
  cases answer with
  | value out =>
    refine ⟨settledRow closedAt res.reservedPUSD (openRow now res), ?_, rfl, rfl⟩
    unfold closeOut
    rw [cost, closes, row]
  | failed unbilled wire =>
    cases unbilled with
    | false =>
      refine ⟨settledRow closedAt res.reservedPUSD (openRow now res), ?_, rfl, rfl⟩
      unfold closeOut
      rw [closes, row]
    | true =>
      obtain ⟨rolled, ran, row, _⟩ := rollback_succeeds closedAt accepted held covered
      refine ⟨rolledBackRow closedAt (openRow now res), ?_, rfl⟩
      have rolls : (Genrun.rollback fails closedAt res s).db = rolled := by
        unfold Genrun.rollback
        rw [transaction_runs steady ran]
      unfold closeOut
      rw [rolls, row]

end Run

/-- **When a generation's reservation is closed.** In every run whose reservation
succeeded, whatever the provider answers and whatever else the store does
meanwhile, the reservation stands as it must when the run returns if and only if
the request context is not done when the close-out commits. -/
theorem closed_iff_context_lives {α : Type} (ctx : Context) {fails : Moment → Bool}
    (obeys : Obeys ctx fails) (earlier meanwhile : List Call) (inputs : Inputs)
    {installID : String} (owned : installID ≠ "") {c : Charge} (provider : Provider) (model : String)
    (priced : newUnitPlan provider model c.inputClass c.units = .ok c.plan) (answer : Answer α)
    (metrics : Metrics) {res : Reservation} {reservedDB : Database} (started : fails .reserve = false)
    (reserved : reserve inputs.random inputs.reservedAt installID c.plan inputs.period inputs.limits
      (QuotaStore.run .empty earlier) = (.ok res, reservedDB))
    (apart : ∀ call ∈ meanwhile, addressed res.requestID call = false) :
    ClosedAs answer res (Genrun.run fails inputs installID c answer meanwhile
        ⟨QuotaStore.run .empty earlier, metrics⟩).2.db ↔
      ctx.done .commit = false := by
  obtain ⟨valid, rfl, _, moved, inserted⟩ := reserve_ok reserved
  generalize granting : granted (newRequestID inputs.random) installID c.plan inputs.period
    inputs.limits = res at *
  have identity : res.requestID = newRequestID inputs.random := by rw [← granting]; rfl
  have accepted : validateReservation (some res) = .ok res :=
    granting ▸ validateReservation_granted (newRequestID_ne_empty inputs.random) owned valid
  -- The row opened by the reservation is still there when the close-out begins.
  have opened : reservedDB.spendLedger.get? res.requestID = some (openRow inputs.reservedAt res) := by
    rw [Table.get?_insert inserted, if_pos identity]
  have held := held_run apart opened
  have covered : OpenCovered (QuotaStore.run reservedDB meanwhile) := by
    refine openCovered_run meanwhile ?_
    have before := openCovered_run earlier openCovered_empty
    have stepped := openCovered_step (.reserve inputs.random inputs.reservedAt installID c.plan
      inputs.period inputs.limits) before
    change OpenCovered (reserve _ _ _ _ _ _ _).2 at stepped
    rwa [reserved] at stepped
  have ends : (Genrun.run fails inputs installID c answer meanwhile
      ⟨QuotaStore.run .empty earlier, metrics⟩).2 = closeOut fails inputs.closedAt c res answer
        ⟨QuotaStore.run reservedDB meanwhile, metrics⟩ := by
    unfold Genrun.run
    rw [if_neg (by simp [started])]
    dsimp only
    rw [reserved]
  rw [ends]
  constructor
  · intro closed
    by_contra done
    rw [closeOut_lost (obeys.atCommit (by simpa using done))] at closed
    exact not_closedAs_open inputs.reservedAt held closed
  · intro alive
    have steady (moment : Moment) : fails moment = false := by
      by_contra failed
      have done := obeys.onlyDone moment (by simpa using failed)
      have last : moment.index ≤ Moment.commit.index := by cases moment <;> decide
      rw [ctx.stays _ _ last done] at alive
      cases alive
    refine closeOut_closes steady ?_ accepted held fun account => covered.row held rfl account
    have plan : res.plan = c.plan := by rw [← granting]; rfl
    exact cost_reserved (plan ▸ priced) (validateReservation_ok accepted).2.2.2.2.1

/-! ## A client that hangs up -/

section Sample

/-- Two images. -/
def sampleCharge : Charge := ⟨imagePlan, .images, 2⟩

def sampleInputs : Inputs := ⟨[1], 0, 7, august, imageLimits⟩

def sampleReservation : Reservation :=
  granted (newRequestID [1]) "install" imagePlan august imageLimits

theorem canceled_obeys (moment : Moment) :
    Obeys (.canceledBefore moment) (Context.canceledBefore moment).done :=
  ⟨fun _ failed => failed, fun done => done⟩

/-- The provider made the images; the client left before the books were closed.
The reservation is still open when the run returns, and only a counter says so. -/
theorem open_after_cancel :
    Obeys (.canceledBefore .begin) (Context.canceledBefore .begin).done ∧
      (reserve [1] 0 "install" imagePlan august imageLimits .empty).1 = .ok sampleReservation ∧
      ¬ClosedAs (.value ()) sampleReservation
        (Genrun.run (Context.canceledBefore .begin).done sampleInputs "install" sampleCharge
          (.value ()) [] ⟨.empty, ⟨0, 0⟩⟩).2.db ∧
      (Genrun.run (Context.canceledBefore .begin).done sampleInputs "install" sampleCharge
          (.value ()) [] ⟨.empty, ⟨0, 0⟩⟩).2.metrics = ⟨1, 0⟩ := by
  refine ⟨canceled_obeys .begin, by decide +kernel, ?_, by decide +kernel⟩
  exact not_closedAs_open 0 (by decide +kernel)

/-- Where the client stays, a refused call is rolled back. -/
theorem closed_iff_context_lives_refused :
    ClosedAs (.failed true none : Answer Unit) sampleReservation
      (Genrun.run Context.background.done sampleInputs "install" sampleCharge
        (.failed true none : Answer Unit) [] ⟨.empty, ⟨0, 0⟩⟩).2.db :=
  (closed_iff_context_lives .background ⟨fun _ failed => failed, fun done => done⟩ [] [] sampleInputs
    (by decide) providerQwen qwenImage20 (by decide +kernel) (.failed true none) ⟨0, 0⟩ rfl
    (Prod.ext (by decide +kernel) rfl) (by simp)).mpr rfl

end Sample

end AnselmGateway.GenerationCloseOut
