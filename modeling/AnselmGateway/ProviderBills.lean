import AnselmGateway.Foundation.Interleaving
import AnselmGateway.Foundation.Postings
import AnselmGateway.LedgerConservation
import AnselmGateway.LedgerTerminal
import AnselmGateway.PaidRequests

/-! What the provider bills against what the books hold for it. A ledger row is
worth its whole quote until the outcome is known, and a close-out never leaves it
worth less than what was billed; so the wallet covers the bills of its month at every
moment, between the calls of a request as much as after a crash. -/
namespace AnselmGateway.ProviderBills
open Foundation Billing Quota QuotaStore Accounts QuotaStoreSemantics LedgerConservation
open LedgerTerminal ChatRelay ChatSaga PaidRequests

/-! ## The provider -/

/-- What is relied on of a provider: it bills at most what was reserved, nothing for a
call it is known not to have billed, and at most what the usage of a complete answer,
or the units of a generation, cost. -/
def Honest : Work → Prop
  | .chat plan fails publicModelID request bill =>
    bill ≤ plan.reservedPUSD.toInt ∧
      (∀ failure, request.opened = .error failure → failure.exposure = .definitelyUnbilled →
        bill ≤ 0) ∧
      ∀ body usage cost, request.opened = .ok (some body) →
        Complete fails publicModelID request.stream body usage →
        plan.cost usage = .ok (some cost) → bill ≤ cost.toInt
  | .generation charge answer bill =>
    bill ≤ charge.plan.reservedPUSD.toInt ∧
      (∀ wire, answer = .failed true wire → bill ≤ 0) ∧
      ∀ cost, answer = .value () → charge.plan.unitCost charge.inputClass charge.units = .ok cost →
        bill ≤ cost.toInt

theorem Honest.within_quote {work : Work} (honest : Honest work) :
    work.bill ≤ work.plan.reservedPUSD.toInt := by
  cases work with
  | chat => exact honest.1
  | generation => exact honest.1

/-- What a closing call leaves its row worth. -/
def amountOf : ChatRelay.Call → ℤ
  | .settle amount => amount.toInt
  | .opened | .rollback => 0

/-- A request closes without asking the provider, or asks it once and then keeps at
least what that was billed. -/
inductive Closes (bill : ℤ) : List ChatRelay.Call → Prop
  | unasked : Closes bill [.rollback]
  | asked (call : ChatRelay.Call) (closes : closing call = true) (owed : bill ≤ amountOf call) :
    Closes bill [.opened, call]

section Calls
variable {work : Work} {res : Reservation}

theorem chat_closes {plan : Plan} {fails : Failures} {publicModelID : String}
    {request : ChatRelay.Request} {bill : ℤ} (slot : Bool)
    (honest : Honest (.chat plan fails publicModelID request bill)) (same : res.plan = plan)
    (quoted : res.reservedPUSD = plan.reservedPUSD) :
    Closes bill (afterReserve fails publicModelID { request with slot := slot } res).calls := by
  obtain ⟨within, unbilled, costed⟩ := honest
  unfold afterReserve
  split
  · exact .unasked
  · split
    · split <;> exact .unasked
    · have forwarded : ∃ call, (forward fails publicModelID request.stream request.opened res {}).calls =
          [.opened, call] ∧ _ := forward_closes { request with slot := slot } rfl
      obtain ⟨call, calls, closes⟩ := forwarded
      rw [calls]
      rcases closes with ⟨rfl, failure, failed, surely⟩ | ⟨amount, rfl, priced⟩
      · exact .asked _ rfl (unbilled failure failed surely)
      · apply Closes.asked _ rfl
        rcases priced with ⟨body, usage, opened, complete, cost⟩ | ⟨rfl, _⟩
        · exact costed body usage amount opened complete (same ▸ cost)
        · exact quoted ▸ within

theorem generation_closes {charge : Genrun.Charge} {answer : Genrun.Answer Unit} {bill : ℤ}
    (honest : Honest (.generation charge answer bill)) (same : res.plan = charge.plan)
    (quoted : res.reservedPUSD = charge.plan.reservedPUSD) :
    Closes bill [.opened, closingCall charge res answer] := by
  obtain ⟨within, unbilled, costed⟩ := honest
  cases answer with
  | failed surely wire =>
    cases surely with
    | true => exact .asked _ rfl (unbilled wire rfl)
    | false =>
      apply Closes.asked _ rfl
      change bill ≤ res.reservedPUSD.toInt
      exact quoted ▸ within
  | value out =>
    apply Closes.asked _ rfl
    change bill ≤ (charge.cost res).toInt
    unfold Genrun.Charge.cost
    rw [same]
    split
    · rename_i cost priced
      exact costed cost rfl priced
    · exact quoted ▸ within

/-- Every request of an honest provider closes so, with or without a slot. -/
theorem calls_close (slot : Bool) (honest : Honest work) (same : res.plan = work.plan)
    (quoted : res.reservedPUSD = work.plan.reservedPUSD) :
    Closes work.bill (work.calls slot res) := by
  cases work with
  | chat => exact chat_closes slot honest same quoted
  | generation => exact generation_closes honest same quoted

end Calls

/-! ## Rows -/

/-- What of a row's worth was set aside for its bill. -/
def secured (row : LedgerRow) : ℤ := min (value row) row.reservedPUSD

def securedIn (db : Database) (month : String) : ℤ :=
  db.spendLedger.tally fun _ row => if row.periodMonth = month then secured row else 0

/-- What one call that is no reservation does to the ledger: nothing, or it closes one
open row at some worth. -/
inductive Closing (db after : Database) (target : String) (worth : LedgerRow → ℤ) : Prop
  | idle (ledger : after.spendLedger = db.spendLedger)
  | closed (row closed : LedgerRow) (closing : Closed db after target row closed)
      (month : closed.periodMonth = row.periodMonth)
      (quote : closed.reservedPUSD = row.reservedPUSD) (worth_eq : value closed = worth row)

/-- A closing call of a request leaves its row worth what it says. -/
theorem storeCall_closing {now : ℤ} {res : Reservation} {call : ChatRelay.Call}
    {made : QuotaStore.Call} (db : Database) (stored : storeCall now res call = some made) :
    Closing db (QuotaStore.step db made) res.requestID fun _ => amountOf call := by
  cases call with
  | opened => cases stored
  | settle amount =>
    cases stored
    change Closing db (QuotaStore.settle now (some res) amount db).2 _ _
    rcases ran : QuotaStore.settle now (some res) amount db with ⟨failure | _, after⟩
    · exact .idle (by rw [settle_failed ran])
    · obtain ⟨r, same, _, rfl | ⟨opened, closing⟩⟩ := settle_ok ran
      · exact .idle rfl
      · cases same
        exact .closed _ _ closing rfl rfl rfl
  | rollback =>
    cases stored
    change Closing db (QuotaStore.rollback now (some res) db).2 _ _
    rcases ran : QuotaStore.rollback now (some res) db with ⟨failure | _, after⟩
    · exact .idle (by rw [rollback_failed ran])
    · obtain ⟨r, same, rfl | ⟨opened, closing⟩⟩ := rollback_ok ran
      · exact .idle rfl
      · cases same
        exact .closed _ _ closing rfl rfl rfl

/-- Reconciliation leaves a row worth its quote. -/
theorem reconcileOne_closing (now : ℤ) (requestID : String) (db : Database) :
    Closing db (reconcileOne now requestID db).2 requestID LedgerRow.reservedPUSD := by
  rcases ran : reconcileOne now requestID db with ⟨failure | won, after⟩
  · exact .idle (by rw [reconcileOne_failed ran])
  · rcases reconcileOne_ok ran with rfl | ⟨row, closing⟩
    · exact .idle rfl
    · exact .closed _ _ closing rfl rfl rfl

theorem resetMonthlyRequests_ledger (p : Period) (db : Database) :
    (resetMonthlyRequests p db).2.spendLedger = db.spendLedger := by
  rcases ran : resetMonthlyRequests p db with ⟨failure | count, after⟩
  · rw [resetMonthlyRequests_failed ran]
  · exact (resetMonthlyRequests_ok ran).2.1

/-! ## The invariant -/

def billedTo (bills : List Bill) : String → ℤ := postedTo Bill.requestID Bill.amount bills

/-- All that the provider has billed for the requests of one month. -/
def billedIn (bills : List Bill) (month : String) : ℤ :=
  ((bills.filter fun bill => bill.month = month).map Bill.amount).sum

/-- Every bill names a row of its month, and no row was billed for more than is set
aside for it; what is set aside stays within the budget. -/
structure Covered (budget : ℤ) (books : Database × List Bill) : Prop where
  balanced : Balanced books.1
  funded : ∀ month, securedIn books.1 month ≤ budget
  recorded : ∀ bill ∈ books.2, ∃ row, books.1.spendLedger.get? bill.requestID = some row ∧
    row.periodMonth = bill.month
  covered : ∀ requestID row, books.1.spendLedger.get? requestID = some row →
    billedTo books.2 requestID ≤ secured row

/-- How far a request in flight has come, against its row and what it was billed. -/
inductive Pending (row : LedgerRow) (billed : ℤ) (p : InFlight) : Prop
  | undecided (stage : p.stage = .arriving ∨ p.stage = .queued) (idle : p.rest = [])
      (whole : value row = row.reservedPUSD) (unbilled : billed = 0)
  | unasked (call : ChatRelay.Call) (rest : p.rest = [.opened, call])
      (decided : p.stage ≠ .arriving ∧ p.stage ≠ .queued)
      (closes : closing call = true) (owed : p.work.bill ≤ amountOf call)
      (whole : value row = row.reservedPUSD) (unbilled : billed = 0)
  | asked (call : ChatRelay.Call) (rest : p.rest = [call])
      (decided : p.stage ≠ .arriving ∧ p.stage ≠ .queued)
      (closes : closing call = true) (owed : billed ≤ amountOf call)
  | closed (rest : p.rest = []) (decided : p.stage ≠ .arriving ∧ p.stage ≠ .queued)

/-- A request in flight works on the row its reservation opened. -/
structure Sound (books : Database × List Bill) (p : InFlight) : Prop where
  honest : Honest p.work
  plan : p.res.plan = p.work.plan
  quoted : p.res.reservedPUSD = p.work.plan.reservedPUSD
  row : ∃ row, books.1.spendLedger.get? p.res.requestID = some row ∧
    row.periodMonth = p.res.period.month ∧ row.reservedPUSD = p.res.reservedPUSD.toInt ∧
    Pending row (billedTo books.2 p.res.requestID) p

def Apart (_ : Database × List Bill) (p q : InFlight) : Prop := p.res.requestID ≠ q.res.requestID

/-- The books are covered and every request in flight is sound, each on a row of its own. -/
def Safe (budget : ℤ) (s : State) : Prop :=
  Stable (Covered budget) Sound Apart (s.db, s.bills) s.inFlight

section Books
variable {db after : Database} {bills : List Bill} {budget : ℤ} {target : String}
  {worth : LedgerRow → ℤ}

theorem secured_le_value (row : LedgerRow) : secured row ≤ value row := min_le_left _ _

theorem secured_le_quote (row : LedgerRow) : secured row ≤ row.reservedPUSD := min_le_right _ _

theorem secured_whole {row : LedgerRow} (whole : value row = row.reservedPUSD) :
    secured row = row.reservedPUSD := by
  rw [secured, whole, min_self]

theorem value_of_open {row : LedgerRow} (opened : row.state = .open) :
    value row = row.reservedPUSD := by
  simp [value, opened]

/-- The wallet holds at least what is set aside in its month. -/
theorem securedIn_le_wallet (balanced : Balanced db) (month : String) :
    securedIn db month ≤ balance db (.monthSpend month) := by
  rw [balanced (.monthSpend month) (by simp)]
  apply Table.tally_le
  intro row _
  simp only [entry]
  split
  · exact secured_le_value row.2
  · exact le_rfl

/-- What the bills of a month come to is at most what is set aside in it. -/
theorem Covered.billedIn_le {books : Database × List Bill} (covered : Covered budget books)
    (month : String) : billedIn books.2 month ≤ securedIn books.1 month := by
  apply @Table.posted_le_tally _ _ _ _ _ _ _ Bill.requestID
  · intro bill member
    obtain ⟨row, held, _⟩ := covered.recorded bill (List.mem_filter.mp member).1
    exact ⟨row, held⟩
  · intro requestID row held
    have recorded (bill : Bill) (member : bill ∈ books.2) (mine : bill.requestID = requestID) :
        row.periodMonth = bill.month := by
      obtain ⟨other, found, same⟩ := covered.recorded bill member
      rw [mine, held] at found
      cases found
      exact same
    by_cases inMonth : row.periodMonth = month
    · rw [if_pos inMonth]
      refine le_trans (le_of_eq ?_) (covered.covered requestID row held)
      unfold billedTo postedTo
      rw [List.filter_filter]
      congr 2
      apply List.filter_congr
      intro bill member
      by_cases mine : bill.requestID = requestID
      · simp [mine, (recorded bill member mine).symm.trans inMonth]
      · simp [mine]
    · rw [if_neg inMonth]
      refine le_of_eq (postedTo_absent ?_)
      intro bill member mine
      obtain ⟨inside, same⟩ := List.mem_filter.mp member
      apply inMonth
      rw [recorded bill inside mine]
      simpa using same

/-- After a close-out the ledger holds the same rows, of the same months and quotes. -/
theorem Closing.get? (closing : Closing db after target worth) {requestID : String}
    {row : LedgerRow} (held : db.spendLedger.get? requestID = some row) :
    ∃ now, after.spendLedger.get? requestID = some now ∧ now.periodMonth = row.periodMonth ∧
      now.reservedPUSD = row.reservedPUSD ∧
      (now = row ∨ (requestID = target ∧ row.state = .open ∧ value now = worth row)) := by
  cases closing with
  | idle ledger => exact ⟨row, ledger ▸ held, rfl, rfl, .inl rfl⟩
  | closed before closed closing month quote worth_eq =>
    by_cases same : requestID = target
    · subst same
      rw [closing.held] at held
      cases held
      refine ⟨closed, ?_, month, quote, .inr ⟨rfl, closing.wasOpen, worth_eq⟩⟩
      rw [closed_get? closing, if_pos rfl]
    · refine ⟨row, ?_, rfl, rfl, .inl rfl⟩
      rw [closed_get? closing, if_neg same, held]

theorem Closing.get?_back (closing : Closing db after target worth) {requestID : String}
    {now : LedgerRow} (held : after.spendLedger.get? requestID = some now) :
    ∃ row, db.spendLedger.get? requestID = some row := by
  cases closing with
  | idle ledger => exact ⟨now, ledger ▸ held⟩
  | closed before closed closing month quote worth_eq =>
    by_cases same : requestID = target
    · exact ⟨before, same ▸ closing.held⟩
    · rw [closed_get? closing, if_neg same] at held
      exact ⟨now, held⟩

/-- Closing a row sets no more aside than the row did while it was open. -/
theorem Closing.securedIn_le (closing : Closing db after target worth) (month : String) :
    securedIn after month ≤ securedIn db month := by
  cases closing with
  | idle ledger => rw [securedIn, securedIn, ledger]
  | closed row closed closing same quote worth_eq =>
    obtain ⟨condition, assign, met, rfl, updated⟩ := closing.ledger
    have less : secured (assign row) ≤ secured row := by
      rw [secured_whole (value_of_open closing.wasOpen), ← quote]
      exact secured_le_quote _
    rw [securedIn, securedIn, Table.tally_updateAt updated closing.held met
      fun _ row => if row.periodMonth = month then secured row else 0, same]
    split <;> omega

/-- A close-out that leaves its row worth what was billed keeps the books covered. -/
theorem Covered.close (covered : Covered budget (db, bills))
    (closing : Closing db after target worth) (balanced : Balanced after)
    (kept : ∀ row, db.spendLedger.get? target = some row → billedTo bills target ≤ worth row) :
    Covered budget (after, bills) where
  balanced := balanced
  funded month := (closing.securedIn_le month).trans (covered.funded month)
  recorded bill member := by
    obtain ⟨row, held, same⟩ := covered.recorded bill member
    obtain ⟨now, found, month, _⟩ := closing.get? held
    exact ⟨now, found, month.trans same⟩
  covered requestID now found := by
    obtain ⟨row, held⟩ := closing.get?_back found
    have before := covered.covered requestID row held
    obtain ⟨now', found', _, quote, rfl | ⟨rfl, _, worth_eq⟩⟩ := closing.get? held
    · rw [found] at found'
      cases found'
      exact before
    · rw [found] at found'
      cases found'
      apply le_min
      · rw [worth_eq]
        exact kept row held
      · rw [quote]
        exact before.trans (secured_le_quote row)

/-- A close-out of another row, or one that keeps the quote, disturbs no request. -/
theorem Sound.close {p : InFlight} (sound : Sound (db, bills) p)
    (closing : Closing db after target worth)
    (kept : p.res.requestID = target → ∀ row, worth row = row.reservedPUSD) :
    Sound (after, bills) p := by
  obtain ⟨row, held, month, quote, pending⟩ := sound.row
  obtain ⟨now, found, month', quote', same⟩ := closing.get? held
  refine ⟨sound.honest, sound.plan, sound.quoted, now, found, month'.trans month,
    quote'.trans quote, ?_⟩
  have whole (whole : value row = row.reservedPUSD) : value now = now.reservedPUSD := by
    rcases same with rfl | ⟨mine, _, worth_eq⟩
    · exact whole
    · rw [worth_eq, kept mine, quote']
  cases pending with
  | undecided stage idle before unbilled => exact .undecided stage idle (whole before) unbilled
  | unasked call rest decided closes owed before unbilled =>
    exact .unasked call rest decided closes owed (whole before) unbilled
  | asked call rest decided closes owed => exact .asked call rest decided closes owed
  | closed rest decided => exact .closed rest decided

end Books

/-! ## Steps -/

section Steps
variable {budget : ℤ} {s : State} {index : ℕ} {p : InFlight}

theorem apart_of_safe (safe : Safe budget s) (found : s.inFlight[index]? = some p) :
    ∀ (j : ℕ) q, j ≠ index → s.inFlight[j]? = some q → q.res.requestID ≠ p.res.requestID :=
  fun j q apart held => safe.pair j index q p apart held found

/-- A close-out beside the requests in flight, which keeps every quote or is the own
one of none of them. -/
theorem Safe.close (safe : Safe budget s) {after : Database} {target : String}
    (closing : Closing s.db after target LedgerRow.reservedPUSD) (balanced : Balanced after) :
    Safe budget { s with db := after } where
  shared := safe.shared.close closing balanced fun row held =>
    (safe.shared.covered target row held).trans (secured_le_quote row)
  each i q found := (safe.each i q found).close closing fun _ _ => rfl
  pair i j q q' apart first second := safe.pair i j q q' apart first second

/-- A request that only decides: its calls are those of its work. -/
theorem Safe.decide (safe : Safe budget s) (found : s.inFlight[index]? = some p)
    (undecided : p.stage = .arriving ∨ p.stage = .queued) (slot : Bool) (stage : Stage)
    (decided : stage ≠ .arriving ∧ stage ≠ .queued) (taken : ℕ) :
    Safe budget { s with
      taken := taken
      inFlight := s.inFlight.set index { p with stage := stage, rest := p.work.calls slot p.res } } := by
  have sound := safe.each index p found
  apply safe.turn found safe.shared
  · obtain ⟨row, held, month, quote, pending⟩ := sound.row
    refine ⟨sound.honest, sound.plan, sound.quoted, row, held, month, quote, ?_⟩
    have calls := calls_close slot sound.honest sound.plan sound.quoted
    generalize same : p.work.calls slot p.res = rest at calls
    cases pending with
    | undecided _ idle whole unbilled =>
      cases calls with
      | unasked => exact .asked .rollback rfl decided rfl (le_of_eq unbilled)
      | asked call closes owed => exact .unasked call rfl decided closes owed whole unbilled
    | unasked call _ before _ _ _ _ =>
      rcases undecided with stage | stage
      · exact absurd stage before.1
      · exact absurd stage before.2
    | asked call _ before _ _ =>
      rcases undecided with stage | stage
      · exact absurd stage before.1
      · exact absurd stage before.2
    | closed _ before =>
      rcases undecided with stage | stage
      · exact absurd stage before.1
      · exact absurd stage before.2
  · intro j q other held own ahead behind
    exact ⟨own, ahead, behind⟩
  · exact fun _ _ _ _ apart => apart

theorem Safe.seat (safe : Safe budget s) (found : s.inFlight[index]? = some p)
    (undecided : p.stage = .arriving ∨ p.stage = .queued) :
    Safe budget { s with taken := s.taken + 1, inFlight := s.inFlight.set index p.seat } :=
  safe.decide found undecided true .serving (by decide) _

theorem Safe.turnAway (safe : Safe budget s) (found : s.inFlight[index]? = some p)
    (undecided : p.stage = .arriving ∨ p.stage = .queued) :
    Safe budget { s with inFlight := s.inFlight.set index p.turnAway } :=
  safe.decide found undecided false .slotless (by decide) _

theorem safe_acquireSlot (safe : Safe budget s) (found : s.inFlight[index]? = some p)
    (queueWait : ℤ) (timeUp : Bool) : Safe budget (acquireSlot queueWait timeUp index p s) := by
  have queues (arriving : p.stage = .arriving) :
      Safe budget { s with inFlight := s.inFlight.set index { p with stage := .queued } } := by
    have sound := safe.each index p found
    apply safe.turn found safe.shared
    · obtain ⟨row, held, month, quote, pending⟩ := sound.row
      refine ⟨sound.honest, sound.plan, sound.quoted, row, held, month, quote, ?_⟩
      cases pending with
      | undecided _ idle whole unbilled => exact .undecided (.inr rfl) idle whole unbilled
      | unasked _ _ decided _ _ _ _ => exact absurd arriving decided.1
      | asked _ _ decided _ _ => exact absurd arriving decided.1
      | closed _ decided => exact absurd arriving decided.1
    · exact fun _ _ _ _ own ahead behind => ⟨own, ahead, behind⟩
    · exact fun _ _ _ _ apart => apart
  unfold acquireSlot
  cases stage : p.stage with
  | arriving =>
    dsimp only
    split
    · exact safe.turnAway found (.inl stage)
    · split
      · exact safe.seat found (.inl stage)
      · split
        · exact safe.turnAway found (.inl stage)
        · exact queues stage
  | queued =>
    dsimp only
    split
    · exact safe.turnAway found (.inr stage)
    · split
      · exact safe.seat found (.inr stage)
      · exact safe
  | serving => exact safe
  | slotless => exact safe

theorem safe_returnSlot (safe : Safe budget s) (found : s.inFlight[index]? = some p) :
    Safe budget (returnSlot index p s) := by
  unfold returnSlot
  split
  · rename_i returns
    have serving : p.stage = .serving := by
      simp only [InFlight.holdsSlot, Bool.and_eq_true, beq_iff_eq] at returns
      exact returns.1
    have sound := safe.each index p found
    apply safe.turn found safe.shared
    · obtain ⟨row, held, month, quote, pending⟩ := sound.row
      refine ⟨sound.honest, sound.plan, sound.quoted, row, held, month, quote, ?_⟩
      cases pending with
      | undecided stage _ _ _ => simp [serving] at stage
      | unasked call rest _ closes owed whole unbilled =>
        exact .unasked call rest ⟨nofun, nofun⟩ closes owed whole unbilled
      | asked call rest _ closes owed => exact .asked call rest ⟨nofun, nofun⟩ closes owed
      | closed rest _ => exact .closed rest ⟨nofun, nofun⟩
    · exact fun _ _ _ _ own ahead behind => ⟨own, ahead, behind⟩
    · exact fun _ _ _ _ apart => apart
  · exact safe

/-- Asking the provider: the bill goes to the row of the request, which still holds
its whole quote. -/
theorem safe_asked (safe : Safe budget s) (found : s.inFlight[index]? = some p)
    {call : ChatRelay.Call} (rest : p.rest = [.opened, call]) :
    Safe budget { s with
      inFlight := s.inFlight.set index { p with rest := [call] }
      bills := ⟨p.res.requestID, p.res.period.month, p.work.bill⟩ :: s.bills } := by
  have sound := safe.each index p found
  obtain ⟨row, held, month, quote, pending⟩ := sound.row
  cases pending with
  | undecided _ idle _ _ => simp [idle] at rest
  | asked _ same _ _ _ => simp [same] at rest
  | closed same _ => simp [same] at rest
  | unasked call' same decided closes owed whole unbilled =>
    obtain rfl : call' = call := by simpa [same] using rest
    have mine : billedTo (⟨p.res.requestID, p.res.period.month, p.work.bill⟩ :: s.bills)
        p.res.requestID = p.work.bill := by
      rw [billedTo, postedTo_cons, if_pos rfl]
      change _ + billedTo s.bills p.res.requestID = _
      rw [unbilled, add_zero]
    have theirs {requestID : String} (other : requestID ≠ p.res.requestID) :
        billedTo (⟨p.res.requestID, p.res.period.month, p.work.bill⟩ :: s.bills) requestID =
          billedTo s.bills requestID := by
      rw [billedTo, postedTo_cons, if_neg (Ne.symm other), zero_add]
      rfl
    apply safe.turn found
    · refine ⟨safe.shared.balanced, safe.shared.funded, ?_, ?_⟩
      · intro bill member
        rcases List.mem_cons.mp member with rfl | member
        · exact ⟨row, held, month⟩
        · exact safe.shared.recorded bill member
      · intro requestID other found'
        by_cases same : requestID = p.res.requestID
        · subst same
          change s.db.spendLedger.get? p.res.requestID = some other at found'
          rw [held] at found'
          cases found'
          rw [mine, secured_whole whole, quote, sound.quoted]
          exact sound.honest.within_quote
        · rw [theirs same]
          exact safe.shared.covered requestID other found'
    · refine ⟨sound.honest, sound.plan, sound.quoted, row, held, month, quote, ?_⟩
      exact .asked call' rfl decided closes (mine.le.trans owed)
    · intro j q apart held' own ahead behind
      refine ⟨⟨own.honest, own.plan, own.quoted, ?_⟩, ahead, behind⟩
      obtain ⟨row', found', month', quote', pending'⟩ := own.row
      refine ⟨row', found', month', quote', ?_⟩
      rw [theirs (apart_of_safe safe found j q apart held')]
      exact pending'
    · exact fun _ _ _ _ apart => apart

/-- Closing the books: the row of the request, if it is still open, is left worth at
least what was billed. -/
theorem safe_closed (safe : Safe budget s) (found : s.inFlight[index]? = some p)
    {call : ChatRelay.Call} (rest : p.rest = [call]) {after : Database}
    (closing : Closing s.db after p.res.requestID fun _ => amountOf call)
    (balanced : Balanced after) :
    Safe budget { s with
      db := after
      inFlight := s.inFlight.set index { p with rest := [] } } := by
  have sound := safe.each index p found
  obtain ⟨row, held, month, quote, pending⟩ := sound.row
  cases pending with
  | undecided _ idle _ _ => simp [idle] at rest
  | unasked _ same _ _ _ _ _ => simp [same] at rest
  | closed same _ => simp [same] at rest
  | asked call' same decided closes owed =>
    obtain rfl : call' = call := by simpa [same] using rest
    obtain ⟨now, found', month', quote', _⟩ := closing.get? held
    apply safe.turn found
    · exact safe.shared.close closing balanced fun _ _ => owed
    · exact ⟨sound.honest, sound.plan, sound.quoted, now, found', month'.trans month,
        quote'.trans quote, .closed rfl decided⟩
    · intro j q apart held' own ahead behind
      exact ⟨own.close closing fun mine => absurd mine (apart_of_safe safe found j q apart held'),
        ahead, behind⟩
    · intro q q' own own' apart
      exact apart

/-- A close-out that fails leaves the books as they are, and nobody tries again. -/
theorem safe_lost (safe : Safe budget s) (found : s.inFlight[index]? = some p)
    {call : ChatRelay.Call} (rest : p.rest = [call]) :
    Safe budget { s with inFlight := s.inFlight.set index { p with rest := [] } } :=
  safe_closed safe found rest (.idle rfl) safe.shared.balanced

theorem safe_makeCall (safe : Safe budget s) (found : s.inFlight[index]? = some p) (now : ℤ)
    (kept : Bool) : Safe budget (makeCall now kept index p s) := by
  unfold makeCall
  obtain ⟨row, _, _, _, pending⟩ := (safe.each index p found).row
  cases pending with
  | undecided _ idle _ _ =>
    rw [idle]
    exact safe
  | closed rest _ =>
    rw [rest]
    exact safe
  | unasked call rest _ _ _ _ _ =>
    rw [rest]
    exact safe_asked safe found rest
  | asked call rest _ closes _ =>
    rw [rest]
    dsimp only
    cases stored : storeCall now p.res call with
    | none => cases call <;> cases stored; cases closes
    | some made =>
      dsimp only
      split
      · exact safe_closed safe found rest (storeCall_closing s.db stored)
          (balanced_step made safe.shared.balanced)
      · exact safe_lost safe found rest

/-- A reservation opens a row of its own under a wallet that has room for all of it. -/
theorem safe_reserve (safe : Safe budget s) {work : Work} (honest : Honest work)
    {random : List UInt8} {now : ℤ} {installID : String} {period : Period} {lim : Limits}
    (within : lim.globalMonthlySpendPUSD.toInt ≤ budget) {res : Reservation} {after : Database}
    (ran : QuotaStore.reserve random now installID work.plan period lim s.db = (.ok res, after)) :
    Safe budget { s with
      db := after, inFlight := s.inFlight ++ [InFlight.reserved res work] } := by
  have stepped := balanced_step
    (.reserve random now installID work.plan period lim) safe.shared.balanced
  change Balanced (QuotaStore.reserve random now installID work.plan period lim s.db).2 at stepped
  rw [ran] at stepped
  obtain ⟨_, rfl, admitted, _, inserted⟩ := reserve_ok ran
  generalize granting : granted (newRequestID random) installID work.plan period lim = res at *
  have identity : res.requestID = newRequestID random := by rw [← granting]; rfl
  have plan : res.plan = work.plan := by rw [← granting]; rfl
  have quoted : res.reservedPUSD = work.plan.reservedPUSD := by rw [← granting]; rfl
  have inMonth : res.period = period := by rw [← granting]; rfl
  rw [← identity] at inserted
  have fresh : s.db.spendLedger.get? res.requestID = none := (Table.insert_ok inserted).2
  have held (requestID : String) : after.spendLedger.get? requestID =
      if requestID = res.requestID then some (openRow now res)
      else s.db.spendLedger.get? requestID := Table.get?_insert inserted requestID
  have whole : value (openRow now res) = (openRow now res).reservedPUSD := value_of_open rfl
  have unbilled : billedTo s.bills res.requestID = 0 := by
    apply postedTo_absent
    intro bill member mine
    obtain ⟨row, found, _⟩ := safe.shared.recorded bill member
    rw [mine, fresh] at found
    cases found
  have others {requestID : String} {row : LedgerRow}
      (found : s.db.spendLedger.get? requestID = some row) :
      requestID ≠ res.requestID ∧ after.spendLedger.get? requestID = some row := by
    have apart : requestID ≠ res.requestID := by
      rintro rfl
      rw [fresh] at found
      cases found
    exact ⟨apart, by rw [held, if_neg apart, found]⟩
  have shared : Covered budget (after, s.bills) := by
    refine ⟨stepped, ?_, ?_, ?_⟩
    · intro month
      have before := safe.shared.funded month
      rw [securedIn, Table.tally_insert inserted]
      change securedIn s.db month +
        (if res.period.month = month then secured (openRow now res) else 0) ≤ budget
      split
      · rename_i same
        have wallet := securedIn_le_wallet safe.shared.balanced month
        have gate := admitted.globalMonth
        rw [← inMonth, same] at gate
        have aside : secured (openRow now res) = work.plan.reservedPUSD.toInt := by
          rw [secured_whole whole]
          exact congrArg Int64.toInt quoted
        rw [aside]
        exact ((Int.add_le_add_right wallet _).trans gate).trans within
      · rwa [add_zero]
    · intro bill member
      obtain ⟨row, found, month⟩ := safe.shared.recorded bill member
      exact ⟨row, (others found).2, month⟩
    · intro requestID row found
      change after.spendLedger.get? requestID = some row at found
      rw [held] at found
      split at found
      · rename_i same
        cases found
        subst same
        refine unbilled.le.trans ?_
        have opened : after.spendLedger.get? res.requestID = some (openRow now res) := by
          rw [held, if_pos rfl]
        have positive := Table.checked_get? opened
        simp only [spendLedgerSchema, LedgerRow.check, Bool.and_eq_true] at positive
        rw [secured_whole whole]
        exact (of_decide_eq_true positive.1.1.2).le
      · exact safe.shared.covered requestID row found
  have kept : Stable (Covered budget) Sound Apart (after, s.bills) s.inFlight := by
    refine ⟨shared, ?_, fun i j q q' => safe.pair i j q q'⟩
    intro i q found
    have own := safe.each i q found
    obtain ⟨row, found', month, quote, pending⟩ := own.row
    exact ⟨own.honest, own.plan, own.quoted, row, (others found').2, month, quote, pending⟩
  have mine : after.spendLedger.get? (InFlight.reserved res work).res.requestID =
      some (openRow now res) := by
    have same : (InFlight.reserved res work).res = res := by cases work <;> rfl
    rw [same, held, if_pos rfl]
  refine kept.arrive ?_ ?_
  · cases work with
    | chat =>
      exact ⟨honest, plan, quoted, openRow now res, mine, rfl, rfl,
        .undecided (.inl rfl) rfl whole unbilled⟩
    | generation charge answer bill =>
      have calls := generation_closes honest plan quoted
      refine ⟨honest, plan, quoted, openRow now res, mine, rfl, rfl, ?_⟩
      cases calls with
      | asked call closes owed =>
        refine .unasked _ rfl ⟨?_, ?_⟩ closes owed whole unbilled <;> intro standing <;> cases standing
  · intro j q found
    have same : (InFlight.reserved res work).res = res := by cases work <;> rfl
    obtain ⟨row, found', _⟩ := (safe.each j q found).row
    have apart := (others found').1
    exact ⟨fun equal => apart (by rw [← equal, same]), fun equal => apart (by rw [equal, same])⟩

end Steps

/-! ## Runs -/

/-- The provider is honest about a reserved request, and no reservation is tested
against more than the budget. -/
def Fair (budget : ℤ) : Event → Prop
  | .reserve work _ _ _ _ lim => Honest work ∧ lim.globalMonthlySpendPUSD.toInt ≤ budget
  | _ => True

theorem safe_step {budget : ℤ} {s : State} (event : Event) (fair : Fair budget event)
    (safe : Safe budget s) : Safe budget (step s event) := by
  have one (index : ℕ) (act : InFlight → State → State)
      (keeps : ∀ p, s.inFlight[index]? = some p → Safe budget (act p s)) :
      Safe budget (onRequest index act s) := by
    unfold onRequest
    split
    · exact safe
    · rename_i p found
      exact keeps p found
  cases event with
  | reserve work random now installID period lim =>
    change Safe budget (arrive work random now installID period lim s)
    unfold arrive
    split
    · rename_i ran
      rw [reserve_failed ran]
      exact safe
    · rename_i ran
      exact safe_reserve safe fair.1 fair.2 ran
  | acquireSlot index queueWait timeUp =>
    exact one index _ fun p found => safe_acquireSlot safe found queueWait timeUp
  | call index now kept => exact one index _ fun p found => safe_makeCall safe found now kept
  | «return» index => exact one index _ fun p found => safe_returnSlot safe found
  | crash nGlobalConcurrency => exact Stable.idle safe.shared
  | reconcileOne now requestID =>
    exact safe.close (reconcileOne_closing now requestID s.db)
      (balanced_step (.reconcileOne now requestID) safe.shared.balanced)
  | resetMonthlyRequests period =>
    have idle : Closing s.db (resetMonthlyRequests period s.db).2 "" LedgerRow.reservedPUSD :=
      .idle (resetMonthlyRequests_ledger period s.db)
    exact safe.close idle (balanced_step (.resetMonthlyRequests period) safe.shared.balanced)

theorem safe_run {budget : ℤ} (nonneg : 0 ≤ budget) (nGlobalConcurrency : ℤ) {events : List Event}
    (fair : ∀ event ∈ events, Fair budget event) :
    Safe budget (run (.start nGlobalConcurrency .empty []) events) := by
  apply runSteps_invariant_of (fun _ event => safe_step event) _ fair
  apply Stable.idle
  exact ⟨fun account _ => congrFun balance_empty account, fun _ => nonneg, nofun, nofun⟩

/-- **The wallet covers the provider's bills.** However the calls of the requests in
flight, their failed close-outs, crashes, the reconciliation of orphans and monthly
resets interleave, at every moment the wallet of a month holds at least what an honest
provider has billed for that month, and these bills never exceed the budget that the
reservations were tested against. -/
theorem wallet_covers_bills {budget : ℤ} (nonneg : 0 ≤ budget) (nGlobalConcurrency : ℤ)
    (events : List Event) (fair : ∀ event ∈ events, Fair budget event) (month : String) :
    billedIn (run (.start nGlobalConcurrency .empty []) events).bills month ≤
        ((run (.start nGlobalConcurrency .empty []) events).db.globalSpendMonthly.read 0
          month).spendPUSD ∧
      billedIn (run (.start nGlobalConcurrency .empty []) events).bills month ≤ budget := by
  have shared := (safe_run nonneg nGlobalConcurrency fair).shared
  have aside := shared.billedIn_le month
  exact ⟨aside.trans (securedIn_le_wallet shared.balanced month),
    aside.trans (shared.funded month)⟩

/-- Two images that the provider makes and bills. -/
def twoImages : Work := .generation ⟨imagePlan, .images, 2⟩ (.value ()) 70000000000

theorem twoImages_honest : Honest twoImages := by
  refine ⟨by decide, nofun, fun cost _ priced => ?_⟩
  have unit : imagePlan.unitCost .images 2 = .ok 70000000000 := by decide
  rw [unit] at priced
  cases priced
  decide

/-- The process dies between the bill and the close-out, and the orphaned row is
charged whole. -/
theorem wallet_covers_bills_crash :
    billedIn (run (.start 4 .empty []) [.reserve twoImages [1] 7 "install" august imageLimits,
        .call 0 8 true, .crash 4, .reconcileOne 9 (newRequestID [1])]).bills "2026-08" ≤
        ((run (.start 4 .empty []) [.reserve twoImages [1] 7 "install" august imageLimits,
          .call 0 8 true, .crash 4, .reconcileOne 9 (newRequestID [1])]).db.globalSpendMonthly.read 0
            "2026-08").spendPUSD ∧
      billedIn (run (.start 4 .empty []) [.reserve twoImages [1] 7 "install" august imageLimits,
        .call 0 8 true, .crash 4, .reconcileOne 9 (newRequestID [1])]).bills "2026-08" ≤
        100000000000 := by
  apply wallet_covers_bills (by decide) 4
  intro event member
  simp only [List.mem_cons, List.not_mem_nil, or_false] at member
  rcases member with rfl | rfl | rfl | rfl
  · exact ⟨twoImages_honest, by decide⟩
  · trivial
  · trivial
  · trivial

end AnselmGateway.ProviderBills
