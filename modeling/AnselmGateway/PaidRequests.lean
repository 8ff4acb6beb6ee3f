import AnselmGateway.ChatSaga
import AnselmGateway.Genrun
import AnselmGateway.QuotaStore

/-! The paid requests of one gateway, all in flight at once over one accounting
store: chat requests with the breaker and the slot they meet, generations with the
close-out they end in, and between their calls the crashes, the reconciliation and
the monthly reset. What the provider has billed is kept beside the store. -/
namespace AnselmGateway.PaidRequests
open Foundation Billing Quota QuotaStore ChatRelay Genrun

/-! ## Requests -/

/-- What a request is for, what it will meet and what the provider will bill for it.
Whether a chat request gets a slot is decided here. -/
inductive Work where
  | chat (plan : Plan) (fails : Failures) (publicModelID : String) (request : ChatRelay.Request)
      (bill : ℤ)
  | generation (charge : Charge) (answer : Answer Unit) (bill : ℤ)

/-- The plan a request is reserved under. -/
def Work.plan : Work → Plan
  | .chat plan _ _ _ _ => plan
  | .generation charge _ _ => charge.plan

def Work.bill : Work → ℤ
  | .chat _ _ _ _ bill => bill
  | .generation _ _ bill => bill

/-- How `Do` closes the books for an answer. -/
def closingCall (charge : Charge) (res : Reservation) : Answer Unit → ChatRelay.Call
  | .failed true _ => .rollback
  | .failed false _ => .settle res.reservedPUSD
  | .value _ => .settle (charge.cost res)

/-- The calls of a request that knows whether it has a slot. -/
def Work.calls (slot : Bool) (res : Reservation) : Work → List ChatRelay.Call
  | .chat _ fails publicModelID request _ =>
    (afterReserve fails publicModelID { request with slot := slot } res).calls
  | .generation charge answer _ => [.opened, closingCall charge res answer]

/-- Where a request stands. A generation takes no slot. -/
inductive Stage where
  /-- Behind `Reserve`, before the breaker and the first look at the slots. -/
  | arriving
  /-- In the second `select` of `acquireSlot`. -/
  | queued
  /-- It holds a slot. -/
  | serving
  | slotless
  deriving DecidableEq

/-- A request behind its reservation, with the calls it has yet to make. -/
structure InFlight where
  res : Reservation
  work : Work
  stage : Stage
  rest : List ChatRelay.Call

/-- A request whose reservation has just succeeded. -/
def InFlight.reserved (res : Reservation) (work : Work) : InFlight :=
  match work with
  | .chat .. => ⟨res, work, .arriving, []⟩
  | .generation .. => ⟨res, work, .slotless, work.calls false res⟩

def InFlight.seat (p : InFlight) : InFlight :=
  { p with stage := .serving, rest := p.work.calls true p.res }

def InFlight.turnAway (p : InFlight) : InFlight :=
  { p with stage := .slotless, rest := p.work.calls false p.res }

def InFlight.holdsSlot (p : InFlight) : Bool := p.stage == .serving

/-- Whether the provider's breaker is open when the request looks at it. -/
def Work.breakerOpen : Work → Bool
  | .chat _ _ _ request _ => request.breakerOpen
  | .generation .. => false

/-! ## The gateway -/

/-- What the provider billed for one request, by the month it was reserved in. -/
structure Bill where
  requestID : String
  month : String
  amount : ℤ
  deriving DecidableEq

structure State where
  db : Database
  /-- The capacity of `sem`. -/
  slots : ℕ
  /-- `len(sem)`. -/
  taken : ℕ
  inFlight : List InFlight
  bills : List Bill

/-- The capacity `New` gives the slots. -/
def slotCapacity (nGlobalConcurrency : ℤ) : ℕ :=
  if nGlobalConcurrency < 1 then 1 else nGlobalConcurrency.toNat

/-- A gateway that has just started over an accounting store. -/
def State.start (nGlobalConcurrency : ℤ) (db : Database) (bills : List Bill) : State :=
  ⟨db, slotCapacity nGlobalConcurrency, 0, [], bills⟩

/-- One thing that happens. A request is named by its place among those in flight. -/
inductive Event where
  /-- A request reserves what it may cost. -/
  | reserve (work : Work) (random : List UInt8) (now : ℤ) (installID : String) (p : Period)
      (lim : Limits)
  /-- It looks for a slot, for at most `queueWait`; `timeUp` tells whether its timer has
  fired or its client has gone. -/
  | acquireSlot (index : ℕ) (queueWait : ℤ) (timeUp : Bool)
  /-- It makes its next call. A close-out that is not `kept` fails at some step of its
  transaction. -/
  | call (index : ℕ) (now : ℤ) (kept : Bool)
  /-- Its handler returns, past every call of the provider. -/
  | return (index : ℕ)
  /-- The process dies with every request in it, and is started again. -/
  | crash (nGlobalConcurrency : ℤ)
  | reconcileOne (now : ℤ) (requestID : String)
  | resetMonthlyRequests (p : Period)

/-- A closing call, as the store sees it. -/
def storeCall (now : ℤ) (res : Reservation) : ChatRelay.Call → Option QuotaStore.Call
  | .opened => none
  | .settle amount => some (.settle now (some res) amount)
  | .rollback => some (.rollback now (some res))

/-- The breaker, then `acquireSlot`: a free slot at once, none without a wait, or the
first of a slot, the timer and the client. -/
def acquireSlot (queueWait : ℤ) (timeUp : Bool) (index : ℕ) (p : InFlight) (s : State) : State :=
  let admitted : State :=
    { s with taken := s.taken + 1, inFlight := s.inFlight.set index p.seat }
  let turnedAway : State := { s with inFlight := s.inFlight.set index p.turnAway }
  match p.stage with
  | .arriving =>
    if p.work.breakerOpen then turnedAway
    else if s.taken < s.slots then admitted
    else if queueWait ≤ 0 then turnedAway
    else { s with inFlight := s.inFlight.set index { p with stage := .queued } }
  | .queued =>
    if timeUp then turnedAway else if s.taken < s.slots then admitted else s
  | .serving | .slotless => s

/-- The next call of one request: the provider is asked and bills, or the books are
closed. -/
def makeCall (now : ℤ) (kept : Bool) (index : ℕ) (p : InFlight) (s : State) : State :=
  match p.rest with
  | [] => s
  | call :: rest =>
    let s := { s with inFlight := s.inFlight.set index { p with rest := rest } }
    match storeCall now p.res call with
    | none =>
      { s with bills := ⟨p.res.requestID, p.res.period.month, p.work.bill⟩ :: s.bills }
    | some closing => if kept then { s with db := QuotaStore.step s.db closing } else s

/-- The slot is given back when the handler returns. -/
def returnSlot (index : ℕ) (p : InFlight) (s : State) : State :=
  if p.holdsSlot && !p.rest.contains .opened then
    { s with
      taken := s.taken - 1, inFlight := s.inFlight.set index { p with stage := .slotless } }
  else s

/-- What one request in flight does, if there is such a request. -/
def onRequest (index : ℕ) (act : InFlight → State → State) (s : State) : State :=
  match s.inFlight[index]? with
  | none => s
  | some p => act p s

/-- A request is in flight once its reservation has succeeded. -/
def arrive (work : Work) (random : List UInt8) (now : ℤ) (installID : String) (p : Period)
    (lim : Limits) (s : State) : State :=
  match QuotaStore.reserve random now installID work.plan p lim s.db with
  | (.error _, db) => { s with db := db }
  | (.ok res, db) => { s with db := db, inFlight := s.inFlight ++ [InFlight.reserved res work] }

def step (s : State) : Event → State
  | .reserve work random now installID p lim => arrive work random now installID p lim s
  | .acquireSlot index queueWait timeUp => onRequest index (acquireSlot queueWait timeUp index) s
  | .call index now kept => onRequest index (makeCall now kept index) s
  | .return index => onRequest index (returnSlot index) s
  | .crash nGlobalConcurrency => .start nGlobalConcurrency s.db s.bills
  | .reconcileOne now requestID =>
    { s with db := (QuotaStore.reconcileOne now requestID s.db).2 }
  | .resetMonthlyRequests p => { s with db := (QuotaStore.resetMonthlyRequests p s.db).2 }

def run (s : State) (events : List Event) : State := runSteps step s events

/-! ## The close-out of a generation -/

/-- `closeOut` makes the closing call of its answer, or leaves the books alone. -/
theorem closeOut_calls (fails : Moment → Bool) (closedAt : ℤ) (charge : Charge) (res : Reservation)
    (answer : Answer Unit) (s : Genrun.State) :
    (closeOut fails closedAt charge res answer s).db = s.db ∨
      ∃ closing, storeCall closedAt res (closingCall charge res answer) = some closing ∧
        (closeOut fails closedAt charge res answer s).db = QuotaStore.step s.db closing := by
  have transacted (body : StoreTx Unit) :
      (Genrun.transaction fails body s.db).2 = s.db ∨
        (Genrun.transaction fails body s.db).2 = (body s.db).2 := by
    unfold Genrun.transaction
    split
    · exact .inl rfl
    · split
      · exact .inl rfl
      · split
        · rename_i ran
          exact .inr (by rw [ran])
        · rename_i ran
          split
          · exact .inl rfl
          · exact .inr (by rw [ran])
  have settles (amount : Int64) :
      (Genrun.settle fails closedAt res amount s).db =
        (Genrun.transaction fails (QuotaStore.settle closedAt (some res) amount) s.db).2 := by
    unfold Genrun.settle
    split <;> rename_i ran <;> rw [ran]
  have rolls : (Genrun.rollback fails closedAt res s).db =
      (Genrun.transaction fails (QuotaStore.rollback closedAt (some res)) s.db).2 := by
    unfold Genrun.rollback
    split <;> rename_i ran <;> rw [ran]
  have closes (call : QuotaStore.Call) (after : Database)
      (made : storeCall closedAt res (closingCall charge res answer) = some call)
      (same : after = s.db ∨ after = QuotaStore.step s.db call) :
      after = s.db ∨ ∃ closing,
        storeCall closedAt res (closingCall charge res answer) = some closing ∧
          after = QuotaStore.step s.db closing :=
    same.imp id fun moved => ⟨call, made, moved⟩
  unfold closeOut
  split
  · exact closes (.rollback closedAt (some res)) _ rfl (rolls ▸ transacted _)
  · exact closes (.settle closedAt (some res) res.reservedPUSD) _ rfl (settles _ ▸ transacted _)
  · exact closes (.settle closedAt (some res) (charge.cost res)) _ rfl (settles _ ▸ transacted _)

end AnselmGateway.PaidRequests
