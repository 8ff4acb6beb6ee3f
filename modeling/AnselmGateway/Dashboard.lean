import AnselmGateway.AuditRing
import AnselmGateway.ChatWire
import AnselmGateway.Install
import AnselmGateway.InstallAccess
import AnselmGateway.QuotaStore

/-! The operator's changes, `internal/app/dashboard` and the command line of
`internal/bootstrap`: a ban or its lifting, a configuration batch, a quota reset and an
export. A call first writes its change, then records an event in the ring of the dashboard,
then leaves its line in the durable log; other calls may come between, and so may the end of
its process. -/
namespace AnselmGateway.Dashboard
open Foundation InstallStore InstallAccess AuditRing

/-- Who writes an audit line: the server's dashboard or the command line. -/
inductive Door where
  | dashboard
  | cli
  deriving DecidableEq

/-- An audit line of the durable log. A failed change names no outcome. -/
inductive Line where
  | statusChange (door : Door) (action installID reason : String) (newStatus : Status)
  | statusNoMatch (door : Door) (action installID reason : String)
  | statusFailed (door : Door) (action installID : String)
  | configUpdate (keys : String)
  | quotaReset (period : String) (resetInstalls : ℕ) (reason actor : String)
  | quotaResetFailed
  deriving DecidableEq

/-- What a call whose change is written has still to do: to record its event, if it has one,
and to leave its line. -/
structure Owed where
  door : Door
  event : Option AuditEvent
  line : Line
  deriving DecidableEq

/-- The stores, what the server keeps in memory, the calls behind their change, and the durable
log. -/
structure State where
  db : Database
  quota : QuotaStore.Database
  lastSeen : Dict String ℤ
  audit : Ring
  owed : List Owed
  journal : List Line

/-- A server over its stores; the ring, the stamps and the dashboard's calls do not outlive the
process. -/
def State.restarted (s : State) : State :=
  { s with lastSeen := ∅, audit := newAuditRing 512, owed := s.owed.filter (·.door = .cli) }

/-- The first start. -/
def State.start : State := ⟨.empty, .empty, ∅, newAuditRing 512, [], []⟩

def State.owes (s : State) (o : Owed) : State := { s with owed := s.owed ++ [o] }

/-- `MaxReasonChars`. -/
def maxReasonChars : ℕ := 256

/-- A reason, cut at its bound in bytes; half a character reads as the replacement
character, as it does on the page. -/
def boundReason (reason : String) : String :=
  if (utf8 reason).length > maxReasonChars then ChatWire.textOf ((utf8 reason).take maxReasonChars)
  else reason

/-- The one statement behind a ban, which may fail as a whole. -/
def writeStatus (fails : Bool) (id : String) (status : Status) (db : Database) :
    Option (Bool × Database) :=
  if fails then none
  else
    match setStatus id status db.installs with
    | .error _ => none
    | .ok (found, installs) => some (found, { db with installs := installs })

/-- What a refused change is refused with. -/
inductive MutateError where
  | storage
  | installNotFound (id : String)
  deriving DecidableEq

/-- `mutate` up to its statement. -/
def mutate (fails : Bool) (action actor id reason : String) (status : Status) (s : State) :
    Except MutateError Unit × State :=
  let reason := boundReason reason
  let event (outcome : String) : AuditEvent :=
    { action := action, target := id, reason := reason, outcome := outcome, actor := actor }
  match writeStatus fails id status s.db with
  | none => (.error .storage, s.owes ⟨.dashboard, none, .statusFailed .dashboard action id⟩)
  | some (false, db) => (.error (.installNotFound id), { s with db := db }.owes
      ⟨.dashboard, some (event "not_found"), .statusNoMatch .dashboard action id reason⟩)
  | some (true, db) => (.ok (), { s with db := db }.owes
      ⟨.dashboard, some (event "ok"), .statusChange .dashboard action id reason status⟩)

/-- `Ban`. -/
def ban (fails : Bool) (actor id reason : String) (s : State) : Except MutateError Unit × State :=
  mutate fails "ban" actor id reason .banned s

/-- `Unban`. -/
def unban (fails : Bool) (actor id : String) (s : State) : Except MutateError Unit × State :=
  mutate fails "unban" actor id "" .active s

/-- `adminMutate` up to its statement, by a command line of its own over the same tables. -/
def adminMutate (fails : Bool) (action installID reason : String) (newStatus : Status) (s : State) :
    State :=
  match writeStatus fails installID newStatus s.db with
  | none => s.owes ⟨.cli, none, .statusFailed .cli action installID⟩
  | some (false, db) => { s with db := db }.owes
      ⟨.cli, none, .statusNoMatch .cli action installID reason⟩
  | some (true, db) => { s with db := db }.owes
      ⟨.cli, none, .statusChange .cli action installID reason newStatus⟩

/-- `keysOf`. -/
def keysOf (overrides : List (String × String)) : String :=
  ",".intercalate ((overrides.map Prod.fst).mergeSort fun left right => decide (left ≤ right))

/-- `ConfigApply` up to what the provider makes of it, over its refusal if there is one. -/
def configApply (refused : Option String) (actor : String) (overrides : List (String × String))
    (s : State) : Except String Unit × State :=
  match refused with
  | some reason => (.error reason, s)
  | none => (.ok (), s.owes ⟨.dashboard, some
      { action := "config_update", target := keysOf overrides, outcome := "ok", actor := actor },
      .configUpdate (keysOf overrides)⟩)

/-- `ResetAllMonthlyQuota` up to the reset. -/
def resetAllMonthlyQuota (p : Quota.Period) (actor reason : String) (s : State) :
    Except QuotaStore.StoreError ℕ × State :=
  let reason := boundReason reason
  match QuotaStore.resetMonthlyRequests p s.quota with
  | (.error .monthlyResetBlocked, quota) => (.error .monthlyResetBlocked, { s with quota := quota })
  | (.error err, quota) =>
    (.error err, { s with quota := quota }.owes ⟨.dashboard, none, .quotaResetFailed⟩)
  | (.ok resetInstalls, quota) => (.ok resetInstalls, { s with quota := quota }.owes
      ⟨.dashboard, some
        { action := "quota_reset", target := p.month, reason := reason, outcome := "ok", actor := actor },
        .quotaReset p.month resetInstalls reason actor⟩)

/-- A call records its event. -/
def State.record (s : State) (turn : ℕ) (now : ℤ) : State :=
  match s.owed[turn]? with
  | some ⟨door, some event, line⟩ =>
    { s with audit := s.audit.record event now, owed := s.owed.set turn ⟨door, none, line⟩ }
  | _ => s

/-- A call leaves its line, and is over. -/
def State.write (s : State) (turn : ℕ) : State :=
  match s.owed[turn]? with
  | some ⟨_, none, line⟩ => { s with journal := s.journal ++ [line], owed := s.owed.eraseIdx turn }
  | _ => s

/-- A command line ends before it has left its line. -/
def State.killed (s : State) (turn : ℕ) : State :=
  match s.owed[turn]? with
  | some ⟨.cli, _, _⟩ => { s with owed := s.owed.eraseIdx turn }
  | _ => s

/-- What the export handler has recorded behind a download. -/
def exportEvent (actor filename : String) (whole : Bool) : AuditEvent :=
  { action := "export", target := filename, outcome := if whole then "ok" else "interrupted", actor := actor }

/-- `RecordAudit`, as the export handler calls it. -/
def recordExport (now : ℤ) (actor filename : String) (whole : Bool) (s : State) : State :=
  { s with audit := s.audit.record (exportEvent actor filename whole) now }

/-! ## The doors -/

/-- `actor`: the boundary, not a person. -/
def actor : String := "external-iap"

/-- The handler of a ban. -/
def handleBan (fails : Bool) (installID reason : String) (s : State) : State :=
  let id := trimSpace installID
  let reason := trimSpace reason
  if id = "" then s else if reason = "" then s else (ban fails actor id reason s).2

/-- The handler of an unban. -/
def handleUnban (fails : Bool) (installID : String) (s : State) : State :=
  let id := trimSpace installID
  if id = "" then s else (unban fails actor id s).2

/-- `runBan` behind its flags. -/
def runBan (fails : Bool) (id reason : String) (s : State) : State :=
  let reason := boundReason reason
  if id = "" then s else if reason = "" then s else adminMutate fails "ban" id reason .banned s

/-- `runUnban` behind its flags. -/
def runUnban (fails : Bool) (id reason : String) (s : State) : State :=
  let reason := boundReason reason
  if id = "" then s else adminMutate fails "unban" id reason .active s

/-- The handler of a quota reset. -/
def handleReset (p : Quota.Period) (reason : String) (s : State) : State :=
  let reason := trimSpace reason
  if reason = "" then s else (resetAllMonthlyQuota p actor reason s).2

/-! ## Runs -/

/-- What can happen to the installs and their audit. The calls behind their change go on by their
place among them. -/
inductive Event where
  | register (cfg : Install.Config) (call : Install.Call)
  | visit (visit : Visit)
  | ban (fails : Bool) (installID reason : String)
  | unban (fails : Bool) (installID : String)
  | runBan (fails : Bool) (installID reason : String)
  | runUnban (fails : Bool) (installID reason : String)
  | configApply (refused : Option String) (overrides : List (String × String))
  | reset (p : Quota.Period) (reason : String)
  | exported (now : ℤ) (filename : String) (whole : Bool)
  | record (turn : ℕ) (now : ℤ)
  | write (turn : ℕ)
  | killed (turn : ℕ)
  | restart

variable (env : Install.Environment)

/-- What `LookupInstall` finds, and the gateway after it. -/
def State.visit (s : State) (visit : Visit) : Option (Option (String × Status)) × State :=
  let (found, installs, stamps) := lookupInstall visit s.db.installs s.lastSeen
  (found, { s with db := { s.db with installs := installs }, lastSeen := stamps })

def step (s : State) : Event → State
  | .register cfg call => { s with db := (Install.issueView env cfg call s.db).2 }
  | .visit visit => (s.visit visit).2
  | .ban fails installID reason => handleBan fails installID reason s
  | .unban fails installID => handleUnban fails installID s
  | .runBan fails installID reason => runBan fails installID reason s
  | .runUnban fails installID reason => runUnban fails installID reason s
  | .configApply refused overrides => (configApply refused actor overrides s).2
  | .reset p reason => handleReset p reason s
  | .exported now filename whole => recordExport now actor filename whole s
  | .record turn now => s.record turn now
  | .write turn => s.write turn
  | .killed turn => s.killed turn
  | .restart => s.restarted

def run (s : State) (events : List Event) : State := runSteps (step env) s events

end AnselmGateway.Dashboard
