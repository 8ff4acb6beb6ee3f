import AnselmGateway.ChatHandle
import AnselmGateway.Dashboard
import AnselmGateway.Foundation.Interleaving
import AnselmGateway.Genrun
import AnselmGateway.InstallAccounting

/-! Who is let in, and what the durable log says about it. A ban is one stored word, read
by every door at every request, and its line comes later. Here the word is shown to be the last
verdict written, the log to have a line for every verdict but those that are under way or died
with their process, and where the calls on an install do not overlap the log's last verdict to be
the word, over every run of registrations, visits, operators at both doors and restarts. -/
namespace AnselmGateway.AccessTrail
open Foundation InstallStore InstallStoreSemantics InstallAccess AuditRing Dashboard

/-! ## What the log says -/

/-- The verdict of a line on an install, if it is one. -/
def verdictOn (installID : String) : Line → Option Status
  | .statusChange _ _ target _ newStatus => if target = installID then some newStatus else none
  | _ => none

/-- The last verdict on an install among some lines; one nobody has judged is active. -/
def standing (installID : String) (lines : List Line) : Status :=
  ((lines.filterMap (verdictOn installID)).getLast?).getD .active

/-- What the dashboard's own lines say about installs: action, install, reason, outcome. -/
def lineVerdict : Line → Option (String × String × String × String)
  | .statusChange .dashboard action installID reason _ => some (action, installID, reason, "ok")
  | .statusNoMatch .dashboard action installID reason => some (action, installID, reason, "not_found")
  | _ => none

/-- What an event of the ring says about an install. -/
def eventVerdict (e : AuditEvent) : Option (String × String × String × String) :=
  if e.action = "ban" ∨ e.action = "unban" then some (e.action, e.target, e.reason, e.outcome)
  else none

/-- The lines of the calls that a step brings behind their change. -/
def promises (s s' : State) : List Line := (s'.owed.drop s.owed.length).map Owed.line

/-- The lines that die with their process. -/
def loses (s : State) : Event → List Line
  | .killed turn => ((s.owed[turn]?).filter (·.door = .cli)).toList.map Owed.line
  | .restart => (s.owed.filter (·.door = .dashboard)).map Owed.line
  | _ => []

/-- The events recorded since the start of the process. -/
def hears (log : List AuditEvent) (s : State) : Event → List AuditEvent
  | .record turn now =>
    match (s.owed[turn]?).bind Owed.event with
    | some event => log ++ [stamped log event now]
    | none => log
  | .exported now filename whole => log ++ [stamped log (exportEvent actor filename whole) now]
  | .restart => []
  | _ => log

/-- The lines left since. -/
def leaves (log : List Line) (s s' : State) : Event → List Line
  | .restart => []
  | _ => log ++ s'.journal.drop s.journal.length

/-- A state, with every line its calls were to leave in the order of their changes, those of them
that were lost, and what was recorded and left since the start of the process. -/
structure Trace where
  state : State
  promised : List Line
  lost : List Line
  heard : List AuditEvent
  since : List Line

def Trace.start : Trace := ⟨.start, [], [], [], []⟩

def Trace.step (env : Install.Environment) (t : Trace) (event : Event) : Trace :=
  let s' := Dashboard.step env t.state event
  ⟨s', t.promised ++ promises t.state s', t.lost ++ loses t.state event,
    hears t.heard t.state event, leaves t.since t.state s' event⟩

def Trace.run (env : Install.Environment) (t : Trace) (events : List Event) : Trace :=
  runSteps (Trace.step env) t events

/-- The lines of the calls under way. -/
def Trace.due (t : Trace) : List Line := t.state.owed.map Owed.line

/-- The verdicts of the dashboard that the ring has and the log has not. -/
def recorded (owed : List Owed) : List (String × String × String × String) :=
  (owed.filter (·.event.isNone)).filterMap fun o => lineVerdict o.line

theorem promises_owes {s s' : State} {o : Owed} (owed : s'.owed = s.owed ++ [o]) :
    promises s s' = [o.line] := by
  rw [promises, owed, List.drop_left]
  rfl

theorem promises_none {s s' : State} (shorter : s'.owed.length ≤ s.owed.length) : promises s s' = [] := by
  rw [promises, List.drop_of_length_le shorter]
  rfl

/-! ## What a change does to the calls under way -/

/-- What a call owes at first: an event and a line that tell the same of an install, or a line that
tells nothing. -/
inductive Fits : Owed → Prop where
  | both (event : AuditEvent) (line : Line) (told : eventVerdict event = lineVerdict line) :
    Fits ⟨.dashboard, some event, line⟩
  | line (door : Door) (line : Line) (silent : lineVerdict line = none) : Fits ⟨door, none, line⟩

/-- The ring and the log are left as they are, and at most one call is brought behind its change. -/
structure Brings (s s' : State) : Prop where
  audit : s'.audit = s.audit
  journal : s'.journal = s.journal
  owed : s'.owed = s.owed ∨ ∃ o, Fits o ∧ s'.owed = s.owed ++ [o]

section Brings
variable {s : State}

theorem Brings.refl (s : State) : Brings s s := ⟨rfl, rfl, .inl rfl⟩

theorem Brings.both {s' : State} (event : AuditEvent) (line : Line)
    (told : eventVerdict event = lineVerdict line) (audit : s'.audit = s.audit)
    (journal : s'.journal = s.journal) (owed : s'.owed = s.owed ++ [⟨.dashboard, some event, line⟩]) :
    Brings s s' := ⟨audit, journal, .inr ⟨_, .both event line told, owed⟩⟩

theorem Brings.line {s' : State} (door : Door) (line : Line) (silent : lineVerdict line = none)
    (audit : s'.audit = s.audit) (journal : s'.journal = s.journal)
    (owed : s'.owed = s.owed ++ [⟨door, none, line⟩]) : Brings s s' :=
  ⟨audit, journal, .inr ⟨_, .line door line silent, owed⟩⟩

theorem brings_mutate (fails : Bool) {action : String} (actor id reason : String) (status : Status)
    (judges : action = "ban" ∨ action = "unban") :
    Brings s (mutate fails action actor id reason status s).2 := by
  have told (outcome : String) : eventVerdict ⟨0, 0, action, id, boundReason reason, outcome, actor⟩ =
      some (action, id, boundReason reason, outcome) := by
    unfold eventVerdict
    rw [if_pos judges]
  unfold mutate
  dsimp only
  split
  · exact .line _ _ rfl rfl rfl rfl
  · exact .both _ _ (told "not_found") rfl rfl rfl
  · exact .both _ _ (told "ok") rfl rfl rfl

theorem brings_adminMutate (fails : Bool) (action id reason : String) (status : Status) :
    Brings s (adminMutate fails action id reason status s) := by
  unfold adminMutate
  split <;> exact .line _ _ rfl rfl rfl rfl

theorem brings_configApply (refused : Option String) (actor : String) (overrides : List (String × String)) :
    Brings s (configApply refused actor overrides s).2 := by
  cases refused with
  | some reason => exact .refl s
  | none => exact .both _ _ rfl rfl rfl rfl

theorem brings_reset (p : Quota.Period) (actor reason : String) :
    Brings s (resetAllMonthlyQuota p actor reason s).2 := by
  unfold resetAllMonthlyQuota
  dsimp only
  split
  · exact ⟨rfl, rfl, .inl rfl⟩
  · exact .line _ _ rfl rfl rfl rfl
  · exact .both _ _ rfl rfl rfl rfl

end Brings

/-! ## What a step does to the books -/

/-- What is looked back on, and what it is about, but for the stores. -/
structure Books where
  owed : List Owed
  audit : Ring
  journal : List Line
  promised : List Line
  lost : List Line
  heard : List AuditEvent
  since : List Line

def Trace.books (t : Trace) : Books :=
  ⟨t.state.owed, t.state.audit, t.state.journal, t.promised, t.lost, t.heard, t.since⟩

/-- One entry in the books. -/
inductive Entry (b : Books) : Books → Prop where
  | nothing : Entry b b
  | change (o : Owed) (fits : Fits o) :
    Entry b { b with owed := b.owed ++ [o], promised := b.promised ++ [o.line] }
  | record (before after : List Owed) (door : Door) (event : AuditEvent) (line : Line) (now : ℤ)
    (turn : b.owed = before ++ ⟨door, some event, line⟩ :: after) :
    Entry b { b with
      owed := before ++ ⟨door, none, line⟩ :: after
      audit := b.audit.record event now
      heard := b.heard ++ [stamped b.heard event now] }
  | exported (event : AuditEvent) (now : ℤ) (other : eventVerdict event = none) :
    Entry b { b with
      audit := b.audit.record event now
      heard := b.heard ++ [stamped b.heard event now] }
  | write (before after : List Owed) (door : Door) (line : Line)
    (turn : b.owed = before ++ ⟨door, none, line⟩ :: after) :
    Entry b { b with
      owed := before ++ after
      journal := b.journal ++ [line]
      since := b.since ++ [line] }
  | killed (before after : List Owed) (event : Option AuditEvent) (line : Line)
    (turn : b.owed = before ++ ⟨.cli, event, line⟩ :: after) :
    Entry b { b with owed := before ++ after, lost := b.lost ++ [line] }
  | restart : Entry b { b with
      owed := b.owed.filter (·.door = .cli)
      audit := newAuditRing 512
      lost := b.lost ++ (b.owed.filter (·.door = .dashboard)).map Owed.line
      heard := []
      since := [] }

section Entries
variable {env : Install.Environment} {t : Trace}

/-- A change that is brought in is the one entry of its event. -/
theorem entry_brings {event : Event} (brings : Brings t.state (Dashboard.step env t.state event))
    (loses_ : loses t.state event = []) (hears_ : hears t.heard t.state event = t.heard)
    (leaves_ : leaves t.since t.state (Dashboard.step env t.state event) event =
      t.since ++ (Dashboard.step env t.state event).journal.drop t.state.journal.length) :
    Entry t.books (t.step env event).books := by
  unfold Trace.step Trace.books
  dsimp only
  rw [loses_, hears_, leaves_, brings.audit, brings.journal, List.drop_length, List.append_nil, List.append_nil]
  rcases brings.owed with same | ⟨o, fits, added⟩
  · rw [promises_none (Nat.le_of_eq (congrArg List.length same)), same, List.append_nil]
    exact .nothing
  · rw [promises_owes added, added]
    exact .change o fits

theorem entry_record (turn : ℕ) (now : ℤ) : Entry t.books (t.step env (.record turn now)).books := by
  have still (same : t.state.record turn now = t.state)
      (heard : hears t.heard t.state (.record turn now) = t.heard) :
      Entry t.books (t.step env (.record turn now)).books := by
    refine entry_brings ?_ rfl heard rfl
    rw [Dashboard.step, same]
    exact .refl _
  cases found : t.state.owed[turn]? with
  | none => exact still (by rw [State.record, found]) (by rw [hears, found]; rfl)
  | some o =>
    match o, found with
    | ⟨door, none, line⟩, found => exact still (by rw [State.record, found]) (by rw [hears, found]; rfl)
    | ⟨door, some event, line⟩, found =>
      obtain ⟨before, after, owed, _, set⟩ := split_turn found
      have quiet : promises t.state (Dashboard.step env t.state (.record turn now)) = [] := by
        apply promises_none
        simp only [Dashboard.step, State.record, found, List.length_set, Nat.le_refl]
      have books : (t.step env (.record turn now)).books = { t.books with
          owed := before ++ ⟨door, none, line⟩ :: after
          audit := t.books.audit.record event now
          heard := t.books.heard ++ [stamped t.books.heard event now] } := by
        simp only [Trace.step, Trace.books, quiet]
        simp only [Dashboard.step, State.record, found, hears, loses, leaves, Option.bind_some,
          List.drop_length, List.append_nil, set]
      rw [books]
      exact .record before after door event line now owed

theorem entry_write (turn : ℕ) : Entry t.books (t.step env (.write turn)).books := by
  have still (same : t.state.write turn = t.state) : Entry t.books (t.step env (.write turn)).books := by
    refine entry_brings ?_ rfl rfl rfl
    rw [Dashboard.step, same]
    exact .refl _
  cases found : t.state.owed[turn]? with
  | none => exact still (by rw [State.write, found])
  | some o =>
    match o, found with
    | ⟨door, some event, line⟩, found => exact still (by rw [State.write, found])
    | ⟨door, none, line⟩, found =>
      obtain ⟨before, after, owed, erased, _⟩ := split_turn found
      have quiet : promises t.state (Dashboard.step env t.state (.write turn)) = [] := by
        apply promises_none
        simp only [Dashboard.step, State.write, found]
        exact List.length_eraseIdx_le _ _
      have books : (t.step env (.write turn)).books = { t.books with
          owed := before ++ after
          journal := t.books.journal ++ [line]
          since := t.books.since ++ [line] } := by
        simp only [Trace.step, Trace.books, quiet]
        simp only [Dashboard.step, State.write, found, hears, loses, leaves, List.drop_left,
          List.append_nil, erased]
      rw [books]
      exact .write before after door line owed

theorem entry_killed (turn : ℕ) : Entry t.books (t.step env (.killed turn)).books := by
  have still (same : t.state.killed turn = t.state) (lost : loses t.state (.killed turn) = []) :
      Entry t.books (t.step env (.killed turn)).books := by
    refine entry_brings ?_ lost rfl rfl
    rw [Dashboard.step, same]
    exact .refl _
  cases found : t.state.owed[turn]? with
  | none => exact still (by rw [State.killed, found]) (by rw [loses, found]; rfl)
  | some o =>
    match o, found with
    | ⟨.dashboard, event, line⟩, found => exact still (by rw [State.killed, found]) (by rw [loses, found]; rfl)
    | ⟨.cli, event, line⟩, found =>
      obtain ⟨before, after, owed, erased, _⟩ := split_turn found
      have quiet : promises t.state (Dashboard.step env t.state (.killed turn)) = [] := by
        apply promises_none
        simp only [Dashboard.step, State.killed, found]
        exact List.length_eraseIdx_le _ _
      have lost : loses t.state (.killed turn) = [line] := by
        rw [loses, found]
        rfl
      have books : (t.step env (.killed turn)).books = { t.books with
          owed := before ++ after, lost := t.books.lost ++ [line] } := by
        simp only [Trace.step, Trace.books, quiet, lost]
        simp only [Dashboard.step, State.killed, found, hears, leaves, List.drop_length, List.append_nil,
          erased]
      rw [books]
      exact .killed before after event line owed

/-- Every step makes one entry. -/
theorem entry_step (event : Event) : Entry t.books (t.step env event).books := by
  cases event with
  | register cfg call => exact entry_brings ⟨rfl, rfl, .inl rfl⟩ rfl rfl rfl
  | visit visit => exact entry_brings ⟨rfl, rfl, .inl rfl⟩ rfl rfl rfl
  | ban fails installID reason =>
    refine entry_brings ?_ rfl rfl rfl
    simp only [Dashboard.step, handleBan]
    split
    · exact .refl _
    · split
      · exact .refl _
      · exact brings_mutate _ _ _ _ _ (.inl rfl)
  | unban fails installID =>
    refine entry_brings ?_ rfl rfl rfl
    simp only [Dashboard.step, handleUnban]
    split
    · exact .refl _
    · exact brings_mutate _ _ _ _ _ (.inr rfl)
  | runBan fails installID reason =>
    refine entry_brings ?_ rfl rfl rfl
    simp only [Dashboard.step, runBan]
    split
    · exact .refl _
    · split
      · exact .refl _
      · exact brings_adminMutate ..
  | runUnban fails installID reason =>
    refine entry_brings ?_ rfl rfl rfl
    simp only [Dashboard.step, runUnban]
    split
    · exact .refl _
    · exact brings_adminMutate ..
  | configApply refused overrides => exact entry_brings (brings_configApply ..) rfl rfl rfl
  | reset p reason =>
    refine entry_brings ?_ rfl rfl rfl
    simp only [Dashboard.step, handleReset]
    split
    · exact .refl _
    · exact brings_reset ..
  | exported now filename whole =>
    have books : (t.step env (.exported now filename whole)).books = { t.books with
        audit := t.books.audit.record (exportEvent actor filename whole) now
        heard := t.books.heard ++ [stamped t.books.heard (exportEvent actor filename whole) now] } := by
      simp only [Trace.step, Trace.books, Dashboard.step, recordExport, hears, loses, leaves,
        List.drop_length, List.append_nil, promises, List.map_nil]
    rw [books]
    exact .exported _ now rfl
  | record turn now => exact entry_record turn now
  | write turn => exact entry_write turn
  | killed turn => exact entry_killed turn
  | restart =>
    have quiet : promises t.state (Dashboard.step env t.state .restart) = [] :=
      promises_none (List.length_filter_le _ _)
    have books : (t.step env .restart).books = { t.books with
        owed := t.books.owed.filter (·.door = .cli)
        audit := newAuditRing 512
        lost := t.books.lost ++ (t.books.owed.filter (·.door = .dashboard)).map Owed.line
        heard := []
        since := [] } := by
      simp only [Trace.step, Trace.books, quiet]
      simp only [Dashboard.step, State.restarted, hears, loses, leaves, List.append_nil]
    rw [books]
    exact .restart

end Entries

/-! ## What a step does to the rows -/

/-- The rows are as they were, but for the times of the last visits. -/
def SameRows (before after : Installs) : Prop :=
  ∀ id, ∃ seen : Option ℤ → Option ℤ, after.table.get? id =
    (before.table.get? id).map fun row => { row with lastSeenAt := seen row.lastSeenAt }

theorem SameRows.refl (installs : Installs) : SameRows installs installs := fun id =>
  ⟨fun seen => seen, by cases installs.table.get? id <;> rfl⟩

/-- What a step does, with the rows that it may insert. -/
inductive Moves (may : InstallRow → Prop) (s s' : State) : Prop where
  | quiet (rows : SameRows s.db.installs s'.db.installs)
      (silent : ∀ id, (promises s s').filterMap (verdictOn id) = [])
      (names : ∀ thumbprint, s'.db.installs.idOf thumbprint = s.db.installs.idOf thumbprint)
  /-- A new install, under an id that nobody had. -/
  | registered (id : String) (row : InstallRow) (fresh : s.db.installs.table.get? id = none)
      (active : row.status = .active) (inserts : may row)
      (rows : ∀ other, s'.db.installs.table.get? other =
        if other = id then some row else s.db.installs.table.get? other)
      (promised : promises s s' = [])
      (unnamed : s.db.installs.idOf row.keyThumbprint = none)
      (names : ∀ other, s'.db.installs.idOf other =
        if other = row.keyThumbprint then some id else s.db.installs.idOf other)
  /-- A verdict on an install that there is. -/
  | judged (door : Door) (action id reason : String) (status : Status)
      (known : (s.db.installs.table.get? id).isSome)
      (rows : ∀ other, s'.db.installs.table.get? other =
        (s.db.installs.table.get? other).map fun row =>
          if other = id then { row with status := status } else row)
      (promised : promises s s' = [.statusChange door action id reason status])
      (names : ∀ thumbprint, s'.db.installs.idOf thumbprint = s.db.installs.idOf thumbprint)

section Steps
variable {s : State} {may : InstallRow → Prop}

/-- The installs are left alone, and nobody is judged. -/
theorem Moves.still {s' : State} (installs : s'.db.installs = s.db.installs)
    (silent : ∀ id, (promises s s').filterMap (verdictOn id) = []) : Moves may s s' := by
  refine .quiet ?_ silent fun _ => by rw [installs]
  rw [installs]
  exact .refl _

theorem moves_refl (s : State) : Moves may s s := by
  refine .still rfl fun _ => ?_
  rw [promises_none (Nat.le_refl _)]
  rfl

theorem writeStatus_ok {fails found : Bool} {id : String} {status : Status} {db after : Database}
    (ran : writeStatus fails id status db = some (found, after)) :
    setStatus id status db.installs = .ok (found, after.installs) := by
  unfold writeStatus at ran
  split at ran
  · cases ran
  · split at ran
    · cases ran
    · rename_i written
      cases ran
      exact written

/-- A status that is written names its install. -/
theorem moves_judged {s' : State} {door : Door} {fails : Bool} {id action reason : String}
    {status : Status} {event : Option AuditEvent}
    (ran : writeStatus fails id status s.db = some (true, s'.db))
    (owed : s'.owed = s.owed ++ [⟨door, event, .statusChange door action id reason status⟩]) :
    Moves may s s' := by
  obtain ⟨answer, rows, names⟩ := setStatus_ok (writeStatus_ok ran)
  exact .judged door action id reason status answer.symm rows (promises_owes owed) names

/-- One that finds none changes nothing. -/
theorem moves_unmatched {s' : State} {door : Door} {fails : Bool} {id action reason : String}
    {status : Status} {event : Option AuditEvent}
    (ran : writeStatus fails id status s.db = some (false, s'.db))
    (owed : s'.owed = s.owed ++ [⟨door, event, .statusNoMatch door action id reason⟩]) :
    Moves may s s' := by
  obtain ⟨answer, rows, names⟩ := setStatus_ok (writeStatus_ok ran)
  refine .quiet (fun other => ⟨fun seen => seen, ?_⟩) (fun _ => by rw [promises_owes owed]; rfl) names
  rw [rows]
  by_cases own : other = id
  · subst own
    have absent : s.db.installs.table.get? other = none := by
      simpa using answer.symm
    rw [absent]
    rfl
  · simp only [own, if_false]

theorem moves_mutate (fails : Bool) (action actor id reason : String) (status : Status) :
    Moves may s (mutate fails action actor id reason status s).2 := by
  unfold mutate
  dsimp only
  split
  · exact .still rfl fun _ => by rw [promises_owes rfl]; rfl
  · rename_i ran
    exact moves_unmatched ran rfl
  · rename_i ran
    exact moves_judged ran rfl

theorem moves_adminMutate (fails : Bool) (action id reason : String) (status : Status) :
    Moves may s (adminMutate fails action id reason status s) := by
  unfold adminMutate
  split
  · exact .still rfl fun _ => by rw [promises_owes rfl]; rfl
  · rename_i ran
    exact moves_unmatched ran rfl
  · rename_i ran
    exact moves_judged ran rfl

theorem insert_rows {installs stored : Installs} {id : String} {row : InstallRow}
    (ran : installs.insert id row = .ok stored) : installs.table.get? id = none ∧
      ∀ other, stored.table.get? other = if other = id then some row else installs.table.get? other := by
  unfold Installs.insert at ran
  split at ran
  · cases ran
  · split at ran
    · cases ran
    · rename_i inserted
      cases ran
      exact ⟨(Table.insert_ok inserted).2, Table.get?_insert inserted⟩

/-- A registration recovers an install, is turned away, or inserts one. -/
theorem issueView_rows (env : Install.Environment) (cfg : Install.Config) (call : Install.Call)
    (db : Database) :
    (Install.issueView env cfg call db).2 = db ∨
    ∃ id, db.installs.table.get? id = none ∧ db.installs.idOf call.thumbprint = none ∧
      (∀ other, (Install.issueView env cfg call db).2.installs.table.get? other =
        if other = id then some (newRow (Install.issueParams env cfg call))
        else db.installs.table.get? other) ∧
      ∀ other, (Install.issueView env cfg call db).2.installs.idOf other =
        if other = call.thumbprint then some id else db.installs.idOf other := by
  have stored : (Install.issueView env cfg call db).2 =
      (issue call.regenerated (Install.issueParams env cfg call) db).2 := by
    unfold Install.issueView Install.register
    rcases issue call.regenerated (Install.issueParams env cfg call) db with ⟨_ | result, after⟩
    · rfl
    · dsimp only
      split <;> rfl
  rw [stored]
  rcases issue_cases call.regenerated (Install.issueParams env cfg call) db with
    ⟨_, _, recovered⟩ | ⟨_, unchanged, _⟩ | ⟨unknown, reached, gated, id, after, addressed, passed, inserted, issued⟩
  · exact .inl (by rw [recovered])
  · exact .inl unchanged
  · have gate : Tx.Keeps Database.installs (passFPGate (Install.issueParams env cfg call)) :=
      keeps_pass ((keeps_prune fun _ _ => rfl).bind fun _ =>
        (keeps_exec fun _ _ => rfl).bind fun _ => Tx.keeps_pure _)
    have kept := gate reached
    rw [passed, (passAddressGates_kept addressed).1] at kept
    have insertion := insertFresh_ok inserted
    change gated.installs = db.installs at kept
    rw [kept] at insertion
    obtain ⟨fresh, rows⟩ := insert_rows insertion
    rw [issued]
    exact .inr ⟨id, fresh, unknown, rows, idOf_insert insertion⟩

theorem moves_register (env : Install.Environment) (cfg : Install.Config) (call : Install.Call) :
    Moves (fun row => row = newRow (Install.issueParams env cfg call)) s
      { s with db := (Install.issueView env cfg call s.db).2 } := by
  have quiet : promises s { s with db := (Install.issueView env cfg call s.db).2 } = [] :=
    promises_none (Nat.le_refl _)
  rcases issueView_rows env cfg call s.db with same | ⟨id, fresh, unknown, rows, names⟩
  · apply Moves.still
    · rw [same]
    · exact fun _ => by rw [quiet]; rfl
  · exact .registered id _ fresh rfl rfl rows quiet unknown names

/-- A visit changes at most a time. -/
theorem lookupInstall_rows (visit : Visit) (installs : Installs) (lastSeen : Dict String ℤ) :
    SameRows installs (lookupInstall visit installs lastSeen).2.1 ∧
      ∀ thumbprint, (lookupInstall visit installs lastSeen).2.1.idOf thumbprint =
        installs.idOf thumbprint := by
  have still : SameRows installs installs ∧ ∀ thumbprint, installs.idOf thumbprint =
      installs.idOf thumbprint := ⟨.refl installs, fun _ => rfl⟩
  unfold lookupInstall
  split
  · exact still
  · split
    · exact still
    · split
      · exact still
      · dsimp only
        split
        · exact still
        · split
          · exact still
          · split
            · exact still
            · exact refreshLastSeen_ok ‹_›

theorem moves_visit (visit : Visit) : Moves may s (s.visit visit).2 := by
  obtain ⟨rows, names⟩ := lookupInstall_rows visit s.db.installs s.lastSeen
  have quiet : promises s (s.visit visit).2 = [] := promises_none (Nat.le_refl _)
  exact .quiet rows (fun _ => by rw [quiet]; rfl) names

/-- What goes on among the calls under way touches no install. -/
theorem moves_owed {s' : State} (db : s'.db = s.db) (shorter : s'.owed.length ≤ s.owed.length) :
    Moves may s s' := .still (by rw [db]) fun _ => by rw [promises_none shorter]; rfl

theorem moves_reset (p : Quota.Period) (actor reason : String) :
    Moves may s (resetAllMonthlyQuota p actor reason s).2 := by
  unfold resetAllMonthlyQuota
  dsimp only
  split
  · exact moves_owed rfl (Nat.le_refl _)
  · exact .still rfl fun _ => by rw [promises_owes rfl]; rfl
  · exact .still rfl fun _ => by rw [promises_owes rfl]; rfl

theorem moves_record (turn : ℕ) (now : ℤ) : Moves may s (s.record turn now) := by
  unfold State.record
  split
  · exact moves_owed rfl (Nat.le_of_eq List.length_set)
  · exact moves_refl s

theorem moves_write (turn : ℕ) : Moves may s (s.write turn) := by
  unfold State.write
  split
  · exact moves_owed rfl (List.length_eraseIdx_le _ _)
  · exact moves_refl s

theorem moves_killed (turn : ℕ) : Moves may s (s.killed turn) := by
  unfold State.killed
  split
  · exact moves_owed rfl (List.length_eraseIdx_le _ _)
  · exact moves_refl s

/-- The rows that an event may insert. -/
def Inserts (env : Install.Environment) : Event → InstallRow → Prop
  | .register cfg call, row => row = newRow (Install.issueParams env cfg call)
  | _, _ => False

theorem moves_step (env : Install.Environment) (event : Event) :
    Moves (Inserts env event) s (step env s event) := by
  cases event with
  | register cfg call => exact moves_register env cfg call
  | visit visit => exact moves_visit visit
  | ban fails installID reason =>
    simp only [step, handleBan]
    split
    · exact moves_refl s
    · split
      · exact moves_refl s
      · exact moves_mutate ..
  | unban fails installID =>
    simp only [step, handleUnban]
    split
    · exact moves_refl s
    · exact moves_mutate ..
  | runBan fails installID reason =>
    simp only [step, runBan]
    split
    · exact moves_refl s
    · split
      · exact moves_refl s
      · exact moves_adminMutate ..
  | runUnban fails installID reason =>
    simp only [step, runUnban]
    split
    · exact moves_refl s
    · exact moves_adminMutate ..
  | configApply refused overrides =>
    cases refused with
    | some reason => exact moves_refl s
    | none => exact .still rfl fun _ => by rw [promises_owes rfl]; rfl
  | reset p reason =>
    simp only [step, handleReset]
    split
    · exact moves_refl s
    · exact moves_reset ..
  | exported now filename whole => exact moves_owed rfl (Nat.le_refl _)
  | record turn now => exact moves_record turn now
  | write turn => exact moves_write turn
  | killed turn => exact moves_killed turn
  | restart => exact moves_owed rfl (List.length_filter_le _ _)

/-! ## What only an unban does -/

/-- Nothing is promised about an install but the given verdict. -/
def Only (id : String) (status : Status) (s s' : State) : Prop :=
  ∀ v ∈ (promises s s').filterMap (verdictOn id), v = status

theorem Only.none {id : String} {status : Status} {s' : State} (shorter : s'.owed.length ≤ s.owed.length) :
    Only id status s s' := by
  rw [Only, promises_none shorter]
  exact nofun

theorem Only.refl (id : String) (status : Status) (s : State) : Only id status s s := .none (Nat.le_refl _)

theorem Only.line {id : String} {status : Status} {s' : State} {o : Owed} (owed : s'.owed = s.owed ++ [o])
    (verdict : ∀ v, verdictOn id o.line = some v → v = status) : Only id status s s' := by
  intro v told
  obtain ⟨_, single, same⟩ := List.mem_filterMap.mp (promises_owes owed ▸ told)
  rw [List.mem_singleton.mp single] at same
  exact verdict v same

end Steps

/-! ## What every run keeps -/

/-- The stored word is the last verdict written, and nobody unknown is judged. -/
structure Judged (t : Trace) : Prop where
  known : ∀ id row, t.state.db.installs.table.get? id = some row → row.status = standing id t.promised
  unknown : ∀ id, t.state.db.installs.table.get? id = none → t.promised.filterMap (verdictOn id) = []

/-- A device keeps its id, and an install its key and its birth. -/
structure Onward (s s' : State) : Prop where
  rows : ∀ id row, s.db.installs.table.get? id = some row → ∃ row',
    s'.db.installs.table.get? id = some row' ∧ row'.publicKey = row.publicKey ∧
      row'.keyThumbprint = row.keyThumbprint ∧ row'.createdAt = row.createdAt
  names : ∀ thumbprint id, s.db.installs.idOf thumbprint = some id →
    s'.db.installs.idOf thumbprint = some id

section Kept
variable {s s' : State} {may : InstallRow → Prop}

theorem Onward.refl (s : State) : Onward s s :=
  ⟨fun _ row held => ⟨row, held, rfl, rfl, rfl⟩, fun _ _ known => known⟩

theorem Onward.trans {s'' : State} (first : Onward s s') (second : Onward s' s'') : Onward s s'' := by
  refine ⟨fun id row held => ?_, fun thumbprint id known => second.names _ _ (first.names _ _ known)⟩
  obtain ⟨row', held', key, thumb, born⟩ := first.rows id row held
  obtain ⟨row'', held'', key', thumb', born'⟩ := second.rows id row' held'
  exact ⟨row'', held'', key'.trans key, thumb'.trans thumb, born'.trans born⟩

theorem onward_moves (moves : Moves may s s') : Onward s s' := by
  cases moves with
  | quiet rows silent names =>
    refine ⟨fun id row held => ?_, fun thumbprint id known => (names thumbprint).trans known⟩
    obtain ⟨seen, eq⟩ := rows id
    rw [held] at eq
    exact ⟨_, eq, rfl, rfl, rfl⟩
  | registered id row fresh active inserts rows promised unnamed names =>
    refine ⟨fun other found held => ⟨found, ?_, rfl, rfl, rfl⟩, fun thumbprint other known => ?_⟩
    · have apart : ¬other = id := by
        rintro rfl
        rw [fresh] at held
        cases held
      rw [rows, if_neg apart, held]
    · have apart : ¬thumbprint = row.keyThumbprint := by
        rintro rfl
        rw [unnamed] at known
        cases known
      rw [names, if_neg apart, known]
  | judged door action id reason status known rows promised names =>
    refine ⟨fun other found held => ?_, fun thumbprint other kept => (names thumbprint).trans kept⟩
    rw [rows, held]
    refine ⟨_, rfl, ?_⟩
    split <;> exact ⟨rfl, rfl, rfl⟩

end Kept

/-! ## The books balance -/

/-- Every line promised is left, under way or lost; the ring has the last of what was recorded, and
what it tells of installs is what the log was told since the start or is still to be. -/
structure Balanced (b : Books) : Prop where
  lines : (b.journal ++ b.owed.map Owed.line ++ b.lost).Perm b.promised
  keeps : Keeps b.audit b.heard ∧ b.audit.buf.length = 512
  told : ∀ o ∈ b.owed, (o.door = .cli → lineVerdict o.line = none) ∧
    ∀ event, o.event = some event → eventVerdict event = lineVerdict o.line
  ring : (b.heard.filterMap eventVerdict).Perm (b.since.filterMap lineVerdict ++ recorded b.owed)

theorem recorded_append (before after : List Owed) :
    recorded (before ++ after) = recorded before ++ recorded after := by
  rw [recorded, List.filter_append, List.filterMap_append]
  rfl

theorem recorded_nil : recorded [] = [] := rfl

theorem recorded_open (door : Door) (event : AuditEvent) (line : Line) (rest : List Owed) :
    recorded (⟨door, some event, line⟩ :: rest) = recorded rest := rfl

theorem recorded_done (door : Door) (line : Line) (rest : List Owed) :
    recorded (⟨door, none, line⟩ :: rest) = (lineVerdict line).toList ++ recorded rest := by
  rw [recorded, List.filter_cons_of_pos (by rfl), List.filterMap_cons]
  cases lineVerdict line <;> rfl

theorem length_newAuditRing : (newAuditRing 512).buf.length = 512 := by
  rw [newAuditRing, List.length_replicate]
  rfl

section Balance
variable {b b' : Books}

/-- What is recorded is heard, and nothing of the past is forgotten by it. -/
theorem heard_record (keeps : Keeps b.audit b.heard ∧ b.audit.buf.length = 512) (event : AuditEvent) (now : ℤ) :
    (Keeps (b.audit.record event now) (b.heard ++ [stamped b.heard event now]) ∧
      (b.audit.record event now).buf.length = 512) ∧
    (b.heard ++ [stamped b.heard event now]).filterMap eventVerdict =
      b.heard.filterMap eventVerdict ++ (eventVerdict event).toList := by
  refine ⟨⟨keeps_record keeps.1 event now, List.length_set.trans keeps.2⟩, ?_⟩
  rw [List.filterMap_append, filterMap_single]
  rfl

/-- The calls of command lines tell the ring nothing. -/
theorem recorded_cli {owed : List Owed} (told : ∀ o ∈ owed, o.door = .cli → lineVerdict o.line = none) :
    recorded (owed.filter (·.door = .cli)) = [] := by
  rw [recorded, List.filterMap_eq_nil_iff]
  intro o member
  obtain ⟨member, _⟩ := List.mem_filter.mp member
  obtain ⟨member, cli⟩ := List.mem_filter.mp member
  exact told o member (of_decide_eq_true cli)

theorem mem_owed {before after : List Owed} {o other : Owed} (member : other ∈ before ++ after) :
    other ∈ before ++ o :: after := by
  rcases List.mem_append.mp member with there | there
  · exact List.mem_append_left _ there
  · exact List.mem_append_right _ (List.mem_cons_of_mem _ there)

/-- A change owes its event and its line. -/
theorem balanced_change (balanced : Balanced b) {o : Owed} (fits : Fits o) :
    Balanced { b with owed := b.owed ++ [o], promised := b.promised ++ [o.line] } := by
  obtain ⟨lines, keeps, told, ring⟩ := balanced
  refine ⟨?_, keeps, fun other member => ?_, ?_⟩
  · refine List.Perm.trans ?_ (lines.append_right [o.line])
    rw [List.perm_iff_count]
    intro line
    simp only [List.map_append, List.map_cons, List.map_nil, List.count_append]
    omega
  · rcases List.mem_append.mp member with there | own
    · exact told other there
    · obtain rfl := List.mem_singleton.mp own
      cases fits with
      | both event line same =>
        refine ⟨fun cli => Door.noConfusion cli, fun other held => ?_⟩
        cases held
        exact same
      | line door line silent => exact ⟨fun _ => silent, fun other held => by cases held⟩
  · rw [recorded_append]
    cases fits with
    | both event line same => rwa [recorded_open, recorded_nil, List.append_nil]
    | line door line silent =>
      rwa [recorded_done, silent, recorded_nil, Option.toList_none, List.append_nil, List.append_nil]

/-- An event that is recorded tells the ring what the line is to tell the log. -/
theorem balanced_record (balanced : Balanced b) {before after : List Owed} {door : Door} {event : AuditEvent}
    {line : Line} (now : ℤ) (turn : b.owed = before ++ ⟨door, some event, line⟩ :: after) :
    Balanced { b with
      owed := before ++ ⟨door, none, line⟩ :: after
      audit := b.audit.record event now
      heard := b.heard ++ [stamped b.heard event now] } := by
  obtain ⟨lines, keeps, told, ring⟩ := balanced
  obtain ⟨kept, heard⟩ := heard_record keeps event now
  have own := told _ (turn ▸ List.mem_append_right before List.mem_cons_self)
  refine ⟨?_, kept, fun o member => ?_, ?_⟩
  · rw [turn] at lines
    simpa only [List.map_append, List.map_cons] using lines
  · rcases List.mem_append.mp member with there | later
    · exact told o (turn ▸ List.mem_append_left _ there)
    · rcases List.mem_cons.mp later with rfl | there
      · exact ⟨own.1, fun other held => by cases held⟩
      · exact told o (turn ▸ List.mem_append_right _ (List.mem_cons_of_mem _ there))
  · rw [heard, own.2 event rfl, recorded_append, recorded_done]
    rw [turn, recorded_append, recorded_open] at ring
    refine (ring.append_right _).trans ?_
    rw [List.perm_iff_count]
    intro verdict
    simp only [List.count_append]
    omega

/-- A line that is left is owed no more. -/
theorem balanced_write (balanced : Balanced b) {before after : List Owed} {door : Door} {line : Line}
    (turn : b.owed = before ++ ⟨door, none, line⟩ :: after) :
    Balanced { b with owed := before ++ after, journal := b.journal ++ [line], since := b.since ++ [line] } := by
  obtain ⟨lines, keeps, told, ring⟩ := balanced
  refine ⟨?_, keeps, fun o member => ?_, ?_⟩
  · rw [turn] at lines
    refine List.Perm.trans ?_ lines
    rw [List.perm_iff_count]
    intro other
    simp only [List.map_append, List.map_cons, List.count_append, List.count_cons, List.count_nil]
    omega
  · exact told o (turn ▸ mem_owed member)
  · rw [turn, recorded_append, recorded_done] at ring
    refine ring.trans ?_
    rw [List.filterMap_append, filterMap_single, recorded_append, List.perm_iff_count]
    intro verdict
    simp only [List.count_append]
    omega

/-- A command line that is killed takes its line with it. -/
theorem balanced_killed (balanced : Balanced b) {before after : List Owed} {event : Option AuditEvent} {line : Line}
    (turn : b.owed = before ++ ⟨.cli, event, line⟩ :: after) :
    Balanced { b with owed := before ++ after, lost := b.lost ++ [line] } := by
  obtain ⟨lines, keeps, told, ring⟩ := balanced
  have own := told _ (turn ▸ List.mem_append_right before List.mem_cons_self)
  refine ⟨?_, keeps, fun o member => ?_, ?_⟩
  · rw [turn] at lines
    refine List.Perm.trans ?_ lines
    rw [List.perm_iff_count]
    intro other
    simp only [List.map_append, List.map_cons, List.count_append, List.count_cons, List.count_nil]
    omega
  · exact told o (turn ▸ mem_owed member)
  · rw [turn, recorded_append] at ring
    rw [recorded_append]
    cases event with
    | none =>
      rwa [recorded_done, own.1 rfl, Option.toList_none, List.nil_append] at ring
    | some event => rwa [recorded_open] at ring

/-- A restart begins a new ring, and takes what the dashboard had still to leave. -/
theorem balanced_restart (balanced : Balanced b) : Balanced { b with
    owed := b.owed.filter (·.door = .cli)
    audit := newAuditRing 512
    lost := b.lost ++ (b.owed.filter (·.door = .dashboard)).map Owed.line
    heard := []
    since := [] } := by
  obtain ⟨lines, keeps, told, ring⟩ := balanced
  refine ⟨?_, ⟨keeps_new 512, length_newAuditRing⟩, fun o member => told o (List.mem_of_mem_filter member), ?_⟩
  · refine List.Perm.trans ?_ lines
    have split_ := (List.filter_append_perm (fun o : Owed => decide (o.door = .cli)) b.owed).map Owed.line
    have rest : (fun o : Owed => !decide (o.door = .cli)) = fun o => decide (o.door = .dashboard) := by
      funext o
      cases o.door <;> rfl
    rw [rest, List.map_append, List.perm_iff_count] at split_
    rw [List.perm_iff_count]
    intro line
    have one := split_ line
    simp only [List.count_append] at one ⊢
    omega
  · rw [recorded_cli fun o member => (told o member).1]
    exact .refl _

theorem balanced_entry (balanced : Balanced b) (entry : Entry b b') : Balanced b' := by
  cases entry with
  | nothing => exact balanced
  | change o fits => exact balanced_change balanced fits
  | record before after door event line now turn => exact balanced_record balanced now turn
  | exported event now other =>
    obtain ⟨lines, keeps, told, ring⟩ := balanced
    obtain ⟨kept, heard⟩ := heard_record keeps event now
    refine ⟨lines, kept, told, ?_⟩
    rw [heard, other]
    simpa using ring
  | write before after door line turn => exact balanced_write balanced turn
  | killed before after event line turn => exact balanced_killed balanced turn
  | restart => exact balanced_restart balanced

end Balance

/-! ## Calls that do not overlap -/

section Order
variable {b b' : Books} {id : String}

end Order

section Runs
variable (env : Install.Environment)

theorem balanced_run (events : List Event) : Balanced (Trace.start.run env events).books := by
  refine @runSteps_invariant _ _ (Trace.step env) .start events (fun t => Balanced t.books)
    (fun t event balanced => balanced_entry balanced (entry_step event)) ?_
  exact ⟨.refl _, ⟨keeps_new 512, length_newAuditRing⟩, fun _ member => absurd member List.not_mem_nil, .refl _⟩

end Runs

/-! ## The doors -/

/-- Where two calls on an install overlap the log may end on the verdict that was lifted. -/
theorem line_overtaken (env : Install.Environment) {t : Trace} {id reason : String} {banned lifted : Database}
    (named : id ≠ "") (reasoned : boundReason reason ≠ "") (idle : t.state.owed = [])
    (first : writeStatus false id .banned t.state.db = some (true, banned))
    (second : writeStatus false id .active banned = some (true, lifted)) :
    let after := t.run env [.runBan false id reason, .runUnban false id "", .write 1, .write 0]
    standing id after.state.journal = .banned ∧ standing id after.promised = .active := by
  simp [Trace.run, Trace.step, Dashboard.step, runBan, runUnban, adminMutate, State.owes, State.write,
    promises, named, reasoned, idle, first, second, standing, verdictOn]

end AnselmGateway.AccessTrail
