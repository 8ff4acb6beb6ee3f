import AnselmGateway.LeaseSigner
import AnselmGateway.MediaSemantics

/-! Lease rows over every interleaving of calls. Whatever happens, a lease row stays, and
only its state and its deletion time change; and every row is one that a completion of its
owner has written. -/
namespace AnselmGateway.LeaseRows
open Foundation MediaFiles MediaStore MediaStoreSemantics Media MediaSemantics

/-! ## One operation -/

/-- The same lease, but for its state and its deletion time. -/
def SameTerms (l m : Lease) : Prop := m = { l with state := m.state, deletedAt := m.deletedAt }

theorem SameTerms.trans {l m n : Lease} (first : SameTerms l m) (second : SameTerms m n) : SameTerms l n := by
  rw [SameTerms, second, first]

theorem SameTerms.installID {l m : Lease} (same : SameTerms l m) : m.installID = l.installID := by rw [same]

theorem SameTerms.expiresAt {l m : Lease} (same : SameTerms l m) : m.expiresAt = l.expiresAt := by rw [same]

/-- Every lease row stays under its terms, and none appears. -/
structure Termed (before after : Database) : Prop where
  kept : ∀ id l, before.leases.table.get? id = some l →
    ∃ m, after.leases.table.get? id = some m ∧ SameTerms l m
  known : ∀ id m, after.leases.table.get? id = some m →
    ∃ l, before.leases.table.get? id = some l ∧ SameTerms l m

section Operations
variable {db after : Database}

theorem termed_same (same : after.leases = db.leases) : Termed db after :=
  ⟨fun _ l held => ⟨l, same ▸ held, rfl⟩, fun _ m held => ⟨m, same ▸ held, rfl⟩⟩

/-- An update of leases retires rows where they stand. -/
theorem termed_updateLeases {matching : String → Lease → Bool} {state : LeaseState}
    {deletedAt : Option ℤ} {count : ℕ} {middle : Database}
    (ran : updateLeases matching state deletedAt middle = .ok (count, after))
    (same : middle.leases = db.leases) : Termed db after := by
  have reads := (updateLeases_ok ran).2
  rw [same] at reads
  constructor
  · intro id l held
    rw [reads, held]
    refine ⟨_, rfl, ?_⟩
    dsimp only
    split <;> rfl
  · intro id m held
    rw [reads] at held
    obtain ⟨l, stored, rfl⟩ := Option.map_eq_some_iff.mp held
    refine ⟨l, stored, ?_⟩
    split <;> rfl

theorem termed_expire {now : ℤ} (ran : expire now db = .ok after) : Termed db after := by
  unfold expire at ran
  generalize updated : updateUploads _ _ db = outcome at ran
  rcases outcome with refusal | ⟨n, closed⟩
  · cases ran
  · simp only [bind, Except.bind] at ran
    generalize retired : updateLeases _ _ _ closed = outcome at ran
    rcases outcome with refusal | ⟨m, finish⟩
    · cases ran
    · cases ran
      exact termed_updateLeases retired (updateUploads_ok updated).2.2

theorem termed_acknowledgeRemoved {uploadID : String} {now : ℤ}
    (ran : acknowledgeRemoved uploadID now db = .ok after) : Termed db after := by
  unfold acknowledgeRemoved at ran
  dsimp only at ran
  split at ran
  · cases ran
    exact termed_same rfl
  · simp only [bind, Except.bind] at ran
    generalize retired : updateLeases _ _ _ _ = outcome at ran
    rcases outcome with refusal | ⟨m, finish⟩
    · cases ran
    · cases ran
      exact termed_updateLeases retired rfl

theorem termed_revokeLease {installID leaseID : String} {revoked : Bool}
    (ran : revokeLease installID leaseID db = .ok (revoked, after)) : Termed db after := by
  unfold revokeLease at ran
  generalize retired : updateLeases _ _ _ db = outcome at ran
  rcases outcome with refusal | ⟨m, finish⟩
  · cases ran
  · cases ran
    exact termed_updateLeases retired rfl

end Operations

/-! ## One turn -/

variable {env : Environment} {turn : Turn} {world after : World} {proc : Proc}

/-- A turn keeps the rows there are, and adds at most the one that a completion seals. -/
structure Leased (env : Environment) (turn : Turn) (proc : Proc) (before after : Database) : Prop where
  kept : ∀ id l, before.leases.table.get? id = some l →
    ∃ m, after.leases.table.get? id = some m ∧ SameTerms l m
  made : ∀ id m, after.leases.table.get? id = some m →
    (∃ l, before.leases.table.get? id = some l ∧ SameTerms l m) ∨
      ∃ c sha size, proc = .completeSeal c sha size ∧ id = turn.leaseID ∧ m = newLease env turn c sha size

theorem Termed.leased {before after : Database} (termed : Termed before after) :
    Leased env turn proc before after :=
  ⟨termed.kept, fun id m held => .inl (termed.known id m held)⟩

theorem leased_refl (db : Database) : Leased env turn proc db db := (termed_same rfl).leased

theorem leased_file {operation : Files → Except FileError Files} {ok : Bool}
    (ran : fileStep turn operation world = (ok, after)) : Leased env turn proc world.db after.db := by
  rcases fileStep_cases ran with ⟨_, rfl⟩ | ⟨_, files, _, rfl⟩
  · exact leased_refl _
  · exact leased_refl _

theorem leased_statement {α : Type} {operation : Database → Except Refusal (α × Database)}
    {answer : Option α} (ran : statement turn operation world = (answer, after))
    (each : ∀ value db, operation world.db = .ok (value, db) → Leased env turn proc world.db db) :
    Leased env turn proc world.db after.db := by
  rcases statement_cases ran with ⟨_, rfl⟩ | ⟨value, db, _, ok, rfl⟩
  · exact leased_refl _
  · exact each value db ok

theorem leased_execute {operation : Database → Except Refusal Database} {answer : Option Unit}
    (ran : execute turn operation world = (answer, after))
    (each : ∀ db, operation world.db = .ok db → Leased env turn proc world.db db) :
    Leased env turn proc world.db after.db := by
  rcases execute_cases ran with ⟨_, rfl⟩ | ⟨_, db, ok, rfl⟩
  · exact leased_refl _
  · exact each db ok

/-- Sealing an upload adds the one lease, or nothing. -/
theorem leased_completeUpload {c : CompleteCall} {sha : String} {size : ℕ} {completed : Bool} {db : Database}
    (ran : completeUpload c.installID c.uploadID sha turn.now turn.leaseID (newLease env turn c sha size)
      world.db = .ok (completed, db)) : Leased env turn (.completeSeal c sha size) world.db db := by
  obtain ⟨lost, won⟩ := completeUpload_ok ran
  cases completed with
  | false => exact (termed_same (lost rfl).2).leased
  | true =>
    obtain ⟨_, _, _, _, _, _, fresh, leases⟩ := won rfl
    constructor
    · intro id l held
      have apart : id ≠ turn.leaseID := by
        rintro rfl
        rw [fresh] at held
        cases held
      rw [leases, if_neg apart]
      exact ⟨l, held, rfl⟩
    · intro id m held
      rw [leases] at held
      split at held
      · rename_i here
        cases held
        exact .inr ⟨c, sha, size, rfl, here, rfl⟩
      · exact .inl ⟨m, held, rfl⟩

theorem createStep_leased : Leased env turn proc world.db (createStep turn world proc).world.db := by
  cases proc with
  | createFile uploadID row =>
    simp only [createStep]
    split
    · exact leased_file ‹_›
    · exact leased_file ‹_›
  | createRecord uploadID row =>
    simp only [createStep]
    split
    all_goals
      refine leased_execute ‹_› fun db ok => ?_
      exact (termed_same (createUpload_ok ok).2.1).leased
  | createUndo uploadID => exact leased_file rfl
  | _ => exact leased_refl _

theorem appendStep_leased : Leased env turn proc world.db (appendStep turn world proc).world.db := by
  cases proc with
  | appendRead installID uploadID offset chunk =>
    simp only [appendStep]
    repeat' split
    all_goals exact leased_refl _
  | appendSize c =>
    simp only [appendStep]
    repeat' split
    all_goals exact leased_refl _
  | appendRepair c =>
    simp only [appendStep]
    split
    · exact leased_file ‹_›
    · split
      · exact leased_file ‹_›
      · exact leased_file ‹_›
  | appendWrite c =>
    simp only [appendStep]
    split
    · exact leased_file ‹_›
    · exact leased_file ‹_›
  | appendAdvance c =>
    simp only [appendStep]
    split
    all_goals
      refine leased_statement ‹_› fun advanced db ok => ?_
      exact (termed_same (advanceReceived_ok ok).1).leased
  | appendUndo c error => exact leased_file rfl
  | _ => exact leased_refl _

theorem completeStep_leased : Leased env turn proc world.db (completeStep env turn world proc).world.db := by
  cases proc with
  | completeRead installID uploadID =>
    simp only [completeStep]
    repeat' split
    all_goals exact leased_refl _
  | completeHash c =>
    simp only [completeStep]
    repeat' split
    all_goals exact leased_refl _
  | completeSniff c sha size =>
    simp only [completeStep]
    repeat' split
    all_goals exact leased_refl _
  | completeSeal c sha size =>
    simp only [completeStep]
    split
    all_goals exact leased_statement ‹_› fun completed db ok => leased_completeUpload ok
  | completeReport installID leaseID =>
    simp only [completeStep]
    split
    all_goals exact leased_refl _
  | _ => exact leased_refl _

theorem cancelStep_leased : Leased env turn proc world.db (cancelStep turn world proc).world.db := by
  cases proc with
  | cancelRead installID uploadID =>
    simp only [cancelStep]
    repeat' split
    all_goals exact leased_refl _
  | cancelAbort installID uploadID now =>
    simp only [cancelStep]
    split
    all_goals
      refine leased_statement ‹_› fun aborted db ok => ?_
      exact (termed_same (abortOpen_ok ok).2.1).leased
  | cancelResolve installID uploadID =>
    simp only [cancelStep]
    repeat' split
    all_goals exact leased_refl _
  | cancelRemove uploadID =>
    simp only [cancelStep]
    split
    · exact leased_file ‹_›
    · exact leased_file ‹_›
  | _ => exact leased_refl _

theorem recoverStep_leased : Leased env turn proc world.db (recoverStep turn world proc).world.db := by
  cases proc with
  | recoverExpire =>
    simp only [recoverStep]
    split
    all_goals exact leased_execute ‹_› fun db ok => (termed_expire ok).leased
  | recoverOpen now =>
    simp only [recoverStep]
    split
    all_goals exact leased_refl _
  | recoverSize now open_ =>
    cases open_ with
    | nil =>
      simp only [recoverStep]
      split
      all_goals exact leased_refl _
    | cons row rest =>
      simp only [recoverStep]
      repeat' split
      all_goals exact leased_refl _
  | recoverClose now uploadID rest =>
    simp only [recoverStep]
    split
    all_goals exact leased_execute ‹_› fun db ok => (termed_same (expireOpen_ok ok).2).leased
  | recoverTruncate now uploadID u rest =>
    simp only [recoverStep]
    split
    · exact leased_file ‹_›
    · exact leased_file ‹_›
  | recoverRemove now ids =>
    cases ids with
    | nil => exact leased_refl _
    | cons uploadID rest =>
      simp only [recoverStep]
      split
      · exact leased_file ‹_›
      · exact leased_file ‹_›
  | recoverAcknowledge now uploadID rest =>
    simp only [recoverStep]
    split
    all_goals exact leased_execute ‹_› fun db ok => (termed_acknowledgeRemoved ok).leased
  | _ => exact leased_refl _

theorem leaseStep_leased : Leased env turn proc world.db (leaseStep env turn world proc).world.db := by
  cases proc with
  | leaseRead owner leaseID token =>
    simp only [leaseStep]
    repeat' split
    all_goals exact leased_refl _
  | leaseOpen lease =>
    simp only [leaseStep]
    split
    all_goals exact leased_refl _
  | leaseServe lease taken =>
    simp only [leaseStep]
    split
    all_goals exact leased_refl _
  | revoke installID leaseID =>
    simp only [leaseStep]
    split
    all_goals exact leased_statement ‹_› fun revoked db ok => (termed_revokeLease ok).leased
  | _ => exact leased_refl _

/-- Every turn of every call. -/
theorem turnOf_leased : Leased env turn proc world.db (turnOf env turn world proc).world.db := by
  cases proc with
  | done => exact leased_refl _
  | createFile | createRecord | createUndo => exact createStep_leased
  | appendRead | appendSize | appendRepair | appendWrite | appendAdvance | appendUndo =>
    exact appendStep_leased
  | completeRead | completeHash | completeSniff | completeSeal | completeReport => exact completeStep_leased
  | cancelRead | cancelAbort | cancelResolve | cancelRemove => exact cancelStep_leased
  | leaseRead | leaseOpen | leaseServe | revoke => exact leaseStep_leased
  | _ => exact recoverStep_leased

/-! ## Whose completion it is -/

/-- The owner that a completion in flight acts for. -/
def completing : Proc → Option String
  | .completeRead installID _ => some installID
  | .completeHash c | .completeSniff c _ _ | .completeSeal c _ _ => some c.installID
  | _ => none

/-- A turn of a completion stays with its owner, and no other call becomes one. -/
theorem completing_turn {installID : String}
    (acts : completing (turnOf env turn world proc).proc = some installID) : completing proc = some installID := by
  cases proc with
  | completeRead owner uploadID =>
    simp only [turnOf, completeStep] at acts
    repeat' split at acts
    all_goals first | exact acts | cases acts
  | completeHash c =>
    simp only [turnOf, completeStep] at acts
    repeat' split at acts
    all_goals first | exact acts | cases acts
  | completeSniff c sha size =>
    simp only [turnOf, completeStep] at acts
    repeat' split at acts
    all_goals first | exact acts | cases acts
  | completeSeal c sha size =>
    simp only [turnOf, completeStep] at acts
    repeat' split at acts
    all_goals cases acts
  | _ =>
    simp only [turnOf, createStep, appendStep, completeStep, cancelStep, recoverStep, leaseStep] at acts
    repeat' split at acts
    all_goals cases acts

/-! ## Runs -/

/-- The shared state and the calls in flight after a list of events. -/
def later (env : Environment) (state : State) (events : List Event) : State :=
  runSteps (fun state event => (step env state event).2) state events

/-- `MediaLeaseID` over the bytes it draws. -/
def mediaLeaseID (random : Bytes) : String := "mls_" ++ LeaseSigner.hexString random

/-- The lease ids of a run are drawn. -/
def Drawn : Event → Prop
  | .turn _ turn => ∃ random, turn.leaseID = mediaLeaseID random
  | _ => True

/-- A lease row under a drawn id that a completion has written, for an owner with a name,
and that has kept its terms since. -/
def Made (env : Environment) (leaseID : String) (lease : Lease) : Prop :=
  ∃ turn c sha size, turn.leaseID = leaseID ∧ (∃ random, leaseID = mediaLeaseID random) ∧
    blank c.installID = false ∧ SameTerms (newLease env turn c sha size) lease

/-- All lease rows were written by completions, and the completions in flight have named
owners. -/
structure Authored (env : Environment) (state : State) : Prop where
  leases : ∀ id l, getLease id state.world.db = some l → Made env id l
  owners : ∀ proc ∈ state.procs, ∀ installID, completing proc = some installID → blank installID = false

/-- A lease row is there for good, under its terms. -/
theorem kept_step {state : State} (event : Event) {id : String} {l : Lease}
    (held : getLease id state.world.db = some l) :
    ∃ m, getLease id (step env state event).2.world.db = some m ∧ SameTerms l m := by
  cases event with
  | arrive now call =>
    simp only [step]
    split
    · exact ⟨l, held, rfl⟩
    · exact ⟨l, held, rfl⟩
  | turn index turn =>
    simp only [step]
    split
    · exact ⟨l, held, rfl⟩
    · exact turnOf_leased.kept id l held
  | crash => exact ⟨l, held, rfl⟩

theorem kept_later {state : State} (events : List Event) {id : String} {l : Lease}
    (held : getLease id state.world.db = some l) :
    ∃ m, getLease id (later env state events).world.db = some m ∧ SameTerms l m := by
  induction events generalizing state l with
  | nil => exact ⟨l, held, rfl⟩
  | cons event rest ih =>
    obtain ⟨m, next, same⟩ := kept_step event held
    obtain ⟨n, last, same'⟩ := ih next
    exact ⟨n, last, same.trans same'⟩

/-- A completion begins only for a named owner. -/
theorem completing_begun {now : ℤ} {call : Call} {installID : String}
    (begun : begin_ env now call = .inl proc) (acts : completing proc = some installID) :
    blank installID = false := by
  cases call with
  | complete owner uploadID =>
    simp only [begin_] at begun
    split at begun
    · cases begun
    · rename_i named
      cases begun
      cases acts
      simp only [Bool.or_eq_true, not_or, Bool.not_eq_true] at named
      exact named.1
  | openLease owner leaseID token =>
    cases owner with
    | none =>
      cases begun
      cases acts
    | some owner =>
      simp only [begin_] at begun
      split at begun
      · cases begun
      · cases begun
        cases acts
  | _ =>
    simp only [begin_] at begun
    first
    | cases begun
      cases acts
    | split at begun
      · cases begun
      · cases begun
        cases acts

theorem authored_step {state : State} {event : Event} (authored : Authored env state) (drawn : Drawn event) :
    Authored env (step env state event).2 := by
  cases event with
  | arrive now call =>
    simp only [step]
    split
    · rename_i proc begun
      refine ⟨authored.leases, ?_⟩
      intro other member installID acts
      rcases List.mem_append.mp member with before | new
      · exact authored.owners other before installID acts
      · obtain rfl := List.mem_singleton.mp new
        exact completing_begun begun acts
    · exact authored
  | turn index turn =>
    simp only [step]
    split
    · exact authored
    · rename_i proc running
      have owner := authored.owners proc (List.mem_of_getElem? running)
      constructor
      · intro id m held
        rcases turnOf_leased.made id m held with ⟨l, before, same⟩ | ⟨c, sha, size, rfl, rfl, rfl⟩
        · obtain ⟨turn, c, sha, size, here, random, named, made⟩ := authored.leases id l before
          exact ⟨turn, c, sha, size, here, random, named, made.trans same⟩
        · exact ⟨turn, c, sha, size, rfl, drawn, owner c.installID rfl, rfl⟩
      · intro other member installID acts
        rcases List.mem_or_eq_of_mem_set member with before | rfl
        · exact authored.owners other before installID acts
        · exact owner installID (completing_turn acts)
  | crash => exact ⟨authored.leases, fun proc member => absurd member List.not_mem_nil⟩

/-- In every reachable state, every lease row was written by a completion. -/
theorem authored_later {events : List Event} (drawn : ∀ event ∈ events, Drawn event) :
    Authored env (later env .initial events) := by
  have initial : Authored env .initial := by
    constructor
    · intro id l held
      cases held
    · intro proc member
      cases member
  exact runSteps_invariant_of (fun _ _ drawn authored => authored_step authored drawn) initial drawn

end AnselmGateway.LeaseRows
