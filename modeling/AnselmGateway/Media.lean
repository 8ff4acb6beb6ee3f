import AnselmGateway.Foundation.Run
import AnselmGateway.MediaFiles
import AnselmGateway.MediaStore

/-! Resumable media staging, `internal/app/media`, as calls in flight over one
database and one staging area. A call is a program that stops between any two of
its database and file operations, so a run of turns is an interleaving of calls.
A crash of the process ends every call between two operations. -/
namespace AnselmGateway.Media
open Foundation MediaFiles MediaStore

/-- `Limits`, all positive as `New` requires. -/
structure Limits where
  maxBytes : ℕ
  uploadTTL : ℤ
  leaseTTL : ℤ
  positive : 0 < maxBytes ∧ 0 < uploadTTL ∧ 0 < leaseTTL

/-- What the use case is given: the hex SHA-256 of bytes, `HashSecret`, the fetch
signer, and its limits. -/
structure Environment where
  sha256 : Bytes → String
  hashSecret : String → String
  token : String → String → ℤ → String
  verify : String → String → String → ℤ → Bool
  limits : Limits

inductive MediaError where
  | invalidInput
  | notFound
  | conflict
  | integrity
  /-- A failed file operation or statement, wrapped. -/
  | failed
  deriving DecidableEq, Repr

/-- `ValidSHA256`. -/
def validSHA256 (v : String) : Bool :=
  let bytes := utf8 v
  decide (bytes.length = 64) && bytes.all fun c =>
    (decide (48 ≤ c) && decide (c ≤ 57)) || (decide (97 ≤ c) && decide (c ≤ 102))

/-- `supportedMIME`. -/
def supportedMIME (v : String) : Bool :=
  ["image/jpeg", "image/png", "image/webp", "video/mp4", "audio/wav", "audio/mpeg"].contains v

/-- The shared state under all calls. -/
structure World where
  db : Database
  files : Files

/-! ## Calls -/

/-- The requests of the use case. The upload id of `create` is the one `idgen`
draws; `openLease` names an owner when it is `OpenLeaseForInstall`. -/
inductive Call where
  | create (uploadID installID expectedSHA256 mimeType : String) (totalBytes : ℤ)
  | append (installID uploadID : String) (expectedOffset : ℤ) (chunk : Bytes)
  | complete (installID uploadID : String)
  | cancel (installID uploadID : String)
  | recover
  | openLease (owner : Option String) (leaseID token : String)
  | revokeSample (installID leaseID : String)

/-- An append, once it has read its upload. -/
structure AppendCall where
  installID : String
  uploadID : String
  upload : Upload
  chunk : Bytes

/-- A completion, once it has read its upload. -/
structure CompleteCall where
  installID : String
  uploadID : String
  upload : Upload

/-- Where a call in flight stands: the operation it makes next, and what it
holds from the earlier ones. -/
inductive Proc where
  | done
  | createFile (uploadID : String) (row : Upload)
  | createRecord (uploadID : String) (row : Upload)
  | createUndo (uploadID : String)
  | appendRead (installID uploadID : String) (expectedOffset : ℤ) (chunk : Bytes)
  | appendSize (c : AppendCall)
  | appendRepair (c : AppendCall)
  | appendWrite (c : AppendCall)
  | appendAdvance (c : AppendCall)
  | appendUndo (c : AppendCall) (error : MediaError)
  | completeRead (installID uploadID : String)
  | completeHash (c : CompleteCall)
  | completeSniff (c : CompleteCall) (sha : String) (size : ℕ)
  | completeSeal (c : CompleteCall) (sha : String) (size : ℕ)
  | completeReport (installID leaseID : String)
  | cancelRead (installID uploadID : String)
  | cancelAbort (installID uploadID : String) (now : ℤ)
  | cancelResolve (installID uploadID : String)
  | cancelRemove (uploadID : String)
  | recoverExpire
  | recoverOpen (now : ℤ)
  | recoverSize (now : ℤ) (open_ : List (String × Upload))
  | recoverClose (now : ℤ) (uploadID : String) (rest : List (String × Upload))
  | recoverTruncate (now : ℤ) (uploadID : String) (u : Upload) (rest : List (String × Upload))
  | recoverRemove (now : ℤ) (ids : List String)
  | recoverAcknowledge (now : ℤ) (uploadID : String) (rest : List String)
  | leaseRead (owner : Option String) (leaseID token : String)
  | leaseOpen (lease : Lease)
  | leaseServe (lease : Lease) (taken : Bytes)
  | revoke (installID leaseID : String)

/-- What a call tells its caller. -/
inductive Reply where
  | created (uploadID : String)
  | appended (uploadID : String) (chunk : Bytes)
  | completed (leaseID : String)
  | cancelled
  | recovered
  | served (lease : Lease) (body : Bytes)
  | revoked
  | failed (error : MediaError)

/-- How one operation goes: through, refused without effect, or reported as
failed after its effect. A late write has stored, and a late read has got, only so
many bytes. -/
inductive Outcome where
  | through
  | refused
  | late (bytes : ℕ)
  deriving DecidableEq, Repr

/-- One turn of a call: the clock reading it takes, the lease id it would draw,
and how its operation goes. -/
structure Turn where
  now : ℤ
  leaseID : String
  outcome : Outcome

/-- What a turn leaves: the call where it now stands, the shared state, and an
answer if the call has one. -/
structure Result where
  proc : Proc
  world : World
  reply : Option Reply

section Steps
variable (env : Environment)

def stay (world : World) (proc : Proc) : Result := ⟨proc, world, none⟩

def finish (world : World) (reply : Reply) : Result := ⟨.done, world, some reply⟩

def fail (world : World) (error : MediaError) : Result := finish world (.failed error)

/-- A file operation: whether it is reported as done, and the files it leaves. -/
def fileStep (turn : Turn) (operation : Files → Except FileError Files) (world : World) :
    Bool × World :=
  match turn.outcome, operation world.files with
  | .through, .ok files => (true, { world with files := files })
  | .late _, .ok files => (false, { world with files := files })
  | _, _ => (false, world)

/-- A look at the files. -/
def fileRead {α : Type} (turn : Turn) (operation : Files → Except FileError α) (world : World) :
    Except FileError α :=
  match turn.outcome with
  | .through => operation world.files
  | _ => .error .io

/-- A statement or transaction, with or without an answer of its own. One that
reports a failure has had no effect. -/
def statement {α : Type} (turn : Turn) (operation : Database → Except Refusal (α × Database))
    (world : World) : Option α × World :=
  match turn.outcome, operation world.db with
  | .through, .ok (answer, db) => (some answer, { world with db := db })
  | _, _ => (none, world)

def execute (turn : Turn) (operation : Database → Except Refusal Database) (world : World) :
    Option Unit × World :=
  statement turn (fun db => (operation db).map fun after => ((), after)) world

/-- A query. -/
def query {α : Type} (turn : Turn) (operation : Database → α) (world : World) : Option α :=
  match turn.outcome with
  | .through => some (operation world.db)
  | _ => none

/-- `openOwned`, on the row its query found. -/
def openOwned (now : ℤ) : Option Upload → Except MediaError Upload
  | none => .error .notFound
  | some u => if u.state ≠ .open ∨ ¬now < u.expiresAt then .error .conflict else .ok u

/-- The row `Create` would record. -/
def newUpload (now : ℤ) (installID expectedSHA256 mimeType : String) (totalBytes : ℕ) : Upload where
  installID := installID
  expectedSHA256 := expectedSHA256
  mimeType := mimeType
  totalBytes := totalBytes
  receivedBytes := 0
  state := .open
  expiresAt := now + env.limits.uploadTTL
  createdAt := now
  updatedAt := now
  completedAt := none

/-- The checks a call makes before its first operation. -/
def begin_ (now : ℤ) : Call → Proc ⊕ MediaError
  | .create uploadID installID expectedSHA256 mimeType totalBytes =>
    if blank installID || !validSHA256 expectedSHA256 || !supportedMIME mimeType ||
        decide (totalBytes ≤ 0) || decide (totalBytes > env.limits.maxBytes) then .inr .invalidInput
    else .inl (.createFile uploadID
      (newUpload env now installID expectedSHA256 mimeType totalBytes.toNat))
  | .append installID uploadID expectedOffset chunk =>
    if decide (expectedOffset < 0) || decide (chunk = []) ||
        decide (chunk.length > env.limits.maxBytes) || blank installID || blank uploadID then
      .inr .invalidInput
    else .inl (.appendRead installID uploadID expectedOffset chunk)
  | .complete installID uploadID =>
    if blank installID || blank uploadID then .inr .invalidInput
    else .inl (.completeRead installID uploadID)
  | .cancel installID uploadID =>
    if blank installID || blank uploadID then .inr .invalidInput
    else .inl (.cancelRead installID uploadID)
  | .recover => .inl .recoverExpire
  | .openLease none leaseID token => .inl (.leaseRead none leaseID token)
  | .openLease (some installID) leaseID token =>
    if blank installID || blank leaseID || token = "" then .inr .notFound
    else .inl (.leaseRead (some installID) leaseID token)
  | .revokeSample installID leaseID => .inl (.revoke installID leaseID)

/-! ## The steps of each call -/

/-- `Create`: the file first, then its row; a row that fails takes the file
along. -/
def createStep (turn : Turn) (world : World) : Proc → Result
  | .createFile uploadID row =>
    match fileStep turn (create uploadID) world with
    | (true, world) => stay world (.createRecord uploadID row)
    | (false, world) => fail world .failed
  | .createRecord uploadID row =>
    match execute turn (createUpload uploadID row) world with
    | (some (), world) => finish world (.created uploadID)
    | (none, world) => stay world (.createUndo uploadID)
  | .createUndo uploadID => fail (fileStep turn (remove uploadID) world).2 .failed
  | other => stay world other

/-- What a write of the chunk stores. -/
def writtenBytes (turn : Turn) (chunk : Bytes) : Bytes :=
  match turn.outcome with
  | .late bytes => chunk.take bytes
  | _ => chunk

/-- `Append`. A failed or lost compare-and-set takes back the bytes past the
cursor this call has read. -/
def appendStep (turn : Turn) (world : World) : Proc → Result
  | .appendRead installID uploadID expectedOffset chunk =>
    match query turn (getUploadForInstall installID uploadID) world with
    | none => fail world .failed
    | some row =>
      match openOwned turn.now row with
      | .error error => fail world error
      | .ok u =>
        if (u.receivedBytes : ℤ) ≠ expectedOffset then fail world .conflict
        else stay world (.appendSize ⟨installID, uploadID, u, chunk⟩)
  | .appendSize c =>
    match fileRead turn (size c.uploadID) world with
    | .error _ => fail world .failed
    | .ok physical =>
      if physical < c.upload.receivedBytes then fail world .integrity
      else if physical > c.upload.receivedBytes then stay world (.appendRepair c)
      else if c.upload.receivedBytes + c.chunk.length > c.upload.totalBytes then
        fail world .invalidInput
      else stay world (.appendWrite c)
  | .appendRepair c =>
    match fileStep turn (truncate c.uploadID c.upload.receivedBytes) world with
    | (false, world) => fail world .failed
    | (true, world) =>
      if c.upload.receivedBytes + c.chunk.length > c.upload.totalBytes then fail world .invalidInput
      else stay world (.appendWrite c)
  | .appendWrite c =>
    match fileStep turn (append c.uploadID c.upload.receivedBytes (writtenBytes turn c.chunk)) world with
    | (false, world) => fail world .failed
    | (true, world) => stay world (.appendAdvance c)
  | .appendAdvance c =>
    match statement turn (advanceReceived c.installID c.uploadID c.upload.receivedBytes
        (c.upload.receivedBytes + c.chunk.length) turn.now) world with
    | (none, world) => stay world (.appendUndo c .failed)
    | (some false, world) => stay world (.appendUndo c .conflict)
    | (some true, world) => finish world (.appended c.uploadID c.chunk)
  | .appendUndo c error =>
    fail (fileStep turn (truncate c.uploadID c.upload.receivedBytes) world).2 error
  | other => stay world other

/-- The lease `Complete` would record. -/
def newLease (turn : Turn) (c : CompleteCall) (sha : String) (size : ℕ) : Lease :=
  let expiresAt := turn.now + env.limits.leaseTTL
  { installID := c.installID
    uploadID := c.uploadID
    sha256 := sha
    mimeType := c.upload.mimeType
    sizeBytes := size
    fetchTokenHash := env.hashSecret (env.token turn.leaseID c.installID expiresAt)
    state := .active
    expiresAt := expiresAt
    createdAt := turn.now
    deletedAt := none }

/-- `Complete`: hash and sniff the file, seal upload and lease together, then read
the lease back. -/
def completeStep (turn : Turn) (world : World) : Proc → Result
  | .completeRead installID uploadID =>
    match query turn (getUploadForInstall installID uploadID) world with
    | none => fail world .failed
    | some row =>
      match openOwned turn.now row with
      | .error error => fail world error
      | .ok u =>
        if u.receivedBytes ≠ u.totalBytes then fail world .conflict
        else stay world (.completeHash ⟨installID, uploadID, u⟩)
  | .completeHash c =>
    match fileRead turn (fun files => files.read c.uploadID) world with
    | .error _ => fail world .failed
    | .ok bytes =>
      if bytes.length ≠ c.upload.totalBytes ∨ env.sha256 bytes ≠ c.upload.expectedSHA256 then
        fail world .integrity
      else stay world (.completeSniff c (env.sha256 bytes) bytes.length)
  | .completeSniff c sha size =>
    match fileRead turn (mimeType c.uploadID) world with
    | .error _ => fail world .integrity
    | .ok actual =>
      if actual ≠ c.upload.mimeType then fail world .integrity
      else stay world (.completeSeal c sha size)
  | .completeSeal c sha size =>
    match statement turn (completeUpload c.installID c.uploadID sha turn.now turn.leaseID
        (newLease env turn c sha size)) world with
    | (none, world) => fail world .failed
    | (some false, world) => fail world .conflict
    | (some true, world) => stay world (.completeReport c.installID turn.leaseID)
  | .completeReport installID leaseID =>
    match query turn (getLeaseForInstall installID leaseID) world with
    | none => fail world .failed
    | some none => fail world .conflict
    | some (some _) => finish world (.completed leaseID)
  | other => stay world other

/-- `Cancel`: the row is aborted before the file goes. -/
def cancelStep (turn : Turn) (world : World) : Proc → Result
  | .cancelRead installID uploadID =>
    match query turn (getUploadForInstall installID uploadID) world with
    | none => fail world .failed
    | some none => fail world .notFound
    | some (some u) =>
      if u.state = .aborted then stay world (.cancelRemove uploadID)
      else if u.state ≠ .open ∨ ¬turn.now < u.expiresAt then fail world .conflict
      else stay world (.cancelAbort installID uploadID turn.now)
  | .cancelAbort installID uploadID now =>
    match statement turn (abortOpen installID uploadID now) world with
    | (none, world) => fail world .failed
    | (some true, world) => stay world (.cancelRemove uploadID)
    | (some false, world) => stay world (.cancelResolve installID uploadID)
  | .cancelResolve installID uploadID =>
    match query turn (getUploadForInstall installID uploadID) world with
    | none => fail world .failed
    | some none => fail world .notFound
    | some (some u) =>
      if u.state ≠ .aborted then fail world .conflict else stay world (.cancelRemove uploadID)
  | .cancelRemove uploadID =>
    match fileStep turn (remove uploadID) world with
    | (true, world) => finish world .cancelled
    | (false, world) => fail world .failed
  | other => stay world other

/-- `Recover`: expire, repair each upload that is still open, then remove the
files of what has expired. -/
def recoverStep (turn : Turn) (world : World) : Proc → Result
  | .recoverExpire =>
    match execute turn (expire turn.now) world with
    | (none, world) => fail world .failed
    | (some (), world) => stay world (.recoverOpen turn.now)
  | .recoverOpen now =>
    match query turn openUploads world with
    | none => fail world .failed
    | some open_ => stay world (.recoverSize now open_)
  | .recoverSize now ((uploadID, u) :: rest) =>
    match fileRead turn (size uploadID) world with
    | .error .notExist => stay world (.recoverClose now uploadID rest)
    | .error _ => fail world .failed
    | .ok physical =>
      if physical < u.receivedBytes then stay world (.recoverClose now uploadID rest)
      else if physical > u.receivedBytes then
        stay world (.recoverTruncate now uploadID u rest)
      else stay world (.recoverSize now rest)
  | .recoverSize now [] =>
    match query turn expiredFileIDs world with
    | none => fail world .failed
    | some ids => stay world (.recoverRemove now ids)
  | .recoverClose now uploadID rest =>
    match execute turn (expireOpen uploadID now) world with
    | (none, world) => fail world .failed
    | (some (), world) => stay world (.recoverSize now rest)
  | .recoverTruncate now uploadID u rest =>
    match fileStep turn (truncate uploadID u.receivedBytes) world with
    | (false, world) => fail world .failed
    | (true, world) => stay world (.recoverSize now rest)
  | .recoverRemove now (uploadID :: rest) =>
    match fileStep turn (remove uploadID) world with
    | (false, world) => fail world .failed
    | (true, world) => stay world (.recoverAcknowledge now uploadID rest)
  | .recoverRemove _ [] => finish world .recovered
  | .recoverAcknowledge now uploadID rest =>
    match execute turn (acknowledgeRemoved uploadID now) world with
    | (none, world) => fail world .failed
    | (some (), world) => stay world (.recoverRemove now rest)
  | other => stay world other

/-- Whether a lease may be opened under this token, by this owner if one is
named. -/
def mayOpen (now : ℤ) (owner : Option String) (leaseID token : String) (lease : Lease) : Bool :=
  owner.all (fun installID => decide (lease.installID = installID)) &&
    decide (lease.state = .active) && decide (now < lease.expiresAt) &&
    env.verify token leaseID lease.installID lease.expiresAt &&
    decide (env.hashSecret token = lease.fetchTokenHash)

/-- `OpenLease` and `OpenLeaseForInstall`, to the end of the body. Its reader holds
the file open, and may read it piece by piece. -/
def leaseStep (turn : Turn) (world : World) : Proc → Result
  | .leaseRead owner leaseID token =>
    match query turn (getLease leaseID) world with
    | none => fail world .failed
    | some none => fail world .notFound
    | some (some lease) =>
      if mayOpen env turn.now owner leaseID token lease then stay world (.leaseOpen lease)
      else fail world .notFound
  | .leaseOpen lease =>
    match fileRead turn (fun files => files.read lease.uploadID) world with
    | .error _ => fail world .failed
    | .ok _ => stay world (.leaseServe lease [])
  | .leaseServe lease taken =>
    match world.files lease.uploadID, turn.outcome with
    | some file, .through => finish world (.served lease (taken ++ file.bytes.drop taken.length))
    | some file, .late bytes =>
      stay world (.leaseServe lease (taken ++ (file.bytes.drop taken.length).take bytes))
    | _, _ => fail world .failed
  | .revoke installID leaseID =>
    match statement turn (revokeLease installID leaseID) world with
    | (none, world) => fail world .failed
    | (some _, world) => finish world .revoked
  | other => stay world other

/-- The next operation of a call in flight. -/
def turnOf (turn : Turn) (world : World) (proc : Proc) : Result :=
  match proc with
  | .done => stay world .done
  | .createFile .. | .createRecord .. | .createUndo .. => createStep turn world proc
  | .appendRead .. | .appendSize .. | .appendRepair .. | .appendWrite .. | .appendAdvance ..
  | .appendUndo .. => appendStep turn world proc
  | .completeRead .. | .completeHash .. | .completeSniff .. | .completeSeal ..
  | .completeReport .. =>
    completeStep env turn world proc
  | .cancelRead .. | .cancelAbort .. | .cancelResolve .. | .cancelRemove .. =>
    cancelStep turn world proc
  | .recoverExpire | .recoverOpen .. | .recoverSize .. | .recoverClose .. | .recoverTruncate ..
  | .recoverRemove .. | .recoverAcknowledge .. => recoverStep turn world proc
  | .leaseRead .. | .leaseOpen .. | .leaseServe .. | .revoke .. => leaseStep env turn world proc

/-! ## Runs -/

/-- The calls in flight over the shared state. -/
structure State where
  world : World
  procs : List Proc

def State.initial : State := ⟨⟨.empty, fun _ => none⟩, []⟩

/-- What happens next: a call arrives, one in flight takes a turn, or the process
dies and takes every call with it. -/
inductive Event where
  | arrive (now : ℤ) (call : Call)
  | turn (index : ℕ) (turn : Turn)
  | crash

def step (state : State) : Event → Option Reply × State
  | .arrive now call =>
    match begin_ env now call with
    | .inl proc => (none, { state with procs := state.procs ++ [proc] })
    | .inr error => (some (.failed error), state)
  | .turn index turn =>
    match state.procs[index]? with
    | none => (none, state)
    | some proc =>
      let result := turnOf env turn state.world proc
      (result.reply, ⟨result.world, state.procs.set index result.proc⟩)
  | .crash => (none, { state with procs := [] })

/-- A run with all it has told its callers, and the bytes each completion has
hashed, by upload. -/
structure History where
  state : State
  replies : List Reply
  hashed : List (String × Bytes)

def History.initial : History := ⟨.initial, [], []⟩

/-- The bytes a completion hashes in this turn. -/
def hashing (turn : Turn) (world : World) : Proc → Option (String × Bytes)
  | .completeHash c =>
    match fileRead turn (fun files => files.read c.uploadID) world with
    | .ok bytes => some (c.uploadID, bytes)
    | .error _ => none
  | _ => none

def hashedBy (state : State) : Event → Option (String × Bytes)
  | .turn index turn => state.procs[index]?.bind (hashing turn state.world)
  | _ => none

def record (history : History) (event : Event) : History where
  state := (step env history.state event).2
  replies := history.replies ++ (step env history.state event).1.toList
  hashed := history.hashed ++ (hashedBy history.state event).toList

/-- What a run of events leaves. -/
def after (events : List Event) : History := runSteps (record env) .initial events

end Steps
end AnselmGateway.Media
