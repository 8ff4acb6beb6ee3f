import AnselmGateway.LeaseRows
import AnselmGateway.UploadCursor

/-! Who may use a lease. The chat path asks for a verdict on a lease or opens its file, each
with checks of its own; a sample's token is derived again from the row. -/
namespace AnselmGateway.LeaseAuthorization
open Foundation MediaFiles MediaStore Media LeaseSigner LeaseRows

section Calls
variable (env : Environment)

/-- `VerifyLease`. -/
def verifyLease (turn : Turn) (world : World) (installID leaseID token : String) : Except MediaError String :=
  if blank installID || blank leaseID || token = "" then .error .notFound
  else
    match query turn (getLease leaseID) world with
    | none => .error .failed
    | some none => .error .notFound
    | some (some lease) =>
      if lease.installID ≠ installID ∨ lease.state ≠ .active ∨ ¬turn.now < lease.expiresAt ∨
          ¬env.verify token leaseID lease.installID lease.expiresAt ∨
          env.hashSecret token ≠ lease.fetchTokenHash then .error .notFound
      else .ok lease.mimeType

/-- `OpenLeaseForInstall`, up to the opened file: its look-up, and its opening in the state
that it then meets. -/
def openLeaseForInstall (turn opening : Turn) (world opened : World) (installID leaseID token : String) :
    Except MediaError Lease :=
  if blank installID || blank leaseID || token = "" then .error .notFound
  else
    match query turn (getLease leaseID) world with
    | none => .error .failed
    | some none => .error .notFound
    | some (some lease) =>
      if lease.installID ≠ installID ∨ lease.state ≠ .active ∨ ¬turn.now < lease.expiresAt ∨
          ¬env.verify token leaseID lease.installID lease.expiresAt ∨
          env.hashSecret token ≠ lease.fetchTokenHash then .error .notFound
      else
        match fileRead opening (fun files => files.read lease.uploadID) opened with
        | .error _ => .error .failed
        | .ok _ => .ok lease

/-- `SampleFetchToken`. -/
def sampleFetchToken (turn : Turn) (world : World) (installID leaseID : String) : Except MediaError String :=
  match query turn (getLeaseForInstall installID leaseID) world with
  | none => .error .failed
  | some none => .error .notFound
  | some (some lease) =>
    if lease.state ≠ .active ∨ ¬turn.now < lease.expiresAt then .error .notFound
    else .ok (env.token leaseID lease.installID lease.expiresAt)

end Calls

/-- `HashSecret`, over the hex SHA-256 of bytes. -/
def hashSecret (sha256 : Bytes → String) (secret : String) : String := sha256 (utf8 (trimSpace secret))

/-- The use case under its signer. -/
def signed (hmac : Hmac) (s : HMACSigner) (sha256 : Bytes → String) (limits : Limits) : Environment where
  sha256 := sha256
  hashSecret := hashSecret sha256
  token := token hmac s
  verify := verify hmac s
  limits := limits

/-! ## The opening call and its turns -/

section Turns
variable {env : Environment} {turn opening : Turn} {world opened : World} {installID leaseID presented : String}

/-- Both paths put the same questions to a row. -/
theorem mayOpen_iff {now : ℤ} {lease : Lease} :
    mayOpen env now (some installID) leaseID presented lease = true ↔
      ¬(lease.installID ≠ installID ∨ lease.state ≠ .active ∨ ¬now < lease.expiresAt ∨
        ¬env.verify presented leaseID lease.installID lease.expiresAt ∨
        env.hashSecret presented ≠ lease.fetchTokenHash) := by
  simp only [mayOpen, Option.all_some, Bool.and_eq_true, decide_eq_true_eq, not_or, not_not, and_assoc]

/-- `OpenLeaseForInstall` is the call in flight, turn by turn. -/
theorem openLeaseForInstall_turns {lease : Lease} :
    openLeaseForInstall env turn opening world opened installID leaseID presented = .ok lease ↔
      begin_ env turn.now (.openLease (some installID) leaseID presented) =
          .inl (.leaseRead (some installID) leaseID presented) ∧
        (turnOf env turn world (.leaseRead (some installID) leaseID presented)).proc = .leaseOpen lease ∧
        (turnOf env opening opened (.leaseOpen lease)).proc = .leaseServe lease [] := by
  simp only [openLeaseForInstall, begin_, turnOf, leaseStep]
  split
  · simp
  · cases query turn (getLease leaseID) world with
    | none => simp [fail, finish]
    | some row =>
      cases row with
      | none => simp [fail, finish]
      | some held =>
        dsimp only
        by_cases may : mayOpen env turn.now (some installID) leaseID presented held = true
        · rw [if_neg (mayOpen_iff.mp may), if_pos may]
          cases reads : fileRead opening (fun files => files.read held.uploadID) opened with
          | error failure =>
            simp only [stay, reduceCtorEq, true_and, false_iff, not_and, Proc.leaseOpen.injEq]
            rintro rfl
            rw [reads]
            simp [fail, finish]
          | ok bytes =>
            simp only [stay, Except.ok.injEq, true_and, Proc.leaseOpen.injEq]
            constructor
            · rintro rfl
              rw [reads]
              exact ⟨rfl, rfl⟩
            · exact fun same => same.1
        · rw [if_pos (not_not.mp fun refused => may (mayOpen_iff.mpr refused)), if_neg may]
          simp [fail, finish]

end Turns

/-! ## One check for both paths -/

section Check
variable (env : Environment)

/-- The verdict of either path on a row it has looked up. -/
def judge (now : ℤ) (installID leaseID presented : String) : Option Lease → Except MediaError Lease
  | none => .error .notFound
  | some lease =>
    if lease.installID ≠ installID ∨ lease.state ≠ .active ∨ ¬now < lease.expiresAt ∨
        ¬env.verify presented leaseID lease.installID lease.expiresAt ∨
        env.hashSecret presented ≠ lease.fetchTokenHash then .error .notFound
    else .ok lease

/-- The checks of either path, and the row that passes them. -/
def authorize (turn : Turn) (world : World) (installID leaseID presented : String) : Except MediaError Lease :=
  if blank installID || blank leaseID || presented = "" then .error .notFound
  else
    match query turn (getLease leaseID) world with
    | none => .error .failed
    | some row => judge env turn.now installID leaseID presented row

variable {env} {turn opening : Turn} {world other opened : World} {installID leaseID presented : String}

theorem verifyLease_eq : verifyLease env turn world installID leaseID presented =
    (authorize env turn world installID leaseID presented).map Lease.mimeType := by
  unfold verifyLease authorize
  split
  · rfl
  · cases query turn (getLease leaseID) world with
    | none => rfl
    | some row =>
      cases row with
      | none => rfl
      | some lease =>
        dsimp only [judge]
        split
        · rfl
        · rfl

theorem openLeaseForInstall_eq : openLeaseForInstall env turn opening world opened installID leaseID presented =
    (authorize env turn world installID leaseID presented).bind fun lease =>
      match fileRead opening (fun files => files.read lease.uploadID) opened with
      | .error _ => .error .failed
      | .ok _ => .ok lease := by
  unfold openLeaseForInstall authorize
  split
  · rfl
  · cases query turn (getLease leaseID) world with
    | none => rfl
    | some row =>
      cases row with
      | none => rfl
      | some lease =>
        dsimp only [judge]
        split
        · rfl
        · rfl

/-- A row of another install is judged like none. -/
theorem judge_own {now : ℤ} (row : Option Lease) : judge env now installID leaseID presented row =
    judge env now installID leaseID presented (row.filter fun lease => lease.installID = installID) := by
  cases row with
  | none => rfl
  | some lease =>
    by_cases own : lease.installID = installID
    · rw [Option.filter_some, if_pos (decide_eq_true own)]
    · rw [Option.filter_some, if_neg (by simpa using own)]
      exact if_pos (.inl own)

/-- Two states with the same leases of one install. -/
def SameOwn (installID : String) (db other : Database) : Prop :=
  ∀ id lease, lease.installID = installID → (getLease id db = some lease ↔ getLease id other = some lease)

theorem SameOwn.getLeaseForInstall {db other : Database} (same : SameOwn installID db other) (leaseID : String) :
    getLeaseForInstall installID leaseID db = getLeaseForInstall installID leaseID other := by
  ext lease
  simp only [MediaStore.getLeaseForInstall, Option.filter_eq_some_iff, decide_eq_true_eq]
  constructor
  · rintro ⟨held, own⟩
    exact ⟨(same leaseID lease own).mp held, own⟩
  · rintro ⟨held, own⟩
    exact ⟨(same leaseID lease own).mpr held, own⟩

/-- What an install is told depends on its own leases only. -/
theorem authorize_own (same : SameOwn installID world.db other.db) :
    authorize env turn world installID leaseID presented = authorize env turn other installID leaseID presented := by
  unfold authorize
  split
  · rfl
  · unfold query
    cases turn.outcome with
    | through =>
      dsimp only
      rw [judge_own, @judge_own _ _ _ _ _ (getLease leaseID other.db)]
      exact congrArg _ (same.getLeaseForInstall leaseID)
    | _ => rfl

theorem sampleFetchToken_own (same : SameOwn installID world.db other.db) :
    sampleFetchToken env turn world installID leaseID = sampleFetchToken env turn other installID leaseID := by
  unfold sampleFetchToken query
  cases turn.outcome with
  | through =>
    dsimp only
    rw [same.getLeaseForInstall leaseID]
  | _ => rfl

end Check

/-! ## What grants -/

section Signed
variable (hmac : Hmac) (s : HMACSigner) (sha256 : Bytes → String) (limits : Limits)

/-- The lease is there, the install's own, active and unexpired, and the token is the
signer's for it. -/
structure Grants (db : Database) (now : ℤ) (installID leaseID presented : String) (lease : Lease) : Prop where
  row : getLease leaseID db = some lease
  owner : lease.installID = installID
  active : lease.state = .active
  unexpired : now < lease.expiresAt
  token : presented = token hmac s leaseID lease.installID lease.expiresAt

variable {hmac s sha256 limits}

/-- A row that a completion wrote has its own token's digest, and names. -/
theorem made_facts {leaseID : String} {lease : Lease} (made : Made (signed hmac s sha256 limits) leaseID lease) :
    blank leaseID = false ∧ blank lease.installID = false ∧
      lease.fetchTokenHash = hashSecret sha256 (token hmac s leaseID lease.installID lease.expiresAt) := by
  obtain ⟨turn, c, sha, size, rfl, ⟨random, drawn⟩, named, terms⟩ := made
  rw [terms]
  refine ⟨?_, named, rfl⟩
  rw [drawn, mediaLeaseID, blank, String.toList_append, List.all_append]
  rfl

variable {turn opening : Turn} {world opened : World} {installID leaseID presented : String}

/-- On a row that a completion wrote, the checks pass exactly what grants, and fail
alike. -/
theorem authorize_cases (made : ∀ l, getLease leaseID world.db = some l → Made (signed hmac s sha256 limits) leaseID l)
    (through : turn.outcome = .through) (installID presented : String) :
    (∃ lease, Grants hmac s world.db turn.now installID leaseID presented lease ∧
        authorize (signed hmac s sha256 limits) turn world installID leaseID presented = .ok lease) ∨
      (∀ lease, ¬Grants hmac s world.db turn.now installID leaseID presented lease) ∧
        authorize (signed hmac s sha256 limits) turn world installID leaseID presented = .error .notFound := by
  have looked : query turn (getLease leaseID) world = some (getLease leaseID world.db) := by
    rw [query, through]
  unfold authorize
  rw [looked]
  cases held : getLease leaseID world.db with
  | none =>
    refine .inr ⟨?_, by simp [judge]⟩
    rintro lease ⟨row, _⟩
    rw [held] at row
    cases row
  | some lease =>
    obtain ⟨named, owner, hash⟩ := made_facts (made lease held)
    dsimp only [judge]
    by_cases passed : lease.installID ≠ installID ∨ lease.state ≠ .active ∨ ¬turn.now < lease.expiresAt ∨
        ¬(signed hmac s sha256 limits).verify presented leaseID lease.installID lease.expiresAt ∨
        (signed hmac s sha256 limits).hashSecret presented ≠ lease.fetchTokenHash
    · rw [if_pos passed]
      refine .inr ⟨?_, by simp⟩
      rintro other ⟨row, rfl, active, unexpired, rfl⟩
      rw [held] at row
      cases row
      rcases passed with stranger | retired | late | forged | unknown
      · exact stranger rfl
      · exact retired active
      · exact late unexpired
      · exact forged (verify_iff.mpr rfl)
      · exact unknown hash.symm
    · rw [if_neg passed]
      simp only [not_or, not_not] at passed
      obtain ⟨rfl, active, unexpired, verified, _⟩ := passed
      obtain rfl := verify_iff.mp verified
      refine .inl ⟨lease, ⟨held, rfl, active, unexpired, rfl⟩, ?_⟩
      rw [if_neg (by simp [owner, named, token_ne_empty])]

/-- A sample's token is the signer's for the row it was derived from. -/
theorem sampleFetchToken_ok {env : Environment} {derived : String}
    (sampled : sampleFetchToken env turn world installID leaseID = .ok derived) :
    ∃ l, getLease leaseID world.db = some l ∧ l.installID = installID ∧
      derived = env.token leaseID l.installID l.expiresAt := by
  unfold sampleFetchToken at sampled
  split at sampled
  · cases sampled
  · cases sampled
  · rename_i l found
    split at sampled
    · cases sampled
    · cases sampled
      have row := MediaSemantics.query_some found
      obtain ⟨held, own⟩ := Option.filter_eq_some_iff.mp row
      exact ⟨l, held, of_decide_eq_true own, rfl⟩

/-! ## The contract of a lease -/

/-- Who is granted a lease, on both paths; what anyone else learns; and how long a sample's
token holds. -/
theorem lease_authorization {state : State}
    (made : ∀ id l, getLease id state.world.db = some l → Made (signed hmac s sha256 limits) id l)
    (installID leaseID : String) :
    (∀ turn presented, turn.outcome = .through →
      ((∃ mimeType, verifyLease (signed hmac s sha256 limits) turn state.world installID leaseID presented =
          .ok mimeType) ↔
        ∃ lease, Grants hmac s state.world.db turn.now installID leaseID presented lease) ∧
      (∀ opening opened, (∀ lease, getLease leaseID state.world.db = some lease → ∃ bytes,
          fileRead opening (fun files => files.read lease.uploadID) opened = .ok bytes) →
        ((∃ lease, openLeaseForInstall (signed hmac s sha256 limits) turn opening state.world opened installID
            leaseID presented = .ok lease) ↔
          ∃ mimeType, verifyLease (signed hmac s sha256 limits) turn state.world installID leaseID presented =
            .ok mimeType)) ∧
      ((∀ lease, ¬Grants hmac s state.world.db turn.now installID leaseID presented lease) →
        verifyLease (signed hmac s sha256 limits) turn state.world installID leaseID presented = .error .notFound ∧
        ∀ opening opened, openLeaseForInstall (signed hmac s sha256 limits) turn opening state.world opened
          installID leaseID presented = .error .notFound)) ∧
    (∀ other : World, SameOwn installID state.world.db other.db → ∀ turn opening opened presented,
      verifyLease (signed hmac s sha256 limits) turn state.world installID leaseID presented =
          verifyLease (signed hmac s sha256 limits) turn other installID leaseID presented ∧
        openLeaseForInstall (signed hmac s sha256 limits) turn opening state.world opened installID leaseID
            presented =
          openLeaseForInstall (signed hmac s sha256 limits) turn opening other opened installID leaseID presented ∧
        sampleFetchToken (signed hmac s sha256 limits) turn state.world installID leaseID =
          sampleFetchToken (signed hmac s sha256 limits) turn other installID leaseID) ∧
    ∀ turn derived, sampleFetchToken (signed hmac s sha256 limits) turn state.world installID leaseID =
        .ok derived →
      ∀ events check lease, check.outcome = .through →
        getLease leaseID (later (signed hmac s sha256 limits) state events).world.db = some lease →
        lease.state = .active → check.now < lease.expiresAt →
        verifyLease (signed hmac s sha256 limits) check (later (signed hmac s sha256 limits) state events).world
          installID leaseID derived = .ok lease.mimeType := by
  refine ⟨?_, ?_, ?_⟩
  · intro turn presented through
    rcases authorize_cases (made leaseID) through installID presented with ⟨lease, grants, passed⟩ | ⟨none_, refused⟩
    · refine ⟨?_, ?_, ?_⟩
      · rw [verifyLease_eq, passed]
        exact ⟨fun _ => ⟨lease, grants⟩, fun _ => ⟨lease.mimeType, rfl⟩⟩
      · intro opening opened opens
        obtain ⟨bytes, read⟩ := opens lease grants.row
        rw [verifyLease_eq, openLeaseForInstall_eq, passed]
        refine ⟨fun _ => ⟨lease.mimeType, rfl⟩, fun _ => ⟨lease, ?_⟩⟩
        simp only [Except.bind, read]
      · intro none_
        exact absurd grants (none_ lease)
    · refine ⟨?_, ?_, ?_⟩
      · rw [verifyLease_eq, refused]
        constructor
        · rintro ⟨mimeType, answer⟩
          cases answer
        · rintro ⟨lease, grants⟩
          exact absurd grants (none_ lease)
      · intro opening opened _
        rw [verifyLease_eq, openLeaseForInstall_eq, refused]
        constructor
        · rintro ⟨lease, answer⟩
          cases answer
        · rintro ⟨mimeType, answer⟩
          cases answer
      · intro _
        refine ⟨?_, ?_⟩
        · rw [verifyLease_eq, refused]
          rfl
        · intro opening opened
          rw [openLeaseForInstall_eq, refused]
          rfl
  · intro other same turn opening opened presented
    rw [verifyLease_eq, verifyLease_eq, openLeaseForInstall_eq, openLeaseForInstall_eq, authorize_own same]
    exact ⟨rfl, rfl, sampleFetchToken_own same⟩
  · intro turn derived sampled events check lease through held active unexpired
    obtain ⟨l, row, rfl, rfl⟩ := sampleFetchToken_ok sampled
    -- The row is still there, with the owner and the expiry it was written with.
    obtain ⟨m, still, terms⟩ := @kept_later (signed hmac s sha256 limits) state events leaseID l row
    rw [held] at still
    cases still
    have made' : ∀ m, getLease leaseID (later (signed hmac s sha256 limits) state events).world.db = some m →
        Made (signed hmac s sha256 limits) leaseID m := by
      intro m again
      rw [held] at again
      cases again
      obtain ⟨turn, c, sha, size, here, drawn, named, written⟩ := made leaseID l row
      exact ⟨turn, c, sha, size, here, drawn, named, written.trans terms⟩
    have grants : Grants hmac s (later (signed hmac s sha256 limits) state events).world.db check.now l.installID
        leaseID (token hmac s leaseID l.installID l.expiresAt) lease :=
      ⟨held, terms.installID, active, unexpired, by rw [terms.installID, terms.expiresAt]⟩
    rcases authorize_cases made' through l.installID (token hmac s leaseID l.installID l.expiresAt) with
      ⟨other, found, passed⟩ | ⟨none_, _⟩
    · have same := found.row
      rw [held] at same
      cases same
      rw [verifyLease_eq]
      change (authorize _ _ _ _ _ (token hmac s leaseID l.installID l.expiresAt)).map _ = _
      rw [passed]
      rfl
    · exact absurd grants (none_ lease)

end Signed

/-! ## One lease -/

open UploadCursor (creation stagedBytes stagedID stagedSHA256 turnOfCall)

def sampleSigner : HMACSigner := ⟨utf8 "01234567890123456789012345678901", by decide +kernel⟩

def sampleLeaseID : String := "mls_00000000000000000000000000000001"

/-- The token of the lease that an hour later expires. -/
def sampleToken : String := "3600.770f15225d06bba512e965f557ff7b10e01d6e8cb8baf7b30d320550ccd683c1"

/-- What the standard library answers on the two. -/
def sampleHmac (_ message : Bytes) : Bytes :=
  if message = utf8 (fetchTokenPayload sampleLeaseID "ins_1" 3600) then
    [119, 15, 21, 34, 93, 6, 187, 165, 18, 233, 101, 245, 87, 255, 123, 16, 224, 29, 110, 140, 184, 186, 247,
      179, 13, 50, 5, 80, 204, 214, 131, 193]
  else []

def sampleSHA256 (bytes : Bytes) : String :=
  if bytes = stagedBytes then stagedSHA256
  else if bytes = utf8 sampleToken then "2545f0d5b5e165b0ed271ec663cf56498a44501cfe711f0687e57ea4a19e7bc9"
  else ""

def sampleLimits : Limits := ⟨1048576, 3600 * second, 3600 * second, by decide⟩

/-- An upload is created, filled and completed. -/
def completion : List Event :=
  creation ++ [.arrive 1 (.append "ins_1" stagedID 0 stagedBytes), turnOfCall 1, turnOfCall 1, turnOfCall 1,
    turnOfCall 1, .arrive 1 (.complete "ins_1" stagedID), turnOfCall 2, turnOfCall 2, turnOfCall 2,
    turnOfCall 2, turnOfCall 2]

/-- Its owner may use the lease, and no one else. -/
theorem lease_authorization_completion :
    (∃ mimeType, verifyLease (signed sampleHmac sampleSigner sampleSHA256 sampleLimits) ⟨2, "", .through⟩
        (later (signed sampleHmac sampleSigner sampleSHA256 sampleLimits) .initial completion).world "ins_1"
        sampleLeaseID sampleToken = .ok mimeType) ∧
      verifyLease (signed sampleHmac sampleSigner sampleSHA256 sampleLimits) ⟨2, "", .through⟩
        (later (signed sampleHmac sampleSigner sampleSHA256 sampleLimits) .initial completion).world "ins_2"
        sampleLeaseID sampleToken = .error .notFound := by
  have drawn : ∀ event ∈ completion, Drawn event := by
    have id : sampleLeaseID = mediaLeaseID [0, 0, 0, 0, 0, 0, 0, 0, 0, 0, 0, 0, 0, 0, 0, 1] := by decide +kernel
    simpa [completion, creation, turnOfCall, Drawn] using ⟨_, id⟩
  have made := (@authored_later (signed sampleHmac sampleSigner sampleSHA256 sampleLimits) _ drawn).leases
  have row : (getLease sampleLeaseID (later (signed sampleHmac sampleSigner sampleSHA256 sampleLimits) .initial
      completion).world.db).map (fun l => (l.installID, l.state, l.expiresAt)) =
        some ("ins_1", .active, 1 + 3600 * second) := by decide +kernel
  obtain ⟨lease, held, here⟩ := Option.map_eq_some_iff.mp row
  obtain ⟨owner, rest⟩ := Prod.mk.inj here
  obtain ⟨active, expiry⟩ := Prod.mk.inj rest
  constructor
  · refine ((lease_authorization made "ins_1" sampleLeaseID).1 _ sampleToken rfl).1.mpr ⟨lease, held, owner, active, ?_, ?_⟩
    · rw [expiry]
      decide
    · rw [owner, expiry]
      decide +kernel
  · refine (((lease_authorization made "ins_2" sampleLeaseID).1 _ sampleToken rfl).2.2 ?_).1
    rintro other ⟨again, stranger, _⟩
    rw [held] at again
    cases again
    rw [owner] at stranger
    exact absurd stranger (by decide)

end AnselmGateway.LeaseAuthorization
