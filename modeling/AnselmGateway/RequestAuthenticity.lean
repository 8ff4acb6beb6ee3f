import AnselmGateway.AccessTrail
import AnselmGateway.ProtectedDoor

/-! Whose request it is. Devices sign, the gateway hands out challenges, and whatever
anybody sends is judged at the two doors; processes end and begin again with a new secret
and an empty guard. What a door has let in is traced back to a signature that the device
made for that very request, and to none that has been used before. -/
namespace AnselmGateway.RequestAuthenticity
open Foundation InstallStore DeviceProof DeviceProofReplay NonceCache ProtectedDoor AccessTrail

/-! ## The machine -/

inductive Entrance where
  | request
  | registration
  deriving DecidableEq

/-- What the doors take from elsewhere: what `unicode.ToLower` makes of a rune beyond ASCII, the
libraries and the decoder of a registration. -/
structure Setup where
  beyond : Char → Char
  prim : Primitives
  pow : ProofOfWork.Primitives
  decode : Bytes → Option Install.Request
  env : Install.Environment

/-- The gateway; beside it what devices have signed, the challenges this process and the
ones before it have given out, and the proofs that a door has let in. -/
structure State where
  gateway : Dashboard.State
  clock : ℤ
  secret : Bytes
  replay : Cache Bytes
  nonces : Cache Bytes
  results : List PowResult
  signed : List (Bytes × Bytes)
  minted : List Bytes
  retired : List Bytes
  accepted : List (Entrance × Verification)

/-- A first process. -/
def State.start (secret : Bytes) : State where
  gateway := .start
  clock := 0
  secret := secret
  replay := productionGuard
  nonces := ProofOfWork.productionNonces
  results := []
  signed := []
  minted := []
  retired := []
  accepted := []

inductive Event where
  /-- A device signs the encoded payload of a proof. -/
  | sign (key payloadPart : Bytes)
  | challenge (now : ℤ) (random : Vector UInt8 16)
  | request (r : HTTPRequest) (fails : Bool) (now : ℤ)
  | register (r : HTTPRequest) (cfg : Install.Config) (powCfg : PowConfig)
      (installID regenerated : String) (now : ℤ)
  /-- Anything else that touches the installs. -/
  | operate (event : Dashboard.Event)
  | restart (secret : Bytes)

variable (u : Setup)

/-- The bytes of the nonce that `IssueChallenge` gives out. -/
def issueChallenge (secret : Bytes) (now : ℤ) (random : Vector UInt8 16) : Bytes :=
  let raw := ProofOfWork.putUnix (now / second) ++ random.toList
  raw ++ u.prim.hmac secret raw

/-- A request at the protected door. -/
def request (r : HTTPRequest) (fails : Bool) (now : ℤ) (s : State) : State :=
  match protect u.beyond u.prim s.secret fails s.gateway.db.installs r now (some s.replay) with
  | (.error _, replay) => { s with clock := now, replay := replay.getD s.replay }
  | (.ok body, replay) => { s with
      clock := now
      replay := replay.getD s.replay
      accepted := s.accepted ++ [(.request, ⟨r.signable u.beyond body, utf8 r.installID,
        (storedKey s.gateway.db.installs (utf8 r.installID)).getD [], r.proof, now⟩)] }

/-- A registration behind its proof of work. -/
def enroll (r : HTTPRequest) (cfg : Install.Config) (installID regenerated : String) (now : ℤ)
    (s : State) : State :=
  match readRegistration u.decode r with
  | .error _ => { s with clock := now }
  | .ok (raw, req) =>
    match registration u.beyond u.prim s.secret r raw now (some s.replay) with
    | (.error _, replay) => { s with clock := now, replay := replay.getD s.replay }
    | (.ok (key, thumb), replay) =>
      let call : Install.Call :=
        ⟨req, key, String.ofList (runes thumb), r.ipKey, now, installID, regenerated⟩
      { s with
        gateway := { s.gateway with db := (Install.issueView u.env cfg call s.gateway.db).2 }
        clock := now
        replay := replay.getD s.replay
        accepted := s.accepted ++ [(.registration, ⟨r.signable u.beyond raw, thumb, key, r.proof, now⟩)] }

/-- A registration at its handler. -/
def register (r : HTTPRequest) (cfg : Install.Config) (powCfg : PowConfig)
    (installID regenerated : String) (now : ℤ) (s : State) : State :=
  if r.method ≠ "POST" then s
  else
    match powGate u.pow powCfg r.pow now s.nonces with
    | (some _, result, nonces) => { s with nonces := nonces, results := s.results ++ result.toList }
    | (none, result, nonces) => enroll u r cfg installID regenerated now
        { s with nonces := nonces, results := s.results ++ result.toList }

def step (s : State) : Event → State
  | .sign key payloadPart => { s with signed := s.signed ++ [(key, payloadPart)] }
  | .challenge now random => { s with minted := s.minted ++ [issueChallenge u s.secret now random] }
  | .request r fails now => request u r fails now s
  | .register r cfg powCfg installID regenerated now =>
    register u r cfg powCfg installID regenerated now s
  | .operate (.register _ _) | .operate .restart => s
  | .operate event => { s with gateway := Dashboard.step u.env s.gateway event }
  | .restart secret => { s with
      gateway := s.gateway.restarted
      secret := secret
      replay := productionGuard
      nonces := ProofOfWork.productionNonces
      minted := []
      retired := s.retired ++ s.minted }

def run (s : State) (events : List Event) : State := runSteps (step u) s events

/-! ## What is assumed of the libraries and of the devices' clocks -/

/-- A proof that is presented proves no more than was signed and given out: a signature
under an honest key was made with it, and a nonce with this process's tag is one of its own. -/
def Unforged (honest : Bytes → Prop) (s : State) (compact : Bytes) (now : ℤ) : Prop :=
  (∀ key, honest key → ∀ payloadPart signaturePart sig,
    splitAtByte 46 compact = [payloadPart, signaturePart] → Base64.decode signaturePart = some sig →
      u.prim.verifySignature key payloadPart sig = true → (key, payloadPart) ∈ s.signed) ∧
  ∀ key p, readProof u.prim key compact = some p → validNonce u.prim s.secret p.nonce now = true →
    ∃ raw ∈ s.minted, Base64.decode p.nonce = some raw

/-- What an event may be: proofs are not forged, and no nonce is drawn twice. -/
def Ideal (honest : Bytes → Prop) (s : State) : Event → Prop
  | .request r _ now => Unforged u honest s r.proof now
  | .register r _ _ _ _ now => Unforged u honest s r.proof now
  | .challenge now random => issueChallenge u s.secret now random ∉ s.retired
  | _ => True

/-- A proof that is presented no earlier than half a minute before its date, or under an
old nonce, on a clock that does not go back. -/
def Punctual (s : State) (compact : Bytes) (now : ℤ) : Prop :=
  s.clock ≤ now ∧ ∀ key p, readProof u.prim key compact = some p →
    unix p.issued.toInt < now + 30 * second ∨
      ∃ issued, nonceIssued p.nonce = some issued ∧ issued + 3 * minute ≤ now

def OnTime (s : State) : Event → Prop
  | .request r _ now => Punctual u s r.proof now
  | .register r _ _ _ _ now => Punctual u s r.proof now
  | _ => True

/-! ## What a door does -/

section Verify
variable {prim : Primitives} {secret : Bytes} {guard : Cache Bytes} {clock : ℤ}

/-- A verification against a guard is a presentation. -/
theorem verify_present (v : Verification) :
    (verify prim secret v.req v.expectedID v.key v.compact v.now (some guard)).2 =
        (present prim secret (clock, some guard) v).2.2 ∧
      ((∃ p, (verify prim secret v.req v.expectedID v.key v.compact v.now (some guard)).1 = .ok p) ↔
        ∃ proof, (present prim secret (clock, some guard) v).1 = some proof) := by
  unfold present
  rcases verify prim secret v.req v.expectedID v.key v.compact v.now (some guard) with
    ⟨_ | p, replay⟩
  · simp
  · simp

/-- An install's proof is refused before it is verified, or is verified under its key. -/
theorem verifyInstall_cases (keys : Bytes → Except Unit (Option Bytes)) (req : Request)
    (installID compact : Bytes) (now : ℤ) :
    (∃ err, verifyInstall prim secret (some keys) req installID compact now (some guard) =
        (.error err, some guard)) ∨
    ∃ key, keys installID = .ok (some key) ∧
      (verifyInstall prim secret (some keys) req installID compact now (some guard)).2 =
        (present prim secret (clock, some guard) ⟨req, installID, key, compact, now⟩).2.2 ∧
      ((verifyInstall prim secret (some keys) req installID compact now (some guard)).1 = .ok () ↔
        ∃ proof, (present prim secret (clock, some guard) ⟨req, installID, key, compact, now⟩).1 =
          some proof) := by
  unfold verifyInstall
  split
  · exact .inl ⟨_, rfl⟩
  · split
    · exact .inl ⟨_, rfl⟩
    · dsimp only
      cases answer : keys installID with
      | error _ => exact .inl ⟨_, rfl⟩
      | ok found =>
        cases found with
        | none => exact .inl ⟨_, rfl⟩
        | some key =>
          dsimp only
          split
          · exact .inl ⟨_, rfl⟩
          · right
            obtain ⟨replay, verdict⟩ := @verify_present prim secret guard clock
              ⟨req, installID, key, compact, now⟩
            refine ⟨key, rfl, replay, ?_⟩
            rw [← verdict]
            rcases verify prim secret req installID key compact now (some guard) with ⟨_ | p, _⟩
            · simp [Except.map]
            · simp [Except.map]

/-- So is a registration's, under the key it carries. -/
theorem verifyRegistration_cases (req : Request) (encodedKey compact : Bytes) (now : ℤ) :
    (∃ err, verifyRegistration prim secret req encodedKey compact now (some guard) =
        (.error err, some guard)) ∨
    ∃ key, (verifyRegistration prim secret req encodedKey compact now (some guard)).2 =
        (present prim secret (clock, some guard) ⟨req, thumbprint prim key, key, compact, now⟩).2.2 ∧
      ((∃ reg, (verifyRegistration prim secret req encodedKey compact now (some guard)).1 = .ok reg) ↔
        ∃ proof, (present prim secret (clock, some guard)
          ⟨req, thumbprint prim key, key, compact, now⟩).1 = some proof) ∧
      ∀ reg, (verifyRegistration prim secret req encodedKey compact now (some guard)).1 = .ok reg →
        reg = (key, thumbprint prim key) := by
  unfold verifyRegistration
  split
  · exact .inl ⟨_, rfl⟩
  · cases Base64.decode encodedKey with
    | none => exact .inl ⟨_, rfl⟩
    | some key =>
      dsimp only
      split
      · exact .inl ⟨_, rfl⟩
      · right
        obtain ⟨replay, verdict⟩ := @verify_present prim secret guard clock
          ⟨req, thumbprint prim key, key, compact, now⟩
        refine ⟨key, replay, ?_, ?_⟩
        · rw [← verdict]
          rcases verify prim secret req (thumbprint prim key) key compact now (some guard) with
            ⟨_ | p, _⟩
          · simp [Except.map]
          · simp [Except.map]
        · rcases verify prim secret req (thumbprint prim key) key compact now (some guard) with
            ⟨_ | p, _⟩
          · simp [Except.map]
          · simp [Except.map, eq_comm]

end Verify

section Doors
variable {u : Setup} {s : State}

/-- Whether the verifier lets a proof in. -/
def accepts (u : Setup) (s : State) (v : Verification) : Prop :=
  ∃ proof, (present u.prim s.secret (s.clock, some s.replay) v).1 = some proof

/-- The guard behind a verification. -/
def guardAfter (u : Setup) (s : State) (v : Verification) : Cache Bytes :=
  ((present u.prim s.secret (s.clock, some s.replay) v).2.2).getD s.replay

theorem present_after (v : Verification) :
    (present u.prim s.secret (s.clock, some s.replay) v).2 = (v.now, some (guardAfter u s v)) := by
  unfold guardAfter
  rcases present_guarded s.clock s.replay v with ⟨_, refused⟩ | ⟨p, _, used⟩
  · rw [refused]
    rfl
  · rw [used]
    rfl

/-- A proof that a door judges moves the guard on, and the clock. -/
def judging (u : Setup) (v : Verification) (s : State) : State :=
  { s with clock := v.now, replay := guardAfter u s v }

def lettingIn (u : Setup) (door : Entrance) (v : Verification) (s : State) : State :=
  { judging u v s with accepted := s.accepted ++ [(door, v)] }

/-- A request is refused unread, or judged under the key of the install it names. -/
theorem protect_cases (r : HTTPRequest) (fails : Bool) (now : ℤ) :
    (∃ err, protect u.beyond u.prim s.secret fails s.gateway.db.installs r now (some s.replay) =
        (.error err, some s.replay)) ∨
    ∃ body key, storedKey s.gateway.db.installs (utf8 r.installID) = some key ∧
      (let v : Verification := ⟨r.signable u.beyond body, utf8 r.installID, key, r.proof, now⟩
      (protect u.beyond u.prim s.secret fails s.gateway.db.installs r now (some s.replay)).2 =
          some (guardAfter u s v) ∧
        ((∃ err, ¬accepts u s v ∧
            (protect u.beyond u.prim s.secret fails s.gateway.db.installs r now (some s.replay)).1 = .error err) ∨
          accepts u s v ∧
            (protect u.beyond u.prim s.secret fails s.gateway.db.installs r now (some s.replay)).1 =
              .ok body)) := by
  unfold protect
  split
  · exact .inl ⟨_, rfl⟩
  · cases r.body with
    | error why => cases why <;> exact .inl ⟨_, rfl⟩
    | ok body =>
      dsimp only
      rcases @verifyInstall_cases u.prim s.secret s.replay s.clock
          (keyResolver fails s.gateway.db.installs) (r.signable u.beyond body) (utf8 r.installID) r.proof now with
        ⟨err, refused⟩ | ⟨key, found, replay, verdict⟩
      · left
        rw [refused]
        exact ⟨_, rfl⟩
      · right
        have held : storedKey s.gateway.db.installs (utf8 r.installID) = some key := by
          unfold keyResolver at found
          split at found
          · cases found
          · exact Except.ok.inj found
        rw [present_after] at replay
        refine ⟨body, key, held, ?_⟩
        generalize verifyInstall u.prim s.secret _ (r.signable u.beyond body) (utf8 r.installID) r.proof now
          (some s.replay) = outcome at replay verdict ⊢
        obtain ⟨result, guard⟩ := outcome
        obtain rfl : guard = _ := replay
        cases result with
        | error err =>
          refine ⟨rfl, .inl ⟨proofError err, fun lets => ?_, rfl⟩⟩
          have out := verdict.mpr lets
          cases out
        | ok _ => exact ⟨rfl, .inr ⟨verdict.mp rfl, rfl⟩⟩

theorem request_cases (r : HTTPRequest) (fails : Bool) (now : ℤ) :
    request u r fails now s = { s with clock := now } ∨
    ∃ v : Verification, v.now = now ∧ v.compact = r.proof ∧
      storedKey s.gateway.db.installs v.expectedID = some v.key ∧
      ((¬accepts u s v ∧ request u r fails now s = judging u v s) ∨
        accepts u s v ∧ request u r fails now s = lettingIn u .request v s) := by
  unfold request
  rcases @protect_cases u s r fails now with ⟨err, refused⟩ | ⟨body, key, held, replay, verdict⟩
  · left
    rw [refused]
    rfl
  · right
    generalize protect u.beyond u.prim s.secret fails s.gateway.db.installs r now (some s.replay) = outcome
      at replay verdict
    obtain ⟨result, guard⟩ := outcome
    obtain rfl : guard = _ := replay
    refine ⟨⟨r.signable u.beyond body, utf8 r.installID, key, r.proof, now⟩, rfl, rfl, held, ?_⟩
    rcases verdict with ⟨err, out, rfl⟩ | ⟨inside, rfl⟩
    · exact .inl ⟨out, rfl⟩
    · refine .inr ⟨inside, ?_⟩
      dsimp only
      rw [held]
      rfl

/-- A registration is refused unread, or judged under the key it brings; one that is let in
is offered to the install store under that key. -/
theorem enroll_cases (r : HTTPRequest) (cfg : Install.Config) (installID regenerated : String)
    (now : ℤ) :
    enroll u r cfg installID regenerated now s = { s with clock := now } ∨
    ∃ v : Verification, v.now = now ∧ v.compact = r.proof ∧ (∃ raw, v.req = r.signable u.beyond raw) ∧
      v.expectedID = thumbprint u.prim v.key ∧
      ((¬accepts u s v ∧ enroll u r cfg installID regenerated now s = judging u v s) ∨
        accepts u s v ∧ ∃ call : Install.Call, call.publicKey = v.key ∧
          enroll u r cfg installID regenerated now s =
            { lettingIn u .registration v s with
              gateway := { s.gateway with
                db := (Install.issueView u.env cfg call s.gateway.db).2 } }) := by
  unfold enroll
  split
  · exact .inl rfl
  · rename_i raw req read
    unfold registration
    rcases @verifyRegistration_cases u.prim s.secret s.replay s.clock (r.signable u.beyond raw) r.publicKey
        r.proof now with ⟨err, refused⟩ | ⟨key, replay, verdict, own⟩
    · left
      rw [refused]
      rfl
    · right
      rw [present_after] at replay
      refine ⟨⟨r.signable u.beyond raw, thumbprint u.prim key, key, r.proof, now⟩, rfl, rfl, ⟨raw, rfl⟩, rfl, ?_⟩
      generalize verifyRegistration u.prim s.secret (r.signable u.beyond raw) r.publicKey r.proof now
        (some s.replay) = outcome at replay verdict own ⊢
      obtain ⟨result, guard⟩ := outcome
      obtain rfl : guard = _ := replay
      cases result with
      | error err =>
        refine .inl ⟨fun lets => ?_, rfl⟩
        obtain ⟨_, absurd⟩ := verdict.mpr lets
        cases absurd
      | ok reg =>
        obtain rfl := own reg rfl
        exact .inr ⟨verdict.mp ⟨_, rfl⟩, _, rfl, rfl⟩

/-- A registration is turned away, judged in vain or let in; only the counts of the proof of
work stand beside what becomes of it. -/
theorem register_cases (r : HTTPRequest) (cfg : Install.Config) (powCfg : PowConfig)
    (installID regenerated : String) (now : ℤ) :
    ∃ nonces results, (let t : State := { s with nonces := nonces, results := results }
      register u r cfg powCfg installID regenerated now s = t ∨
      register u r cfg powCfg installID regenerated now s = { t with clock := now } ∨
      ∃ v : Verification, v.now = now ∧ v.compact = r.proof ∧ (∃ raw, v.req = r.signable u.beyond raw) ∧
        v.expectedID = thumbprint u.prim v.key ∧
        ((¬accepts u s v ∧ register u r cfg powCfg installID regenerated now s = judging u v t) ∨
          accepts u s v ∧ ∃ call : Install.Call, call.publicKey = v.key ∧
            register u r cfg powCfg installID regenerated now s =
              { lettingIn u .registration v t with
                gateway := { s.gateway with
                  db := (Install.issueView u.env cfg call s.gateway.db).2 } })) := by
  unfold register
  split
  · exact ⟨s.nonces, s.results, .inl rfl⟩
  · split
    · exact ⟨_, _, .inl rfl⟩
    · rename_i result nonces _
      exact ⟨nonces, s.results ++ result.toList, .inr (enroll_cases r cfg installID regenerated now)⟩

end Doors

/-! ## What is let in -/

/-- A proof that was let in says what its request says: it names whom it is expected to
name, covers the method, the target and the body, carries a challenge of this gateway, and
if the key is honest its holder has signed it. -/
structure Agrees (u : Setup) (honest : Bytes → Prop) (s : State) (v : Verification) (p : Payload) :
    Prop where
  read : readProof u.prim v.key v.compact = some p
  names : p.keyID = v.expectedID
  method : p.method = v.req.method
  target : p.target = v.req.target
  body : p.body = Base64.encode (u.prim.sha256 v.req.body)
  challenged : ∃ raw, Base64.decode p.nonce = some raw ∧ (raw ∈ s.minted ∨ raw ∈ s.retired)
  signed : honest v.key → ∃ payloadPart, (v.key, payloadPart) ∈ s.signed ∧
    (Base64.decode payloadPart).bind u.prim.unmarshal = some p

section Agreement
variable {u : Setup} {honest : Bytes → Prop} {s s' : State}

theorem readProof_ok {prim : Primitives} {key compact : Bytes} {p : Payload}
    (read : readProof prim key compact = some p) : ∃ payloadPart signaturePart sig,
      splitAtByte 46 compact = [payloadPart, signaturePart] ∧
      Base64.decode signaturePart = some sig ∧ prim.verifySignature key payloadPart sig = true ∧
      (Base64.decode payloadPart).bind prim.unmarshal = some p := by
  unfold readProof at read
  split at read
  · cases read
  · split at read
    · rename_i payloadPart signaturePart parts
      split at read
      · cases read
      · obtain ⟨raw, decoded, read⟩ := Option.bind_eq_some_iff.mp read
        obtain ⟨payload, unmarshaled, read⟩ := Option.bind_eq_some_iff.mp read
        obtain ⟨sig, signature, read⟩ := Option.bind_eq_some_iff.mp read
        split at read
        · rename_i genuine
          cases read
          exact ⟨payloadPart, signaturePart, sig, parts, signature, genuine,
            by rw [decoded, Option.bind_some, unmarshaled]⟩
        · cases read
    · cases read

/-- What the verifier lets in agrees, under a challenge that this process gave out. -/
theorem accepts_agrees {v : Verification} (lets : accepts u s v)
    (unforged : Unforged u honest s v.compact v.now) : ∃ p raw, Agrees u honest s v p ∧
      (present u.prim s.secret (s.clock, some s.replay) v).1 = some (v.expectedID, p) ∧
      Base64.decode p.nonce = some raw ∧ raw ∈ s.minted := by
  obtain ⟨proof, shown⟩ := lets
  rcases present_guarded s.clock s.replay v with ⟨_, refused⟩ | ⟨p, valid, used⟩
  · rw [refused] at shown
    cases shown
  · obtain ⟨read, fields, nonce⟩ := authenticate_ok.mp valid
    obtain ⟨raw, minted, decoded⟩ := unforged.2 v.key p read nonce
    have told : (present u.prim s.secret (s.clock, some s.replay) v).1 = some (v.expectedID, p) := by
      rw [used] at shown ⊢
      dsimp only at shown ⊢
      split at shown
      · rename_i fresh
        rw [if_pos fresh]
      · cases shown
    simp only [fieldsMatch, Bool.and_eq_true, beq_iff_eq] at fields
    obtain ⟨⟨⟨⟨⟨⟨⟨⟨_, names⟩, _⟩, _⟩, method⟩, target⟩, body⟩, _⟩, _⟩ := fields
    obtain ⟨payloadPart, signaturePart, sig, parts, signature, genuine, meaning⟩ := readProof_ok read
    exact ⟨p, raw, ⟨read, names, method, target, body, ⟨raw, decoded, .inl minted⟩,
      fun keeps => ⟨payloadPart, unforged.1 v.key keeps payloadPart signaturePart sig parts signature
        genuine, meaning⟩⟩, told, decoded, minted⟩

/-- Beside the gateway nothing is ever taken back. -/
structure Grown (s s' : State) : Prop where
  signed : ∀ mark ∈ s.signed, mark ∈ s'.signed
  challenges : ∀ raw, raw ∈ s.minted ∨ raw ∈ s.retired → raw ∈ s'.minted ∨ raw ∈ s'.retired

theorem Grown.same (signed : s'.signed = s.signed) (minted : s'.minted = s.minted)
    (retired : s'.retired = s.retired) : Grown s s' :=
  ⟨fun _ member => signed ▸ member, fun _ member => minted ▸ retired ▸ member⟩

theorem Agrees.later {v : Verification} {p : Payload} (agrees : Agrees u honest s v p)
    (grown : Grown s s') : Agrees u honest s' v p := by
  obtain ⟨raw, decoded, given⟩ := agrees.challenged
  refine { agrees with challenged := ⟨raw, decoded, grown.challenges raw given⟩, signed := fun keeps => ?_ }
  obtain ⟨payloadPart, member, meaning⟩ := agrees.signed keeps
  exact ⟨payloadPart, grown.signed _ member, meaning⟩

/-- Every proof that was let in agrees; a request was let in under the key of the install it
names; and every install was registered under a proof of its own key. -/
structure Authentic (u : Setup) (honest : Bytes → Prop) (s : State) : Prop where
  agreed : ∀ a ∈ s.accepted, ∃ p, Agrees u honest s a.2 p
  served : ∀ v, (.request, v) ∈ s.accepted → ∃ id row, v.expectedID = utf8 id ∧
    s.gateway.db.installs.table.get? id = some row ∧ row.publicKey = v.key
  enrolled : ∀ id row, s.gateway.db.installs.table.get? id = some row →
    ∃ v, (.registration, v) ∈ s.accepted ∧ v.key = row.publicKey ∧
      v.expectedID = thumbprint u.prim row.publicKey

/-- The rows are as they were, but for what a new install brought. -/
def Brought (may : InstallRow → Prop) (s s' : Dashboard.State) : Prop :=
  ∀ id row', s'.db.installs.table.get? id = some row' →
    may row' ∨ ∃ row, s.db.installs.table.get? id = some row ∧ row'.publicKey = row.publicKey

theorem brought_moves {may : InstallRow → Prop} {g g' : Dashboard.State} (moves : Moves may g g') :
    Brought may g g' := by
  intro id row' held
  cases moves with
  | quiet rows silent names =>
    obtain ⟨seen, eq⟩ := rows id
    rw [eq] at held
    obtain ⟨row, found, rfl⟩ := Option.map_eq_some_iff.mp held
    exact .inr ⟨row, found, rfl⟩
  | registered own row fresh active inserts rows promised unnamed names =>
    rw [rows] at held
    split at held
    · exact .inl (Option.some.inj held ▸ inserts)
    · exact .inr ⟨row', held, rfl⟩
  | judged door action own reason status known rows promised names =>
    rw [rows] at held
    obtain ⟨row, found, rfl⟩ := Option.map_eq_some_iff.mp held
    refine .inr ⟨row, found, ?_⟩
    split <;> rfl

/-- Where nobody is let in and no key comes in, what was authentic stays so. -/
theorem Authentic.quiet (authentic : Authentic u honest s) (grown : Grown s s')
    (accepted : s'.accepted = s.accepted) (onward : Onward s.gateway s'.gateway)
    (brought : Brought (fun _ => False) s.gateway s'.gateway) : Authentic u honest s' where
  agreed a member := by
    obtain ⟨p, agrees⟩ := authentic.agreed a (accepted ▸ member)
    exact ⟨p, agrees.later grown⟩
  served v member := by
    obtain ⟨id, row, named, held, key⟩ := authentic.served v (accepted ▸ member)
    obtain ⟨row', held', key', _⟩ := onward.rows id row held
    exact ⟨id, row', named, held', key'.trans key⟩
  enrolled id row' held := by
    obtain ⟨row, found, key⟩ := (brought id row' held).resolve_left not_false
    rw [key, accepted]
    exact authentic.enrolled id row found

/-- A request that is let in names a registered install. -/
theorem authentic_request {v : Verification} (authentic : Authentic u honest s)
    (held : storedKey s.gateway.db.installs v.expectedID = some v.key) (lets : accepts u s v)
    (unforged : Unforged u honest s v.compact v.now) :
    Authentic u honest (lettingIn u .request v s) where
  agreed a member := by
    rcases List.mem_append.mp member with before | here
    · obtain ⟨p, agrees⟩ := authentic.agreed a before
      exact ⟨p, agrees.later (.same rfl rfl rfl)⟩
    · obtain ⟨p, _, agrees, _⟩ := accepts_agrees lets unforged
      rw [List.mem_singleton.mp here]
      exact ⟨p, agrees.later (.same rfl rfl rfl)⟩
  served w member := by
    rcases List.mem_append.mp member with before | here
    · exact authentic.served w before
    · cases List.mem_singleton.mp here
      obtain ⟨⟨id, row⟩, found, key⟩ := Option.map_eq_some_iff.mp held
      have named := List.find?_some found
      exact ⟨id, row, (of_decide_eq_true named).symm,
        Table.get?_eq_some.mpr (List.mem_of_find?_eq_some found), key⟩
  enrolled id row found := by
    obtain ⟨w, member, named⟩ := authentic.enrolled id row found
    exact ⟨w, List.mem_append_left _ member, named⟩

/-- A registration that is let in brings at most its own key. -/
theorem authentic_registration {v : Verification} {gateway : Dashboard.State}
    (authentic : Authentic u honest s) (own : v.expectedID = thumbprint u.prim v.key)
    (lets : accepts u s v) (unforged : Unforged u honest s v.compact v.now)
    (onward : Onward s.gateway gateway)
    (brought : Brought (fun row => row.publicKey = v.key) s.gateway gateway) :
    Authentic u honest { lettingIn u .registration v s with gateway := gateway } where
  agreed a member := by
    rcases List.mem_append.mp member with before | here
    · obtain ⟨p, agrees⟩ := authentic.agreed a before
      exact ⟨p, agrees.later (.same rfl rfl rfl)⟩
    · obtain ⟨p, _, agrees, _⟩ := accepts_agrees lets unforged
      rw [List.mem_singleton.mp here]
      exact ⟨p, agrees.later (.same rfl rfl rfl)⟩
  served w member := by
    rcases List.mem_append.mp member with before | here
    · obtain ⟨id, row, named, held, key⟩ := authentic.served w before
      obtain ⟨row', held', key', _⟩ := onward.rows id row held
      exact ⟨id, row', named, held', key'.trans key⟩
    · cases List.mem_singleton.mp here
  enrolled id row' found := by
    rcases brought id row' found with here | ⟨row, before, key⟩
    · exact ⟨v, List.mem_append_right _ List.mem_cons_self, here.symm, by rw [here, own]⟩
    · obtain ⟨w, member, named⟩ := authentic.enrolled id row before
      rw [key]
      exact ⟨w, List.mem_append_left _ member, named⟩

theorem authentic_step (event : Event) (ideal : Ideal u honest s event)
    (authentic : Authentic u honest s) : Authentic u honest (step u s event) := by
  have still {s' : State} (grown : Grown s s') (accepted : s'.accepted = s.accepted)
      (gateway : s'.gateway = s.gateway) : Authentic u honest s' :=
    authentic.quiet grown accepted (gateway ▸ .refl _)
      fun id row held => .inr ⟨row, gateway ▸ held, rfl⟩
  cases event with
  | sign key payloadPart =>
    exact still ⟨fun _ member => List.mem_append_left _ member, fun _ member => member⟩ rfl rfl
  | challenge now random =>
    exact still ⟨fun _ member => member, fun _ member => member.imp_left (List.mem_append_left _)⟩
      rfl rfl
  | request r fails now =>
    change Authentic u honest (request u r fails now s)
    rcases @request_cases u s r fails now with same | ⟨v, rfl, compact, held, ⟨_, same⟩ | ⟨lets, same⟩⟩
    · rw [same]
      exact still (.same rfl rfl rfl) rfl rfl
    · rw [same]
      exact still (.same rfl rfl rfl) rfl rfl
    · rw [same]
      exact authentic_request authentic held lets (compact ▸ ideal)
  | register r cfg powCfg installID regenerated now =>
    change Authentic u honest (register u r cfg powCfg installID regenerated now s)
    obtain ⟨nonces, results, same | same | ⟨v, rfl, compact, _, own, ⟨_, same⟩ | ⟨lets, call, key, same⟩⟩⟩ :=
      @register_cases u s r cfg powCfg installID regenerated now
    · rw [same]
      exact still (.same rfl rfl rfl) rfl rfl
    · rw [same]
      exact still (.same rfl rfl rfl) rfl rfl
    · rw [same]
      exact still (.same rfl rfl rfl) rfl rfl
    · rw [same]
      have moved := moves_register (s := s.gateway) u.env cfg call
      have counted : Authentic u honest { s with nonces := nonces, results := results } :=
        still (.same rfl rfl rfl) rfl rfl
      refine authentic_registration counted own lets (compact ▸ ideal) (onward_moves moved) ?_
      intro id row' found
      refine (brought_moves moved id row' found).imp_left fun here => ?_
      rw [here, ← key]
      rfl
  | operate event =>
    have kept (foreign : ∀ row, ¬Inserts u.env event row) :
        Authentic u honest { s with gateway := Dashboard.step u.env s.gateway event } := by
      have moved := moves_step (s := s.gateway) u.env event
      refine authentic.quiet (.same rfl rfl rfl) rfl (onward_moves moved) fun id row held => ?_
      exact (brought_moves moved id row held).imp_left (foreign row)
    cases event with
    | register cfg call => exact authentic
    | restart => exact authentic
    | visit visit => exact kept fun _ => id
    | ban fails installID reason => exact kept fun _ => id
    | unban fails installID => exact kept fun _ => id
    | runBan fails installID reason => exact kept fun _ => id
    | runUnban fails installID reason => exact kept fun _ => id
    | configApply refused overrides => exact kept fun _ => id
    | reset p reason => exact kept fun _ => id
    | exported now filename whole => exact kept fun _ => id
    | record turn now => exact kept fun _ => id
    | write turn => exact kept fun _ => id
    | killed turn => exact kept fun _ => id
  | restart secret =>
    have moved := moves_step (s := s.gateway) u.env .restart
    refine authentic.quiet ⟨fun _ member => member, fun raw given => .inr ?_⟩ rfl (onward_moves moved)
      (brought_moves moved)
    exact List.mem_append.mpr given.symm

end Agreement

/-! ## What is let in once -/

/-- What a door takes a proof for: whose it is expected to be, and what it says. -/
def proofOf (u : Setup) (a : Entrance × Verification) : Bytes × Option Payload :=
  (a.2.expectedID, readProof u.prim a.2.key a.2.compact)

/-- A proof that no door lets in again: its challenge died with an earlier process, or this
process has spent it. -/
def Used (s : State) (proof : Bytes × Option Payload) : Prop :=
  ∃ p raw, proof.2 = some p ∧ Base64.decode p.nonce = some raw ∧
    (raw ∈ s.retired ∨ raw ∈ s.minted ∧ Spent (s.clock, some s.replay) (proof.1, p))

/-- The guard is the production one, no challenge was given out by two processes, and the
proofs that were let in are different ones, and used. -/
structure Single (u : Setup) (s : State) : Prop where
  guarded : Guarded (s.clock, some s.replay)
  apart : ∀ raw ∈ s.minted, raw ∉ s.retired
  used : ∀ a ∈ s.accepted, Used s (proofOf u a)
  once : (s.accepted.map (proofOf u)).Nodup

section Once
variable {u : Setup} {honest : Bytes → Prop} {s s' : State}

theorem Single.kept (single : Single u s) (guarded : Guarded (s'.clock, some s'.replay))
    (apart : ∀ raw ∈ s'.minted, raw ∉ s'.retired) (accepted : s'.accepted = s.accepted)
    (used : ∀ proof, Used s proof → Used s' proof) : Single u s' where
  guarded := guarded
  apart := apart
  used a member := used _ (single.used a (accepted ▸ member))
  once := accepted ▸ single.once

/-- Time alone gives nothing back. -/
theorem Single.waited (single : Single u s) (replay : s'.replay = s.replay) (clock : s.clock ≤ s'.clock)
    (minted : s'.minted = s.minted) (retired : s'.retired = s.retired)
    (accepted : s'.accepted = s.accepted) : Single u s' := by
  refine single.kept ?_ (by rw [minted, retired]; exact single.apart) accepted ?_
  · rw [replay]
    exact single.guarded
  · rintro proof ⟨p, raw, read, decoded, gone | ⟨here, spent⟩⟩
    · exact ⟨p, raw, read, decoded, .inl (retired ▸ gone)⟩
    · refine ⟨p, raw, read, decoded, .inr ⟨minted ▸ here, ?_⟩⟩
      rw [replay]
      exact spent.imp_left fun closed => closed.later clock

theorem Punctual.timely {v : Verification} (punctual : Punctual u s v.compact v.now) :
    Timely u.prim (s.clock, some s.replay) v :=
  ⟨punctual.1, fun p read => punctual.2 v.key p read⟩

/-- What is judged in time leaves every used proof used. -/
theorem used_judging {v : Verification} (single : Single u s)
    (punctual : Punctual u s v.compact v.now) (proof : Bytes × Option Payload) (used : Used s proof) :
    Used (judging u v s) proof := by
  obtain ⟨p, raw, read, decoded, gone | ⟨here, spent⟩⟩ := used
  · exact ⟨p, raw, read, decoded, .inl gone⟩
  · refine ⟨p, raw, read, decoded, .inr ⟨here, ?_⟩⟩
    have kept := spent_kept u.prim s.secret (s.clock, some s.replay) v (proof.1, p) punctual.timely
      single.guarded spent
    rw [present_after] at kept
    exact kept

theorem single_judging {v : Verification} (single : Single u s)
    (punctual : Punctual u s v.compact v.now) : Single u (judging u v s) := by
  refine single.kept ?_ single.apart rfl (used_judging single punctual)
  have guarded := guarded_present u.prim s.secret (s.clock, some s.replay) v single.guarded
  rw [present_after] at guarded
  exact guarded

/-- A proof that is let in was not used, and is used by its admission. -/
theorem single_lettingIn {v : Verification} (door : Entrance) (single : Single u s)
    (punctual : Punctual u s v.compact v.now) (lets : accepts u s v)
    (unforged : Unforged u honest s v.compact v.now) : Single u (lettingIn u door v s) := by
  have judged := single_judging single punctual
  obtain ⟨p, raw, agrees, shown, decoded, minted⟩ := accepts_agrees lets unforged
  obtain ⟨unspent, spent⟩ := spent_accepted u.prim s.secret (s.clock, some s.replay) v
    (v.expectedID, p) punctual.timely single.guarded shown
  rw [present_after] at spent
  have proof : proofOf u (door, v) = (v.expectedID, some p) := by
    rw [← agrees.read]
    rfl
  have unused : ¬Used s (v.expectedID, some p) := by
    rintro ⟨q, other, same, decoded', gone | ⟨_, before⟩⟩
    · cases same
      cases decoded.symm.trans decoded'
      exact single.apart raw minted gone
    · cases same
      exact unspent before
  refine ⟨judged.guarded, judged.apart, ?_, ?_⟩
  · intro a member
    rcases List.mem_append.mp member with before | here
    · exact judged.used a before
    · rw [List.mem_singleton.mp here, proof]
      exact ⟨p, raw, rfl, decoded, .inr ⟨minted, spent⟩⟩
  · change ((s.accepted ++ [(door, v)]).map (proofOf u)).Nodup
    rw [List.map_append, List.map_singleton, proof]
    refine single.once.append (List.nodup_singleton _) ?_
    rw [List.disjoint_singleton]
    intro member
    obtain ⟨a, before, same⟩ := List.mem_map.mp member
    exact unused (same ▸ single.used a before)

/-- A step in which proofs are neither forged nor early leaves every proof used at most once. -/
theorem single_step (event : Event) (ideal : Ideal u honest s event) (onTime : OnTime u s event)
    (single : Single u s) : Single u (step u s event) := by
  cases event with
  | sign key payloadPart => exact single.waited rfl le_rfl rfl rfl rfl
  | challenge now random =>
    refine single.kept single.guarded ?_ rfl ?_
    · intro raw member
      rcases List.mem_append.mp member with before | here
      · exact single.apart raw before
      · rw [List.mem_singleton.mp here]
        exact ideal
    · rintro proof ⟨p, raw, read, decoded, gone | ⟨here, spent⟩⟩
      · exact ⟨p, raw, read, decoded, .inl gone⟩
      · exact ⟨p, raw, read, decoded, .inr ⟨List.mem_append_left _ here, spent⟩⟩
  | request r fails now =>
    change Single u (request u r fails now s)
    rcases @request_cases u s r fails now with
      same | ⟨v, rfl, compact, held, ⟨_, same⟩ | ⟨lets, same⟩⟩
    · rw [same]
      exact single.waited rfl onTime.1 rfl rfl rfl
    · rw [same]
      exact single_judging single (compact ▸ onTime)
    · rw [same]
      have unforged : Unforged u honest s v.compact v.now := compact ▸ ideal
      exact single_lettingIn .request single (compact ▸ onTime) lets unforged
  | register r cfg powCfg installID regenerated now =>
    change Single u (register u r cfg powCfg installID regenerated now s)
    obtain ⟨nonces, results, same | same | ⟨v, rfl, compact, _, own, ⟨_, same⟩ | ⟨lets, call, key, same⟩⟩⟩ :=
      @register_cases u s r cfg powCfg installID regenerated now
    · rw [same]
      exact single.waited rfl le_rfl rfl rfl rfl
    · rw [same]
      exact single.waited rfl onTime.1 rfl rfl rfl
    · rw [same]
      exact (single_judging single (compact ▸ onTime)).waited rfl le_rfl rfl rfl rfl
    · rw [same]
      have unforged : Unforged u honest s v.compact v.now := compact ▸ ideal
      have entered := single_lettingIn .registration single (compact ▸ onTime) lets unforged
      exact entered.waited rfl le_rfl rfl rfl rfl
  | operate event =>
    have kept : Single u { s with gateway := Dashboard.step u.env s.gateway event } :=
      single.waited rfl le_rfl rfl rfl rfl
    cases event with
    | register cfg call => exact single
    | restart => exact single
    | _ => exact kept
  | restart secret =>
    refine single.kept (guarded_production s.clock) (fun raw member => by cases member) rfl ?_
    rintro proof ⟨p, raw, read, decoded, gone | ⟨here, _⟩⟩
    · exact ⟨p, raw, read, decoded, .inl (List.mem_append_left _ gone)⟩
    · exact ⟨p, raw, read, decoded, .inl (List.mem_append_right _ here)⟩

end Once

/-! ## The headline -/

theorem authentic_start (u : Setup) (honest : Bytes → Prop) (secret : Bytes) :
    Authentic u honest (.start secret) where
  agreed a member := by cases member
  served v member := by cases member
  enrolled id row held := by cases held

theorem single_start (u : Setup) (secret : Bytes) : Single u (.start secret) where
  guarded := guarded_production 0
  apart raw member := by cases member
  used a member := by cases member
  once := List.nodup_nil

/-- **Whose request it is.** In every run of registrations, requests, operators and restarts
in which nobody forges a signature or a challenge, whatever a door has let in says who asks
for what, under a challenge that the gateway gave out, and the holder of an honest key has
signed it for just that; a request is let in under the key of the install it names, and
every install was registered under a proof of its own key. If moreover proofs come no
earlier than half a minute before their date, none is let in twice, at either door, across
restarts. -/
theorem requests_authentic (u : Setup) (honest : Bytes → Prop) (secret : Bytes) (events : List Event)
    (ideal : AllAlong (step u) (Ideal u honest) (.start secret) events) :
    Authentic u honest (run u (.start secret) events) ∧
      (AllAlong (step u) (OnTime u) (.start secret) events →
        ((run u (.start secret) events).accepted.map (proofOf u)).Nodup) := by
  constructor
  · exact runSteps_invariant_along (fun _ event ideal authentic => authentic_step event ideal authentic)
      (authentic_start u honest secret) ideal
  · intro onTime
    have single : Single u (run u (.start secret) events) :=
      runSteps_invariant_along (fun _ event good single => single_step event good.1 good.2 single)
        (single_start u secret) (ideal.both onTime)
    exact single.once

/-! ## A device registers, asks and is overheard -/

/-- What the device signs to register with the body `{}`, under the nonce of the recorded
proof, one and a half minutes before it. -/
def installPart : Bytes := List.flatMap utf8
  ["eyJ2IjoxLCJraWQiOiJWa2RhcDFSal", "Iwd0NoZDlkdnl2S3R6Mm1VVFdJT2Vt", "M2RJR3k2ckVIY0l3IiwiaWF0IjoxNz",
   "YwMDAwMDAwLCJqdGkiOiJyMSIsIm5v", "bmNlIjoiQUFBQUFHam5lQUFBQVFJRE", "JBVUdCd2dKQ2dzTURRNFBRd21tc1Nj",
   "WmpwOXhib3RKNEJLcFFzV1VSVWVVdG", "tfaTRGNGtNVWxCZEJBIiwiaHRtIjoi", "UE9TVCIsImh0dSI6Ii92MS9pbnN0YW",
   "xsIiwiYmgiOiJSQk52bzFXelo0b1JS", "cTBXOS1oa25wVDdUOElmNTM2REVNQm", "c5aHlxXzRvIn0"]

def installSignature : Bytes := List.flatMap utf8
  ["dbN72X2wN6hQl4UrRYDncv4qyTEAom", "eez0pbENpeyVOeGYLAEU1mLELMC-RG", "oCJ2PEqcWAYaZQLNMQQ_sx9bAg"]

def deviceThumbprint : Bytes := utf8 "Vkdap1RjR0wChd9dvyvKtz2mUTWIOem3dIGy6rEHcIw"

def installPayload : Payload :=
  { proofPayload with
    keyID := deviceThumbprint
    issued := 1760000000
    id := utf8 "r1"
    target := utf8 "/v1/install" }

/-- What the standard library answers on both proofs. -/
def bothRecorded : Primitives where
  sha256 message :=
    if message = deviceKey then (Base64.decode deviceThumbprint).getD []
    else recordedPrimitives.sha256 message
  hmac := recordedPrimitives.hmac
  verifySignature key message sig :=
    recordedPrimitives.verifySignature key message sig ||
      decide (key = deviceKey ∧ message = installPart ∧ some sig = Base64.decode installSignature)
  unmarshal raw :=
    if some raw = Base64.decode installPart then some installPayload else recordedPrimitives.unmarshal raw

def recordedSetup : Setup where
  beyond := id
  prim := bothRecorded
  pow := ⟨fun _ => [], fun _ _ => List.replicate 32 0, fun _ _ => List.length_replicate⟩
  decode raw := if raw = [123, 125] then some ⟨"", ""⟩ else none
  env := ⟨id, fun _ => "day", fun _ => "hour", id⟩

/-- A request for a path with the body `{}`. -/
def ask (path : String) (compact : Bytes) : HTTPRequest where
  method := "POST"
  host := ""
  escapedPath := path
  rawQuery := ""
  installID := "ins_1"
  proof := compact
  publicKey := utf8 "A6EHv_POEL4dcN0Y50vAmWfk1jCbpQ1fHdyGZBJVMbg"
  pow := []
  ipKey := "ip"
  body := .ok [123, 125]

theorem open_perIPHour : (0 : ℤ) ≤ 0 ∧ (0 : ℤ) ≤ Install.maxInstallPerIPHour := by decide

theorem open_globalDailyCap : (0 : ℤ) ≤ 0 ∧ (0 : ℤ) ≤ Install.maxInstallGlobalDailyCap := by decide

theorem open_perFPDaily : (0 : ℤ) ≤ 0 ∧ (0 : ℤ) ≤ Install.maxInstallPerFPDaily := by decide

theorem open_perFPCooldown : (0 : ℤ) ≤ 0 ∧ (0 : ℤ) ≤ Install.maxInstallPerFPCooldownSec := by decide

/-- No limit on registrations. -/
def openConfig : Install.Config where
  installPerIPHour := 0
  installGlobalDailyCap := 0
  installPerFPDaily := 0
  installPerFPCooldownSec := 0
  monthlyQuota := 100
  perIPHour_bounds := open_perIPHour
  globalDailyCap_bounds := open_globalDailyCap
  perFPDaily_bounds := open_perFPDaily
  perFPCooldown_bounds := open_perFPCooldown

def recordedRun : List Event :=
  [.challenge (unix 1760000000) ⟨#[0, 1, 2, 3, 4, 5, 6, 7, 8, 9, 10, 11, 12, 13, 14, 15], rfl⟩,
    .sign deviceKey installPart,
    .register (ask "/v1/install" (installPart ++ 46 :: installSignature)) openConfig ⟨"off", [], 0⟩
      "ins_1" "ins_2" (unix 1760000000),
    .sign deviceKey payloadPart,
    .request (ask "/v1/usage" (payloadPart ++ 46 :: signaturePart)) false (unix 1760000090),
    .request (ask "/v1/usage" (payloadPart ++ 46 :: signaturePart)) false (unix 1760000091),
    .restart (List.replicate 32 8),
    .request (ask "/v1/usage" (payloadPart ++ 46 :: signaturePart)) false (unix 1760000092)]

/-- The recorded answers vouch for what the device has signed and for one nonce. -/
theorem recorded_unforged {s : State} {compact part sig : Bytes} {now : ℤ}
    (parts : splitAtByte 46 compact = [part, sig]) (signed : (deviceKey, part) ∈ s.signed)
    (given : s.secret = nonceSecret → (Base64.decode proofNonce).getD [] ∈ s.minted) :
    Unforged recordedSetup (fun _ => True) s compact now := by
  constructor
  · intro key _ payloadPart signaturePart sig' parts' _ genuine
    have whole := parts.symm.trans parts'
    injection whole with same _
    simp only [recordedSetup, bothRecorded, recordedPrimitives, Bool.or_eq_true,
      decide_eq_true_eq] at genuine
    have own : key = deviceKey := by rcases genuine with ⟨key, _⟩ | ⟨key, _⟩ <;> exact key
    rw [own, ← same]
    exact signed
  · intro key p _ valid
    unfold validNonce at valid
    cases decoded : Base64.decode p.nonce with
    | none => simp [decoded] at valid
    | some raw =>
      simp only [decoded] at valid
      split at valid
      · cases valid
      · rename_i width
        split at valid
        · cases valid
        · rename_i tagged
          -- The recorded tag is empty for anything but the one nonce.
          have tag := not_not.mp tagged
          simp only [recordedSetup, bothRecorded, recordedPrimitives] at tag
          split at tag
          · rename_i one
            have same : raw = (Base64.decode proofNonce).getD [] := by
              rw [← List.take_append_drop 24 raw, tag, one.2, List.take_append_drop]
            exact ⟨raw, same ▸ given one.1, rfl⟩
          · have short := congrArg List.length tag
            simp only [List.length_drop, List.length_nil, sha256Size] at short width
            omega

/-- A proof that says what is recorded, presented from half a minute before its date on. -/
theorem recorded_punctual {s : State} {compact part sig : Bytes} {p : Payload} {now : ℤ}
    (parts : splitAtByte 46 compact = [part, sig])
    (meaning : (Base64.decode part).bind bothRecorded.unmarshal = some p) (clock : s.clock ≤ now)
    (early : unix p.issued.toInt < now + 30 * second) : Punctual recordedSetup s compact now := by
  refine ⟨clock, fun key q read => ?_⟩
  obtain ⟨part', _, _, parts', _, _, meaning'⟩ := readProof_ok read
  have whole := parts.symm.trans parts'
  injection whole with same _
  have told : (Base64.decode part).bind bothRecorded.unmarshal = some q := same ▸ meaning'
  cases meaning.symm.trans told
  exact .inl early

/-- The registration and the request are let in; the request that was overheard is not, at
once or after a restart. -/
theorem recorded_authentic :
    (run recordedSetup (.start nonceSecret) recordedRun).accepted.map Prod.fst =
        [.registration, .request] ∧
      Authentic recordedSetup (fun _ => True) (run recordedSetup (.start nonceSecret) recordedRun) ∧
      ((run recordedSetup (.start nonceSecret) recordedRun).accepted.map
        (proofOf recordedSetup)).Nodup := by
  have installed : splitAtByte 46 (installPart ++ 46 :: installSignature) =
      [installPart, installSignature] := by decide +kernel
  have used : splitAtByte 46 (payloadPart ++ 46 :: signaturePart) = [payloadPart, signaturePart] := by
    decide +kernel
  have installing : (Base64.decode installPart).bind bothRecorded.unmarshal = some installPayload := by
    decide +kernel
  have using_ : (Base64.decode payloadPart).bind bothRecorded.unmarshal = some proofPayload := by
    decide +kernel
  have ideal : AllAlong (step recordedSetup) (Ideal recordedSetup fun _ => True) (.start nonceSecret)
      recordedRun := by
    refine ⟨by simp [Ideal, State.start], trivial, recorded_unforged installed ?_ fun _ => ?_, trivial,
      recorded_unforged used ?_ fun _ => ?_, recorded_unforged used ?_ fun _ => ?_, trivial,
      recorded_unforged used ?_ fun secret => ?_, trivial⟩
    all_goals first | decide +kernel | exact absurd secret (by decide +kernel)
  have onTime : AllAlong (step recordedSetup) (OnTime recordedSetup) (.start nonceSecret)
      recordedRun := by
    refine ⟨trivial, trivial, recorded_punctual installed installing ?_ ?_, trivial,
      recorded_punctual used using_ ?_ ?_, recorded_punctual used using_ ?_ ?_, trivial,
      recorded_punctual used using_ ?_ ?_, trivial⟩
    all_goals decide +kernel
  refine ⟨by decide +kernel, ?_⟩
  obtain ⟨authentic, once⟩ := requests_authentic recordedSetup (fun _ => True) nonceSecret recordedRun ideal
  exact ⟨authentic, once onTime⟩

end AnselmGateway.RequestAuthenticity
