import Mathlib.Algebra.Order.Ring.Int
import AnselmGateway.DeviceProof
import AnselmGateway.Foundation.Run
import AnselmGateway.NonceCacheSemantics

/-! Single use of device proofs. A replay entry lives two minutes, a proof is
accepted for up to three: from 90 seconds before its issue time to 90 seconds
after. A proof is single-use exactly when its first acceptance comes late enough
for the entry to outlive what is left of that window. -/
namespace AnselmGateway.DeviceProofReplay
open Foundation NonceCache NonceCacheSemantics DeviceProof

variable (prim : Primitives) (secret : Bytes)

/-- One call of the verifier. -/
structure Verification where
  req : Request
  expectedID : Bytes
  key : Bytes
  compact : Bytes
  now : ℤ

/-- What identifies a signed proof: whose it is expected to be, and what it says. -/
abbrev SignedProof := Bytes × Payload

/-- The last clock reading, and the replay guard. -/
abbrev State := ℤ × Option (Cache Bytes)

/-- One verification as a machine step that answers with the proof it accepted. -/
def present (state : State) (v : Verification) : Option SignedProof × State :=
  match verify prim secret v.req v.expectedID v.key v.compact v.now state.2 with
  | (.ok p, replay) => (some (v.expectedID, p), (v.now, replay))
  | (.error _, replay) => (none, (v.now, replay))

/-- No later reading can accept this payload again. -/
def WindowClosed (p : Payload) (now : ℤ) : Prop :=
  unix p.issued.toInt + proofSkew < now ∨
    ∃ issued, nonceIssued p.nonce = some issued ∧ issued + nonceTTL ≤ now

theorem WindowClosed.later {p : Payload} {now later : ℤ} (closed : WindowClosed p now)
    (after : now ≤ later) : WindowClosed p later := by
  rcases closed with late | ⟨issued, read, expired⟩
  · exact .inl (late.trans_le after)
  · exact .inr ⟨issued, read, expired.trans after⟩

/-- The proof, if the call carries one, is dated less than 30 seconds ahead of
the clock, or its nonce is at least three minutes old. -/
def Outlived (v : Verification) : Prop :=
  ∀ p, readProof prim v.key v.compact = some p →
    unix p.issued.toInt < v.now + 30 * second ∨
      ∃ issued, nonceIssued p.nonce = some issued ∧ issued + 3 * minute ≤ v.now

/-- Along a run, the clock does not go back and every call is outlived by its
replay entry. -/
def Timely (state : State) (v : Verification) : Prop := state.1 ≤ v.now ∧ Outlived prim v

/-! ## One verification -/

section Verify
variable {prim} {secret}

theorem validNonce_ok {encoded : Bytes} {now : ℤ} :
    validNonce prim secret encoded now = true →
      ∃ issued, nonceIssued encoded = some issued ∧ issued ≤ now + proofSkew ∧ now < issued + nonceTTL := by
  unfold validNonce nonceIssued
  cases Base64.decode encoded with
  | none => simp
  | some raw =>
    dsimp only
    split
    · simp
    · rename_i width
      rw [if_pos (not_not.mp width)]
      split
      · simp
      · intro valid
        simp only [Bool.and_eq_true, Bool.not_eq_true', decide_eq_false_iff_not,
          decide_eq_true_eq, not_lt] at valid
        exact ⟨_, rfl, valid⟩

/-- A nonce that was valid stays valid until it expires. -/
theorem validNonce_later {encoded : Bytes} {now later : ℤ}
    (valid : validNonce prim secret encoded now = true) (after : now ≤ later)
    (unexpired : ∀ issued, nonceIssued encoded = some issued → later < issued + nonceTTL) :
    validNonce prim secret encoded later = true := by
  obtain ⟨issued, read, past, _⟩ := validNonce_ok valid
  have fresh := unexpired issued read
  unfold validNonce at valid ⊢
  unfold nonceIssued at read
  cases decoded : Base64.decode encoded with
  | none => simp [decoded] at valid
  | some raw =>
    simp only [decoded] at valid read ⊢
    split at valid
    · cases valid
    · rename_i width
      rw [if_pos (not_not.mp width)] at read
      cases read
      split at valid
      · cases valid
      · rename_i authentic
        rw [if_neg width, if_neg authentic]
        simp only [Bool.and_eq_true, Bool.not_eq_true', decide_eq_false_iff_not, decide_eq_true_eq,
          not_lt]
        exact ⟨past.trans (Int.add_le_add_right after _), fresh⟩

theorem authenticate_ok {req : Request} {expectedID key compact : Bytes} {now : ℤ} {p : Payload} :
    authenticate prim secret req expectedID key compact now = .ok p ↔
      readProof prim key compact = some p ∧ fieldsMatch prim req expectedID p now = true ∧
        validNonce prim secret p.nonce now = true := by
  unfold authenticate
  cases read : readProof prim key compact with
  | none => simp
  | some stored =>
    dsimp only
    constructor
    · intro valid
      split at valid
      · cases valid
      · rename_i fields
        split at valid
        · cases valid
        · rename_i nonce
          cases valid
          exact ⟨rfl, by simpa using fields, by simpa using nonce⟩
    · rintro ⟨same, fields, nonce⟩
      cases same
      simp [fields, nonce]

/-- An authenticated proof is inside its window. -/
theorem authenticate_open {req : Request} {expectedID key compact : Bytes} {now : ℤ} {p : Payload}
    (valid : authenticate prim secret req expectedID key compact now = .ok p) :
    ¬WindowClosed p now := by
  obtain ⟨_, fields, nonce⟩ := authenticate_ok.mp valid
  obtain ⟨issued, read, _, fresh⟩ := validNonce_ok nonce
  simp only [fieldsMatch, Bool.and_eq_true, Bool.not_eq_true', decide_eq_false_iff_not, not_lt] at fields
  rintro (late | ⟨other, reread, expired⟩)
  · have early := fields.1.2
    omega
  · rw [read] at reread
    cases reread
    omega

/-- Against a guard, a verification is refused before the guard is read, or is
decided by one use of it. -/
theorem present_guarded (clock : ℤ) (guard : Cache Bytes) (v : Verification) :
    ((∀ p, authenticate prim secret v.req v.expectedID v.key v.compact v.now ≠ .ok p) ∧
      present prim secret (clock, some guard) v = (none, (v.now, some guard))) ∨
    ∃ p, authenticate prim secret v.req v.expectedID v.key v.compact v.now = .ok p ∧
      present prim secret (clock, some guard) v =
        (if (guard.useOnce v.now (replayKey v.expectedID p.id)).1 then some (v.expectedID, p) else none,
          (v.now, some (guard.useOnce v.now (replayKey v.expectedID p.id)).2)) := by
  unfold present verify
  cases verdict : authenticate prim secret v.req v.expectedID v.key v.compact v.now with
  | error failure => exact .inl ⟨by simp, rfl⟩
  | ok p =>
    refine .inr ⟨p, rfl, ?_⟩
    dsimp only
    rcases guard.useOnce v.now (replayKey v.expectedID p.id) with ⟨_ | _, guard'⟩ <;> rfl

end Verify

/-! ## Runs -/

/-- The guard is the production one, whatever it holds by now. -/
def Guarded (state : State) : Prop :=
  ∃ guard, state.2 = some guard ∧ Coherent guard ∧ guard.failClosed = true ∧ guard.ttl = 2 * minute

/-- A proof that cannot be accepted any more: its window has closed, or a live
replay entry lasts until it has. -/
def Spent (state : State) (proof : SignedProof) : Prop :=
  WindowClosed proof.2 state.1 ∨ ∃ guard e, state.2 = some guard ∧ e ∈ guard.ll ∧
    e.challenge = replayKey proof.1 proof.2.id ∧ WindowClosed proof.2 e.expireAt

theorem guarded_present (state : State) (v : Verification) (guarded : Guarded state) :
    Guarded (present prim secret state v).2 := by
  obtain ⟨clock, replay⟩ := state
  obtain ⟨guard, rfl, agree, closed, lifetime⟩ := guarded
  rcases present_guarded clock guard v with ⟨_, refused⟩ | ⟨p, _, used⟩
  · rw [refused]
    exact ⟨guard, rfl, agree, closed, lifetime⟩
  · rw [used]
    obtain ⟨_, sameTtl, sameMode⟩ := useOnce_settings guard v.now (replayKey v.expectedID p.id)
    exact ⟨_, rfl, useOnce_coherent agree _ _, sameMode.trans closed, sameTtl.trans lifetime⟩

/-- An accepted proof was not spent, and is spent by its acceptance. -/
theorem spent_accepted (state : State) (v : Verification) (proof : SignedProof)
    (timely : Timely prim state v) (guarded : Guarded state)
    (accepted : (present prim secret state v).1 = some proof) :
    ¬Spent state proof ∧ Spent (present prim secret state v).2 proof := by
  obtain ⟨clock, replay⟩ := state
  obtain ⟨guard, rfl, agree, closed, lifetime⟩ := guarded
  rcases present_guarded clock guard v with ⟨_, refused⟩ | ⟨p, valid, used⟩
  · rw [refused] at accepted
    cases accepted
  · rw [used] at accepted ⊢
    dsimp only at accepted
    split at accepted
    · rename_i fresh
      cases accepted
      have inside := authenticate_open valid
      obtain ⟨unused, stored⟩ := useOnce_admitted agree closed fresh
      refine ⟨?_, .inr ⟨_, _, rfl, stored, rfl, ?_⟩⟩
      · rintro (elapsed | ⟨other, e, same, held, named, closes⟩)
        · exact inside (elapsed.later timely.1)
        · cases same
          have expired := unused e held named
          refine inside (closes.later ?_)
          simpa [Live] using expired
      · -- The entry lives two minutes from now; the call is timely.
        rw [lifetime]
        change WindowClosed p (v.now + 2 * minute)
        rcases timely.2 p (authenticate_ok.mp valid).1 with early | ⟨issued, read, old⟩
        · left
          simp only [proofSkew, minute, second] at early ⊢
          omega
        · right
          refine ⟨issued, read, ?_⟩
          simp only [nonceTTL, minute] at old ⊢
          omega
    · cases accepted

/-- A spent proof stays spent as long as the clock does not go back. -/
theorem spent_kept (state : State) (v : Verification) (proof : SignedProof)
    (timely : Timely prim state v) (guarded : Guarded state) (spent : Spent state proof) :
    Spent (present prim secret state v).2 proof := by
  obtain ⟨clock, replay⟩ := state
  obtain ⟨guard, rfl, agree, closed, _⟩ := guarded
  have now : (present prim secret (clock, some guard) v).2.1 = v.now := by
    rcases present_guarded clock guard v with ⟨_, refused⟩ | ⟨p, _, used⟩
    · rw [refused]
    · rw [used]
  rcases spent with elapsed | ⟨other, e, same, held, named, closes⟩
  · exact .inl (now ▸ elapsed.later timely.1)
  · cases same
    by_cases alive : Live v.now e = true
    · refine .inr ?_
      rcases present_guarded clock guard v with ⟨_, refused⟩ | ⟨p, _, used⟩
      · rw [refused]
        exact ⟨guard, e, rfl, held, named, closes⟩
      · rw [used]
        exact ⟨_, e, rfl, useOnce_keeps_live agree closed held alive _, named, closes⟩
    · refine .inl (now ▸ closes.later ?_)
      simpa [Live] using alive

theorem guarded_production (start : ℤ) : Guarded (start, some productionGuard) :=
  ⟨productionGuard, rfl, coherent_newFailClosed _ _, rfl, rfl⟩

/-! ## The two minutes are too short -/

section Early
variable {prim} {secret}

/-- A proof still dated half a minute ahead, under a young nonce, authenticates
again two minutes on. -/
theorem authenticate_again {v : Verification} {p : Payload}
    (valid : authenticate prim secret v.req v.expectedID v.key v.compact v.now = .ok p)
    (early : ¬Outlived prim v) :
    authenticate prim secret v.req v.expectedID v.key v.compact (v.now + 2 * minute) = .ok p := by
  obtain ⟨read, fields, nonce⟩ := authenticate_ok.mp valid
  obtain ⟨issued, readNonce, past, fresh⟩ := validNonce_ok nonce
  simp only [Outlived, not_forall] at early
  obtain ⟨other, reread, ahead⟩ := early
  cases read.symm.trans reread
  obtain ⟨dated, young⟩ := not_or.mp ahead
  have unexpired : ¬issued + 3 * minute ≤ v.now := fun old => young ⟨issued, readNonce, old⟩
  refine authenticate_ok.mpr ⟨read, ?_, ?_⟩
  · simp only [fieldsMatch, Bool.and_eq_true, Bool.not_eq_true', decide_eq_false_iff_not,
      not_lt] at fields ⊢
    refine ⟨⟨fields.1.1, ?_⟩, ?_⟩
    · simp only [proofSkew, minute, second] at dated ⊢
      omega
    · have ahead := fields.2
      simp only [proofSkew, minute, second] at ahead ⊢
      omega
  · refine validNonce_later nonce (by simp only [minute]; omega) fun stated same => ?_
    rw [readNonce] at same
    cases same
    simp only [nonceTTL, minute] at unexpired ⊢
    omega

/-- An accepted call that is not outlived by its entry can be replayed. -/
theorem early_proof_replayed {state : State} {v : Verification} {proof : SignedProof}
    (guarded : Guarded state) (accepted : (present prim secret state v).1 = some proof)
    (early : ¬Outlived prim v) :
    (present prim secret (present prim secret state v).2
      { v with now := v.now + 2 * minute }).1 = some proof := by
  obtain ⟨clock, replay⟩ := state
  obtain ⟨guard, rfl, agree, closed, lifetime⟩ := guarded
  rcases present_guarded clock guard v with ⟨_, refused⟩ | ⟨p, valid, used⟩
  · rw [refused] at accepted
    cases accepted
  · rw [used] at accepted ⊢
    dsimp only at accepted ⊢
    split at accepted
    · rename_i fresh
      cases accepted
      have stored := (useOnce_admitted agree closed fresh).2
      have expired : Live (v.now + 2 * minute)
          (⟨replayKey v.expectedID p.id, v.now + guard.ttl⟩ : Entry Bytes) = false := by
        simp [Live, lifetime]
      have agree' := useOnce_coherent agree v.now (replayKey v.expectedID p.id)
      have reused := (useOnce_known agree' stored (v.now + 2 * minute)).1
      rw [if_neg (by simp [expired])] at reused
      rcases present_guarded v.now (guard.useOnce v.now (replayKey v.expectedID p.id)).2
          { v with now := v.now + 2 * minute } with ⟨never, _⟩ | ⟨again, revalid, present⟩
      · exact absurd (authenticate_again valid early) (never p)
      · have same : again = p := by
          have := (authenticate_again valid early).symm.trans revalid
          cases this
          rfl
        subst same
        rw [present]
        simp only [reused, ↓reduceIte]
    · cases accepted

end Early

/-! ## Single use -/

/-- The proofs a run of verifications accepts under the production guard. -/
def acceptedProofs (start : ℤ) (calls : List Verification) : List SignedProof :=
  accepted (present prim secret) (start, some productionGuard) calls

/-- **A device proof is single-use while its entry outlives it.** In every run
whose clock does not go back and whose calls are all outlived by their entries,
no proof is accepted twice; and a call that is accepted without being outlived is
accepted again two minutes later. -/
theorem proofs_single_use :
    (∀ start calls, AllAlong (fun state v => (present prim secret state v).2) (Timely prim)
        (start, some productionGuard) calls → (acceptedProofs prim secret start calls).Nodup) ∧
    (∀ state v proof, Guarded state → (present prim secret state v).1 = some proof →
      ¬Outlived prim v →
      (present prim secret (present prim secret state v).2
        { v with now := v.now + 2 * minute }).1 = some proof) :=
  ⟨fun start _ timely => (accepted_nodup
      (fun state v _ guarded => guarded_present prim secret state v guarded)
      (spent_accepted prim secret) (spent_kept prim secret) (guarded_production start) timely).1,
    fun _ _ _ guarded accepted early => early_proof_replayed guarded accepted early⟩

/-! ## A proof accepted twice -/

/-- A device key, and a proof it signed for `POST /v1/usage` with the body `{}`,
dated 90 seconds after second 1760000000. -/
def deviceKey : Bytes :=
  (Base64.decode (utf8 "A6EHv_POEL4dcN0Y50vAmWfk1jCbpQ1fHdyGZBJVMbg")).getD []

def payloadPart : Bytes := List.flatMap utf8
  ["eyJ2IjoxLCJraWQiOiJpbnNfMSIsIm", "lhdCI6MTc2MDAwMDA5MCwianRpIjoi", "cDEiLCJub25jZSI6IkFBQUFBR2puZU",
   "FBQUFRSURCQVVHQndnSkNnc01EUTRQ", "UXdtbXNTY1pqcDl4Ym90SjRCS3BRc1", "dVUlVlVXRrX2k0RjRrTVVsQmRCQSIs",
   "Imh0bSI6IlBPU1QiLCJodHUiOiIvdj", "EvdXNhZ2UiLCJiaCI6IlJCTnZvMVd6", "WjRvUlJxMFc5LWhrbnBUN1Q4SWY1Mz",
   "ZERU1CZzloeXFfNG8ifQ"]

def signaturePart : Bytes := List.flatMap utf8
  ["m3v1hPqjEfZvCp22Ozucql7uN6UpTO", "WasOPu7K6K_pCOgapND6vpmCL-jjAH", "Ud2AOgTXXNJMat46P3jtlFRvAQ"]

def usageRequest : Request := ⟨utf8 "POST", utf8 "/v1/usage", [123, 125]⟩

/-- The nonce of the proof, issued at second 1760000000. -/
def proofNonce : Bytes := List.flatMap utf8
  ["AAAAAGjneAAAAQIDBAUGBwgJCgsMDQ", "4PQwmmsScZjp9xbotJ4BKpQsWURUeU", "tk_i4F4kMUlBdBA"]

def proofPayload : Payload where
  version := 1
  keyID := utf8 "ins_1"
  issued := 1760000090
  id := utf8 "p1"
  nonce := proofNonce
  method := utf8 "POST"
  target := utf8 "/v1/usage"
  body := utf8 "RBNvo1WzZ4oRRq0W9-hknpT7T8If536DEMBg9hyq_4o"

/-- The server secret the nonce was issued under. -/
def nonceSecret : Bytes := List.replicate 32 7

/-- What the standard library answers on this proof. -/
def recordedPrimitives : Primitives where
  sha256 message :=
    if message = usageRequest.body then (Base64.decode proofPayload.body).getD [] else []
  hmac key message :=
    let raw := (Base64.decode proofNonce).getD []
    if key = nonceSecret ∧ message = raw.take 24 then raw.drop 24 else []
  verifySignature key message sig :=
    decide (key = deviceKey ∧ message = payloadPart ∧ some sig = Base64.decode signaturePart)
  unmarshal raw := if some raw = Base64.decode payloadPart then some proofPayload else none

/-- One presentation of the proof, so many seconds after its nonce was issued. -/
def presentedAfter (seconds : ℤ) : Verification :=
  ⟨usageRequest, utf8 "ins_1", deviceKey, payloadPart ++ 46 :: signaturePart,
    unix (1760000000 + seconds)⟩

/-- The proof is accepted 90 seconds before its date, and again two minutes
later, when its replay entry has just expired. -/
theorem proof_accepted_twice :
    AllAlong (fun state v => (present recordedPrimitives nonceSecret state v).2)
        (fun state v => state.1 ≤ v.now) (0, some productionGuard)
        [presentedAfter 0, presentedAfter 120] ∧
      ¬(acceptedProofs recordedPrimitives nonceSecret 0 [presentedAfter 0, presentedAfter 120]).Nodup := by
  constructor
  · exact ⟨by decide, by decide +kernel, trivial⟩
  · decide +kernel

/-- Presented from its date on, the same proof is accepted once. -/
theorem proofs_single_use_on_time :
    (acceptedProofs recordedPrimitives nonceSecret 0 [presentedAfter 90, presentedAfter 180]).Nodup := by
  have read : readProof recordedPrimitives deviceKey (payloadPart ++ 46 :: signaturePart) =
      some proofPayload := by decide +kernel
  have onTime (seconds : ℤ) (late : 90 ≤ seconds) :
      Outlived recordedPrimitives (presentedAfter seconds) := by
    intro p same
    cases read.symm.trans same
    left
    change (1760000090 : ℤ) * second < (1760000000 + seconds) * second + 30 * second
    unfold second
    omega
  exact (proofs_single_use recordedPrimitives nonceSecret).1 0 [presentedAfter 90, presentedAfter 180]
    ⟨⟨by decide, onTime 90 (by decide)⟩, ⟨by decide +kernel, onTime 180 (by decide)⟩, trivial⟩

end AnselmGateway.DeviceProofReplay
