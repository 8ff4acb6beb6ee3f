import AnselmGateway.Foundation.Run
import AnselmGateway.NonceCacheSemantics
import AnselmGateway.ProofOfWork

/-! Single use of proof-of-work challenges. The tag authenticates the decoded
bytes of a challenge and the replay set remembers its text, so a challenge is
single-use exactly as long as it is presented in the one spelling Mint writes.
The evicting replay set itself loses no entry that still matters: an entry lives
ten minutes, and its challenge can be presented for four. -/
namespace AnselmGateway.ProofOfWorkReplay
open Foundation NonceCache NonceCacheSemantics ProofOfWork

variable (prim : Primitives) (secret : Bytes)

/-- One call of the verifier. -/
structure Redemption where
  challenge : Bytes
  nonce : Bytes
  difficulty : ℤ
  now : ℤ

/-- The last clock reading, and the replay set. -/
abbrev State := ℤ × Cache Bytes

/-- One call as a machine step that answers with the decoded challenge it
redeemed. -/
def redeem (state : State) (call : Redemption) : Option Bytes × State :=
  match verify prim secret call.challenge call.nonce call.difficulty call.now state.2 with
  | (.ok (), nonces) => (Base64.decode call.challenge, (call.now, nonces))
  | (.error _, nonces) => (none, (call.now, nonces))

/-- The challenges a run of calls redeems against the production replay set. -/
def redeemed (start : ℤ) (calls : List Redemption) : List Bytes :=
  accepted (redeem prim secret) (start, productionNonces) calls

/-- The clock does not go back, and the live entries leave room. -/
def Orderly (state : State) (call : Redemption) : Prop :=
  state.1 ≤ call.now ∧ state.2.ll.countP (Live call.now) < state.2.max

/-- An orderly call in the spelling of Mint. -/
def Spelled (state : State) (call : Redemption) : Prop :=
  Orderly state call ∧ Base64.Canonical call.challenge

/-- A challenge carries a tag of the server. -/
def Authentic (raw : Bytes) : Prop :=
  raw.length = rawLen ∧ raw.drop (randLen + tsLen) = (prim.mac secret (signed raw)).take macLen

/-- A reading lies inside the freshness window of a challenge. -/
def Fresh (raw : Bytes) (now : ℤ) : Prop :=
  now - issuedAt raw ≤ challengeTTL ∧ issuedAt raw - now ≤ challengeTTL

/-! ## What a solution is -/

section Verify
variable {prim} {secret}

theorem checkSolution_ok {challenge nonce : Bytes} {difficulty now : ℤ} :
    checkSolution prim secret challenge nonce difficulty now = .ok () ↔
      (minDifficulty ≤ difficulty ∧ difficulty ≤ maxDifficulty) ∧
      ∃ raw, Base64.decode challenge = some raw ∧ Authentic prim secret raw ∧ Fresh raw now ∧
        meetsDifficulty prim challenge nonce difficulty = true := by
  unfold checkSolution Authentic Fresh
  by_cases range : difficulty < minDifficulty ∨ difficulty > maxDifficulty
  · rw [if_pos range]
    constructor
    · intro impossible
      cases impossible
    · rintro ⟨_, _⟩
      omega
  · rw [if_neg range]
    have inside : minDifficulty ≤ difficulty ∧ difficulty ≤ maxDifficulty := by omega
    cases Base64.decode challenge with
    | none => simp
    | some raw =>
      dsimp only
      constructor
      · intro valid
        split at valid
        · cases valid
        · rename_i width
          split at valid
          · cases valid
          · rename_i authentic
            split at valid
            · cases valid
            · rename_i fresh
              split at valid
              · cases valid
              · rename_i solved
                exact ⟨inside, raw, rfl, ⟨not_not.mp width, not_not.mp authentic⟩, by omega,
                  by simpa using solved⟩
      · rintro ⟨_, _, same, ⟨width, authentic⟩, ⟨past, future⟩, solved⟩
        cases same
        rw [if_neg (not_not.mpr width), if_neg (not_not.mpr authentic), if_neg (by omega),
          if_neg (by simp [solved])]

variable (prim) (secret) in
/-- What one call redeems is a fresh, authentic challenge. -/
theorem redeem_cases (state : State) (call : Redemption) :
    (∃ failure, checkSolution prim secret call.challenge call.nonce call.difficulty call.now =
        .error failure ∧ redeem prim secret state call = (none, (call.now, state.2))) ∨
    ∃ raw, Base64.decode call.challenge = some raw ∧ Fresh raw call.now ∧
      checkSolution prim secret call.challenge call.nonce call.difficulty call.now = .ok () ∧
      redeem prim secret state call =
        (if (state.2.useOnce call.now call.challenge).1 then some raw else none,
          (call.now, (state.2.useOnce call.now call.challenge).2)) := by
  unfold redeem verify
  cases verdict : checkSolution prim secret call.challenge call.nonce call.difficulty call.now with
  | error failure => exact .inl ⟨failure, rfl, rfl⟩
  | ok solved =>
    obtain ⟨_, raw, read, _, fresh, _⟩ := checkSolution_ok.mp verdict
    refine .inr ⟨raw, read, fresh, rfl, ?_⟩
    dsimp only
    rcases state.2.useOnce call.now call.challenge with ⟨_ | _, nonces⟩
    · rfl
    · simp [read]

/-! ## What Mint writes -/

theorem readUnix_putUnix {sec : ℤ} (lower : -2 ^ 63 ≤ sec) (upper : sec < 2 ^ 63) :
    readUnix (putUnix sec) = sec := by
  have word : bigEndian (putUnix sec) = (sec % 2 ^ 64).toNat := by
    simp only [putUnix, bigEndian, List.foldl_cons, List.foldl_nil, UInt8.toNat_ofNat']
    omega
  have wraps : Int64.ofNat (sec % 2 ^ 64).toNat = Int64.ofInt sec := by
    rw [← Int64.ofInt_eq_ofNat]
    apply Int64.toInt.inj
    rw [Int64.toInt_ofInt, Int64.toInt_ofInt, Int.toNat_of_nonneg (Int.emod_nonneg _ (by decide))]
    exact Int.emod_bmod sec (2 ^ 64)
  rw [readUnix, int64BigEndian, word, wraps]
  exact Int64.toInt_ofInt_of_le lower upper

/-- A minted challenge is canonical, authentic, and dated to the second. -/
theorem mint_ok {difficulty now : ℤ} {random : Option (Vector UInt8 16)} {challenge : Bytes}
    (lower : -2 ^ 63 ≤ now / second) (upper : now / second < 2 ^ 63)
    (minted : mint prim secret difficulty random now = .ok challenge) :
    Base64.Canonical challenge ∧ ∃ raw, Base64.decode challenge = some raw ∧
      Authentic prim secret raw ∧ issuedAt raw = unix (now / second) := by
  unfold mint at minted
  split at minted
  · cases minted
  · cases random with
    | none => cases minted
    | some random16 =>
      cases minted
      have width : random16.toList.length = 16 := by simp
      have covered : ∀ tag, signed (random16.toList ++ putUnix (now / second) ++ tag) =
          random16.toList ++ putUnix (now / second) := fun tag => by
        rw [signed, List.take_left' (by simp [putUnix, randLen, tsLen])]
      refine ⟨Base64.canonical_encode _, _, Base64.decode_encode _, ⟨?_, ?_⟩, ?_⟩
      · simp [putUnix, rawLen, randLen, tsLen, macLen, prim.mac_length]
      · rw [covered, List.drop_left' (by simp [putUnix, randLen, tsLen])]
      · rw [issuedAt, covered, List.drop_left' (by simp [randLen]), readUnix_putUnix lower upper]

end Verify

/-! ## Runs -/

/-- How long an entry of the replay set can differ in age from its challenge. -/
def spread : ℤ := 2 * challengeTTL

/-- The replay set is the production one, whatever it holds by now: its entries
are challenges entered while they were fresh, in nearly the order of use. -/
structure Guarded (state : State) : Prop where
  agree : Coherent state.2
  lru : state.2.failClosed = false
  ceiling : state.2.max = defaultMax
  lifetime : state.2.ttl = 10 * minute
  entered : ∀ e ∈ state.2.ll, ∃ raw, Base64.decode e.challenge = some raw ∧
    Fresh raw (e.expireAt - 10 * minute)

theorem guarded_production (start : ℤ) : Guarded (start, productionNonces) where
  agree := coherent_new _ _
  lru := rfl
  ceiling := rfl
  lifetime := rfl
  entered := fun _ member => absurd member List.not_mem_nil

theorem ranked_production (start : ℤ) : Ranked spread start productionNonces where
  ordered := List.Pairwise.nil
  bounded := fun _ member => absurd member List.not_mem_nil
  fits := Nat.zero_le _

/-- An entry whose challenge can still be presented has more than the spread
left. -/
theorem entry_young {e : Entry Bytes} {raw : Bytes} {now : ℤ}
    (entered : Fresh raw (e.expireAt - 10 * minute)) (early : now - issuedAt raw ≤ challengeTTL) :
    now + spread < e.expireAt := by
  obtain ⟨_, late⟩ := entered
  simp only [spread, challengeTTL, minute, second] at *
  omega

theorem Guarded.entry_read {state : State} (guarded : Guarded state) {e : Entry Bytes}
    (held : e ∈ state.2.ll) {raw : Bytes} (read : Base64.decode e.challenge = some raw) :
    Fresh raw (e.expireAt - 10 * minute) := by
  obtain ⟨own, ownRead, entered⟩ := guarded.entered e held
  cases read.symm.trans ownRead
  exact entered

theorem guarded_redeem (state : State) (call : Redemption) (guarded : Guarded state) :
    Guarded (redeem prim secret state call).2 := by
  rcases redeem_cases prim secret state call with ⟨_, _, refused⟩ | ⟨raw, read, fresh, _, used⟩
  · rw [refused]
    exact ⟨guarded.agree, guarded.lru, guarded.ceiling, guarded.lifetime, guarded.entered⟩
  · rw [used]
    obtain ⟨sameMax, sameTtl, sameMode⟩ := useOnce_settings state.2 call.now call.challenge
    refine ⟨useOnce_coherent guarded.agree _ _, sameMode.trans guarded.lru,
      sameMax.trans guarded.ceiling, sameTtl.trans guarded.lifetime, ?_⟩
    intro e stored
    rcases useOnce_origin guarded.agree stored with held | rfl
    · exact guarded.entered e held
    · refine ⟨raw, read, ?_⟩
      rw [guarded.lifetime, Int.add_sub_cancel]
      exact fresh

/-- While the clock does not go back, the replay set stays in order. -/
theorem ranked_redeem (state : State) (call : Redemption) (guarded : Guarded state)
    (after : state.1 ≤ call.now) (ranked : Ranked spread state.1 state.2) :
    Ranked spread (redeem prim secret state call).2.1 (redeem prim secret state call).2.2 := by
  have present := ranked.later after
  rcases redeem_cases prim secret state call with ⟨_, _, refused⟩ | ⟨raw, read, fresh, _, used⟩
  · rw [refused]
    exact present
  · rw [used]
    refine present.useOnce (by decide) guarded.agree guarded.lru fun e held named _ => ?_
    have entered := guarded.entry_read held (named ▸ read)
    obtain ⟨past, _⟩ := fresh
    obtain ⟨_, late⟩ := entered
    rw [guarded.lifetime, spread]
    omega

/-- What every orderly call keeps. -/
def Kept (state : State) : Prop := Guarded state ∧ Ranked spread state.1 state.2

theorem kept_redeem (state : State) (call : Redemption) (spelled : Spelled state call)
    (kept : Kept state) : Kept (redeem prim secret state call).2 :=
  ⟨guarded_redeem prim secret state call kept.1,
    ranked_redeem prim secret state call kept.1 spelled.1.1 kept.2⟩

/-- A challenge that cannot be redeemed any more: its window has closed, or its
spelling has an entry. -/
def Spent (state : State) (raw : Bytes) : Prop :=
  challengeTTL < state.1 - issuedAt raw ∨ ∃ e ∈ state.2.ll, e.challenge = Base64.encode raw

/-- A redeemed challenge was not spent, and is spent by its redemption. -/
theorem spent_redeemed (state : State) (call : Redemption) (raw : Bytes)
    (spelled : Spelled state call) (guarded : Guarded state)
    (bought : (redeem prim secret state call).1 = some raw) :
    ¬Spent state raw ∧ Spent (redeem prim secret state call).2 raw := by
  obtain ⟨⟨after, _⟩, canonical⟩ := spelled
  rcases redeem_cases prim secret state call with ⟨_, _, refused⟩ | ⟨own, read, fresh, _, used⟩
  · rw [refused] at bought
    cases bought
  · rw [used] at bought ⊢
    dsimp only at bought
    split at bought
    · rename_i admitted
      cases bought
      have spelling := canonical raw read
      obtain ⟨unused, stored⟩ := useOnce_entered guarded.agree guarded.lru
        (by rw [guarded.ceiling]; decide) admitted
      refine ⟨?_, .inr ⟨_, stored, spelling⟩⟩
      rintro (elapsed | ⟨e, held, named⟩)
      · obtain ⟨past, _⟩ := fresh
        omega
      · have young := entry_young (guarded.entry_read held (named ▸ spelling ▸ read)) fresh.1
        have expired := unused e held (named.trans spelling.symm)
        have positive : 0 ≤ spread := by decide
        simp only [Live, decide_eq_false_iff_not] at expired
        omega
    · cases bought

/-- A spent challenge stays spent through an orderly call. -/
theorem spent_kept (state : State) (call : Redemption) (raw : Bytes)
    (orderly : Orderly state call) (kept : Kept state) (spent : Spent state raw) :
    Spent (redeem prim secret state call).2 raw := by
  obtain ⟨after, room⟩ := orderly
  obtain ⟨guarded, ranked⟩ := kept
  have clock : (redeem prim secret state call).2.1 = call.now := by
    rcases redeem_cases prim secret state call with ⟨_, _, refused⟩ | ⟨_, _, _, _, used⟩
    · rw [refused]
    · rw [used]
  by_cases closed : challengeTTL < call.now - issuedAt raw
  · left
    rw [clock]
    exact closed
  · rcases spent with elapsed | ⟨e, held, named⟩
    · omega
    · have read : Base64.decode e.challenge = some raw := by
        rw [named, Base64.decode_encode]
      have young := entry_young (guarded.entry_read held read) (Int.not_lt.mp closed)
      refine .inr ⟨e, ?_, named⟩
      rcases redeem_cases prim secret state call with ⟨_, _, refused⟩ | ⟨_, _, _, _, used⟩
      · rw [refused]
        exact held
      · rw [used]
        exact (ranked.later after).keeps (by decide) guarded.agree guarded.lru room held young _

/-! ## Failed calls and other spellings -/

/-- Two caches hold the same entries under the same settings; only their recency
may differ. -/
structure SameEntries (before after : Cache Bytes) : Prop where
  entries : after.ll.Perm before.ll
  keys : after.entries = before.entries
  settings : after.max = before.max ∧ after.ttl = before.ttl ∧ after.failClosed = before.failClosed

/-- A call that fails leaves the entries of the replay set as they were. -/
theorem failed_redeem_unchanged (state : State) (call : Redemption) (guarded : Guarded state)
    (failed : (redeem prim secret state call).1 = none) :
    SameEntries state.2 (redeem prim secret state call).2.2 := by
  rcases redeem_cases prim secret state call with ⟨_, _, refused⟩ | ⟨raw, read, _, _, used⟩
  · rw [refused]
    exact ⟨.refl _, rfl, rfl, rfl, rfl⟩
  · rw [used] at failed ⊢
    have refused : (state.2.useOnce call.now call.challenge).1 = false := by
      cases verdict : (state.2.useOnce call.now call.challenge).1 with
      | false => rfl
      | true => simp [verdict] at failed
    obtain ⟨e, held, _, _, moved⟩ := useOnce_refused guarded.agree guarded.lru refused
    dsimp only
    rw [moved]
    exact ⟨moveToFront_perm guarded.agree held, rfl, rfl, rfl, rfl⟩

/-- A solved spelling of a fresh challenge redeems it whenever that spelling has
no entry, whatever other spellings have been redeemed. -/
theorem unused_spelling_redeemed (state : State) (call : Redemption) (guarded : Guarded state)
    (solved : checkSolution prim secret call.challenge call.nonce call.difficulty call.now = .ok ())
    (unused : ∀ e ∈ state.2.ll, e.challenge ≠ call.challenge) :
    (redeem prim secret state call).1 = Base64.decode call.challenge := by
  rcases redeem_cases prim secret state call with ⟨_, failed, _⟩ | ⟨raw, read, _, _, used⟩
  · rw [solved] at failed
    cases failed
  · have fresh := (admit_lru guarded.agree guarded.lru unused call.now).1
    rw [used, useOnce_unknown guarded.agree unused, fresh, read]
    rfl

/-! ## Single use -/

/-- The state a run of calls leaves the production replay set in. -/
def afterCalls (start : ℤ) (calls : List Redemption) : State :=
  runSteps (fun state call => (redeem prim secret state call).2) (start, productionNonces) calls

theorem guarded_afterCalls (start : ℤ) (calls : List Redemption) :
    Guarded (afterCalls prim secret start calls) :=
  runSteps_invariant (fun state call => guarded_redeem prim secret state call)
    (guarded_production start)

/-- **A challenge presented in its own spelling buys one admission.** In every
orderly run whose challenges are spelled as Mint spells them none is redeemed
twice; after any run a failing call leaves the replay set as it was, and a solved
spelling without an entry redeems its challenge again. -/
theorem challenges_single_use :
    (∀ start calls, AllAlong (fun state call => (redeem prim secret state call).2) Spelled
        (start, productionNonces) calls → (redeemed prim secret start calls).Nodup) ∧
    (∀ start calls call, (redeem prim secret (afterCalls prim secret start calls) call).1 = none →
      SameEntries (afterCalls prim secret start calls).2
        (redeem prim secret (afterCalls prim secret start calls) call).2.2) ∧
    (∀ start calls call,
      checkSolution prim secret call.challenge call.nonce call.difficulty call.now = .ok () →
      (∀ e ∈ (afterCalls prim secret start calls).2.ll, e.challenge ≠ call.challenge) →
      (redeem prim secret (afterCalls prim secret start calls) call).1 =
        Base64.decode call.challenge) := by
  refine ⟨fun start calls spelled => ?_, fun start calls call failed => ?_,
    fun start calls call solved unused => ?_⟩
  · exact (accepted_nodup (kept_redeem prim secret)
      (fun state call raw here kept => spent_redeemed prim secret state call raw here kept.1)
      (fun state call raw here kept => spent_kept prim secret state call raw here.1 kept)
      ⟨guarded_production start, ranked_production start⟩ spelled).1
  · exact failed_redeem_unchanged prim secret _ call (guarded_afterCalls prim secret start calls)
      failed
  · exact unused_spelling_redeemed prim secret _ call (guarded_afterCalls prim secret start calls)
      solved unused

/-! ## A challenge redeemed twice -/

/-- The server secret the challenge was minted under. -/
def powSecret : Bytes := List.replicate 32 7

/-- Sixteen bytes of the random source. -/
def random16 : Vector UInt8 16 := ⟨#[1, 2, 3, 4, 5, 6, 7, 8, 9, 10, 11, 12, 13, 14, 15, 16], rfl⟩

/-- The challenge minted from them at second 1760000000. -/
def mintedChallenge : Bytes := List.flatMap utf8
  ["AQIDBAUGBwgJCgsMDQ4PEAAAAABo53", "gAWuR3xjWoMDPAreREF157Yg"]

/-- The same forty bytes, with another last character: its four spare bits are
not read. -/
def respelledChallenge : Bytes := List.flatMap utf8
  ["AQIDBAUGBwgJCgsMDQ4PEAAAAABo53", "gAWuR3xjWoMDPAreREF157Yh"]

/-- What the standard library answers on this challenge and on the two solutions
found for its spellings. -/
def recordedPrimitives : Primitives where
  sha256 message :=
    if message = mintedChallenge ++ 46 :: utf8 "1" then
      (Base64.decode (utf8 "DWWV-7QK0AlnSYx_qh_R_rPtxEsxdgP6cOaC78wwRMw")).getD []
    else if message = respelledChallenge ++ 46 :: utf8 "2" then
      (Base64.decode (utf8 "MzPdaUEpH97H4-pWbsIoM0evYUyggap8BEJOVET4Emk")).getD []
    else []
  mac secret message :=
    if secret = powSecret ∧ message = random16.toList ++ putUnix 1760000000 then
      [90, 228, 119, 198, 53, 168, 48, 51, 192, 173, 228, 68, 23, 94, 123, 98, 189, 189, 16, 135, 60,
        150, 56, 10, 151, 242, 188, 81, 173, 170, 120, 136]
    else List.replicate 32 0
  mac_length secret message := by split <;> rfl

/-- A solved presentation of one spelling, so many seconds after minting. -/
def presentedAfter (seconds : ℤ) (challenge nonce : Bytes) : Redemption :=
  ⟨challenge, nonce, 1, unix (1760000000 + seconds)⟩

/-- Both spellings of one minted challenge are redeemed, a second apart. -/
theorem challenge_redeemed_twice :
    mint recordedPrimitives powSecret 1 (some random16) (unix 1760000000) = .ok mintedChallenge ∧
      AllAlong (fun state call => (redeem recordedPrimitives powSecret state call).2) Orderly
        (0, productionNonces) [presentedAfter 0 mintedChallenge (utf8 "1"),
          presentedAfter 1 respelledChallenge (utf8 "2")] ∧
      ¬(redeemed recordedPrimitives powSecret 0 [presentedAfter 0 mintedChallenge (utf8 "1"),
        presentedAfter 1 respelledChallenge (utf8 "2")]).Nodup := by
  refine ⟨by decide +kernel, ⟨?_, ?_, trivial⟩, by decide +kernel⟩
  · exact ⟨by decide, by decide +kernel⟩
  · exact ⟨by decide +kernel, by decide +kernel⟩

/-- Presented twice as minted, the same challenge is redeemed once. -/
theorem challenges_single_use_as_minted :
    (redeemed recordedPrimitives powSecret 0 [presentedAfter 0 mintedChallenge (utf8 "1"),
      presentedAfter 1 mintedChallenge (utf8 "1")]).Nodup := by
  have minted : mint recordedPrimitives powSecret 1 (some random16) (unix 1760000000) =
      .ok mintedChallenge := by decide +kernel
  have canonical := (mint_ok (by decide) (by decide) minted).1
  refine (challenges_single_use recordedPrimitives powSecret).1 0 _ ⟨?_, ?_, trivial⟩
  · exact ⟨⟨by decide, by decide +kernel⟩, canonical⟩
  · exact ⟨⟨by decide +kernel, by decide +kernel⟩, canonical⟩

end AnselmGateway.ProofOfWorkReplay
