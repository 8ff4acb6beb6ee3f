import AnselmGateway.Speech

/-! What a speech session is charged. The count that is settled grows after a write went
through, so the one write that fails is left out of it. -/
namespace AnselmGateway.SpeechCharge
open Foundation Billing Speech

/-! ## Seconds -/

/-- The reserved length of a session, in bytes. -/
def reservedBytes : ℕ := sessionMaxAge * pcm16MonoBytesSec

/-- The seconds that so many bytes begin. -/
def seconds (bytes : ℕ) : ℤ := ⌈(bytes : ℚ) / (pcm16MonoBytesSec : ℕ)⌉

theorem seconds_eq (bytes : ℕ) : seconds bytes = ((bytes + 31999) / 32000 : ℕ) :=
  Float64.ceil_div (by decide)

theorem seconds_le {bytes : ℕ} (fits : bytes ≤ reservedBytes) : seconds bytes ≤ 120 := by
  have cap : reservedBytes = 3840000 := by decide
  rw [seconds_eq]
  omega

/-- The division of doubles rounds up to the right second. -/
theorem billable_eq {bytes : ℕ} (fits : bytes ≤ reservedBytes) :
    audioBytesToBillableSeconds bytes = seconds bytes := by
  have cap : reservedBytes = 3840000 := by decide
  unfold audioBytesToBillableSeconds
  split
  · rename_i none_
    rw [Nat.le_zero.mp none_, seconds_eq]
    rfl
  · rename_i some_
    have divisor : pcmSampleRateHz * pcmBytesPerFrame = 32000 := by decide
    rw [divisor, Float64.round_int (by omega), Float64.round_int (by omega),
      Float64.ceil_round_div (t := 7) (by omega) (by omega) (by omega) (by omega) (by omega)]
    rfl

/-- The plan of a session: its whole length, at the price of a second. -/
def heldPlan : Plan where
  provider := providerQwen
  model := qwen3ASRFlashRealtime
  rateCardID := qwen3ASRFlashRealtimeCard.id
  inputClass := .audioSeconds
  promptQuote := 120
  outputQuote := 0
  reservedPUSD := 10800000000
  card := qwen3ASRFlashRealtimeCard
  tier := { inputUpperBound := qwenASRInputLimit, inputPUSD := 90000000 }

theorem reservePlan_eq : reservePlan sessionMaxAge = .ok heldPlan := rfl

/-- Up to the reserved length every second has its price. -/
theorem settleCost_eq {bytes : ℕ} (fits : bytes ≤ reservedBytes) :
    ∃ cost, settleCost heldPlan bytes = .ok cost ∧
      cost.toInt = heldPlan.tier.inputPUSD.toInt * seconds bytes ∧ cost ≤ heldPlan.reservedPUSD := by
  have each : ∀ s : Fin 121, heldPlan.unitCost .audioSeconds (Int64.ofInt (s.val : ℤ)) =
        .ok (Int64.ofInt (90000000 * s.val)) ∧
      (Int64.ofInt (90000000 * s.val)).toInt = heldPlan.tier.inputPUSD.toInt * s.val ∧
      Int64.ofInt (90000000 * s.val) ≤ heldPlan.reservedPUSD := by decide +kernel
  have few := seconds_le fits
  rw [settleCost, billable_eq fits]
  rw [seconds_eq] at few ⊢
  obtain ⟨priced, exact_, within⟩ := each ⟨(bytes + 31999) / 32000, by omega⟩
  exact ⟨_, priced, exact_, within⟩

/-! ## The loop -/

/-- The frames whose write was attempted. -/
def audioAttempts (l : Loop) : List Bytes :=
  l.writes.filterMap fun write => match write with
    | .audio payload => some payload
    | .control _ => none

def attemptedBytes (l : Loop) : ℕ := ((audioAttempts l).map List.length).sum

@[simp] theorem forwarded_attempt (l : Loop) (write : Write) :
    (l.attempt write).forwardedAudioBytes = l.forwardedAudioBytes := rfl

theorem attempts_audio (l : Loop) (payload : Bytes) :
    audioAttempts (l.attempt (.audio payload)) = audioAttempts l ++ [payload] := by
  simp [audioAttempts, Loop.attempt]

@[simp] theorem attempts_control (l : Loop) (action : Action) :
    audioAttempts (l.attempt (.control action)) = audioAttempts l := by
  simp [audioAttempts, Loop.attempt]

/-- The count of the loop is what was attempted, and there is room for it. -/
structure Counted (l : Loop) : Prop where
  exact_ : l.forwardedAudioBytes = attemptedBytes l
  some_ : ∀ payload ∈ audioAttempts l, payload ≠ []
  within : l.forwardedAudioBytes ≤ reservedBytes

/-- The loop comes to a frame that fits, and its write fails. -/
structure FailsAt (before : Loop) (turn : Turn) (payload : Bytes) : Prop where
  upDone : turn.upDone = false
  frame : turn.frame = some (.binary payload)
  written : turn.written = false
  some_ : payload ≠ []
  small : payload.length ≤ maxAudioFrameBytes
  within : before.forwardedAudioBytes + payload.length ≤ reservedBytes

theorem Counted.control {l : Loop} (counted : Counted l) (action : Action) :
    Counted (l.attempt (.control action)) := by
  refine ⟨?_, ?_, counted.within⟩
  · rw [attemptedBytes, attempts_control]
    exact counted.exact_
  · rw [attempts_control]
    exact counted.some_

/-- One turn keeps the count, or ends at a write that fails. -/
theorem readTurn_counted {l : Loop} (counted : Counted l) (turn : Turn) :
    match readTurn l turn with
    | .ok after => Counted after
    | .error after => Counted after ∨ ∃ payload, FailsAt l turn payload ∧ after = l.attempt (.audio payload) := by
  unfold readTurn
  cases up : turn.upDone with
  | true => exact .inl counted
  | false =>
    cases read : turn.frame with
    | none => exact .inl counted
    | some frame =>
      cases frame with
      | binary payload =>
        simp only [Bool.false_eq_true, if_false, onAudio]
        by_cases bad : payload.length = 0 ∨ payload.length > maxAudioFrameBytes
        · rw [if_pos bad]
          exact .inl counted
        · obtain ⟨some_, small⟩ := not_or.mp bad
          have filled : payload ≠ [] := fun none_ => some_ (by rw [none_, List.length_nil])
          by_cases long : l.forwardedAudioBytes + payload.length > sessionMaxAge * pcm16MonoBytesSec
          · rw [if_neg bad, if_pos long]
            exact .inl counted
          · rw [if_neg bad, if_neg long]
            have room : l.forwardedAudioBytes + payload.length ≤ reservedBytes := Nat.le_of_not_lt long
            cases written : turn.written with
            | false => exact .inr ⟨payload, ⟨up, read, written, filled, Nat.le_of_not_lt small, room⟩, rfl⟩
            | true =>
              refine ⟨?_, ?_, room⟩
              · change l.forwardedAudioBytes + payload.length =
                  ((audioAttempts (l.attempt (.audio payload))).map List.length).sum
                rw [attempts_audio, counted.exact_, attemptedBytes]
                simp
              · change ∀ other ∈ audioAttempts (l.attempt (.audio payload)), other ≠ []
                rw [attempts_audio]
                intro other mem
                rcases List.mem_append.mp mem with earlier | last
                · exact counted.some_ other earlier
                · rwa [List.mem_singleton.mp last]
      | text payload =>
        simp only [Bool.false_eq_true, if_false, onControl]
        cases parseControl payload with
        | none => exact .inl counted
        | some action =>
          cases action with
          | finish => exact counted.control .finish
          | cancel => exact .inl counted
          | commit => exact counted.control .commit

/-- Where the loop stands before one of its turns. -/
def Reaches (turns : List Turn) (before : Loop) (turn : Turn) : Prop :=
  ∃ earlier later, turns = earlier ++ turn :: later ∧ earlier.foldlM readTurn idle = .ok before

/-- A whole loop keeps the count, or ends at a write that fails. -/
theorem loop_counted (turns : List Turn) :
    match turns.foldlM readTurn idle with
    | .ok after => Counted after
    | .error after => Counted after ∨ ∃ before turn payload, Counted before ∧ Reaches turns before turn ∧
        FailsAt before turn payload ∧ after = before.attempt (.audio payload) := by
  induction turns using List.reverseRecOn with
  | nil => exact ⟨rfl, by simp [audioAttempts, idle], Nat.zero_le _⟩
  | append_singleton turns turn ih =>
    rw [List.foldlM_append]
    cases ran : turns.foldlM readTurn idle with
    | error after =>
      rw [ran] at ih
      rcases ih with counted | ⟨before, turn', payload, counted, ⟨earlier, later, split_, reached⟩, fails, same⟩
      · exact .inl counted
      · refine .inr ⟨before, turn', payload, counted, ⟨earlier, later ++ [turn], ?_, reached⟩, fails, same⟩
        rw [split_, List.append_assoc, List.cons_append]
    | ok middle =>
      rw [ran] at ih
      have step := readTurn_counted ih turn
      have only : ((Except.ok middle : Except Loop Loop) >>= fun init => [turn].foldlM readTurn init) =
          readTurn middle turn := bind_pure (readTurn middle turn)
      rw [only]
      cases last : readTurn middle turn with
      | ok after =>
        rw [last] at step
        exact step
      | error after =>
        rw [last] at step
        rcases step with counted | ⟨payload, fails, same⟩
        · exact .inl counted
        · exact .inr ⟨middle, turn, payload, ih, ⟨turns, [], rfl, ran⟩, fails, same⟩

/-! ## The charge of a session -/

/-- A session is charged for what may have been sent. -/
structure Charged (plan : Plan) (s : Session) (l : Loop) : Prop where
  forwarded : l.forwardedAudioBytes ≤ attemptedBytes l
  within : attemptedBytes l ≤ reservedBytes
  once : s.calls.length = 1
  free : .rollback ∈ s.calls → audioAttempts l = []
  priced : ∀ bytes, .settle bytes ∈ s.calls → ∃ cost, settleCost plan bytes = .ok cost ∧
    cost.toInt = plan.tier.inputPUSD.toInt * seconds (attemptedBytes l) ∧ cost ≤ plan.reservedPUSD

/-- Whatever frame of a session fails to be written, it begins no second that was not
begun before. -/
def NoNewSecond (s : Session) : Prop :=
  ∀ before turn payload, s.dialed = true → s.upgraded = true → s.configured = true →
    Reaches s.turns before turn → FailsAt before turn payload →
    seconds before.forwardedAudioBytes = seconds (before.forwardedAudioBytes + payload.length)

theorem calls_of_run {s : Session} {l : Loop} (ran : s.run = .error l) :
    s.calls = [if l.forwardedAudioBytes ≤ 0 then .rollback else .settle l.forwardedAudioBytes] := by
  rw [Session.calls, ran]
  rfl

theorem attemptedBytes_attempt (l : Loop) (payload : Bytes) :
    attemptedBytes (l.attempt (.audio payload)) = attemptedBytes l + payload.length := by
  rw [attemptedBytes, attempts_audio, attemptedBytes]
  simp

theorem seconds_pos {bytes : ℕ} : 0 < seconds bytes ↔ 0 < bytes := by
  rw [seconds_eq]
  omega

/-- What a loop that ended at no failing write is charged. -/
theorem Counted.charged {s : Session} {l : Loop} (counted : Counted l) (ran : s.run = .error l) :
    Charged heldPlan s l := by
  have calls := calls_of_run ran
  refine ⟨counted.exact_.le, counted.exact_ ▸ counted.within, by rw [calls]; rfl, ?_, ?_⟩
  · rw [calls]
    intro rollback
    split at rollback
    · rename_i none_
      rw [List.eq_nil_iff_forall_not_mem]
      intro payload mem
      have some_ := List.length_pos_iff.mpr (counted.some_ payload mem)
      have part := List.single_le_sum (fun _ _ => Nat.zero_le _) _ (List.mem_map_of_mem (f := List.length) mem)
      have total := counted.exact_
      rw [attemptedBytes] at total
      omega
    · cases List.mem_singleton.mp rollback
  · rw [calls]
    intro bytes settle
    split at settle
    · cases List.mem_singleton.mp settle
    · cases List.mem_singleton.mp settle
      rw [← counted.exact_]
      exact settleCost_eq counted.within

/-- A loop that ended at a failing write is charged rightly just where the frame begins no
new second. -/
theorem charged_fails {s : Session} {before : Loop} {turn : Turn} {payload : Bytes} (counted : Counted before)
    (fails : FailsAt before turn payload) (ran : s.run = .error (before.attempt (.audio payload))) :
    Charged heldPlan s (before.attempt (.audio payload)) ↔
      seconds before.forwardedAudioBytes = seconds (before.forwardedAudioBytes + payload.length) := by
  have calls := calls_of_run ran
  rw [forwarded_attempt] at calls
  have some_ := List.length_pos_iff.mpr fails.some_
  have total : attemptedBytes (before.attempt (.audio payload)) = before.forwardedAudioBytes + payload.length := by
    rw [attemptedBytes_attempt, counted.exact_]
  obtain ⟨cost, priced, exact_, within⟩ := settleCost_eq counted.within
  constructor
  · intro charged
    by_cases none_ : before.forwardedAudioBytes ≤ 0
    · rw [if_pos none_] at calls
      have free := charged.free (by rw [calls]; exact List.mem_singleton_self _)
      rw [attempts_audio] at free
      simp at free
    · rw [if_neg none_] at calls
      obtain ⟨cost', priced', exact', _⟩ := charged.priced _ (by rw [calls]; exact List.mem_singleton_self _)
      rw [priced] at priced'
      cases priced'
      have rate : heldPlan.tier.inputPUSD.toInt = 90000000 := by decide
      rw [exact_, total, rate] at exact'
      omega
  · intro same
    refine ⟨?_, ?_, by rw [calls]; rfl, ?_, ?_⟩
    · rw [forwarded_attempt, total]
      exact Nat.le_add_right _ _
    · rw [total]
      exact fails.within
    · rw [calls]
      intro rollback
      split at rollback
      · rename_i none_
        have began : 0 < seconds (before.forwardedAudioBytes + payload.length) := seconds_pos.mpr (by omega)
        rw [← same, seconds_pos] at began
        omega
      · cases List.mem_singleton.mp rollback
    · rw [calls]
      intro bytes settle
      split at settle
      · cases List.mem_singleton.mp settle
      · cases List.mem_singleton.mp settle
        rw [total, ← same]
        exact ⟨cost, priced, exact_, within⟩

theorem run_open {s : Session} (dialed : s.dialed = true) (upgraded : s.upgraded = true)
    (configured : s.configured = true) : s.run = s.turns.foldlM readTurn idle := by
  simp [Session.run, dialed, upgraded, configured]

/-- A loop that comes to a failing write ends there. -/
theorem run_fails {turns : List Turn} {before : Loop} {turn : Turn} {payload : Bytes}
    (reaches : Reaches turns before turn) (fails : FailsAt before turn payload) :
    turns.foldlM readTurn idle = .error (before.attempt (.audio payload)) := by
  obtain ⟨earlier, later, rfl, ran⟩ := reaches
  have last : readTurn before turn = .error (before.attempt (.audio payload)) := by
    have some_ := List.length_pos_iff.mpr fails.some_
    have small := fails.small
    have room : before.forwardedAudioBytes + payload.length ≤ sessionMaxAge * pcm16MonoBytesSec := fails.within
    rw [readTurn, fails.upDone, fails.frame, fails.written]
    simp only [Bool.false_eq_true, if_false, onAudio]
    rw [if_neg (by omega), if_neg (by omega)]
    rfl
  rw [List.foldlM_append, ran]
  change (readTurn before turn >>= fun init => later.foldlM readTurn init) = _
  rw [last]
  rfl

theorem idle_counted : Counted idle := ⟨rfl, by simp [audioAttempts, idle], Nat.zero_le _⟩

/-- A session that runs has issued nothing and is within its length; one that ended is
charged for what may have been sent exactly when no failing write begins a new second. -/
theorem charged_iff {plan : Plan} (reserved : reservePlan sessionMaxAge = .ok plan) (s : Session) :
    (∀ l, s.run = .ok l → l.forwardedAudioBytes = attemptedBytes l ∧ attemptedBytes l ≤ reservedBytes ∧
      s.calls = []) ∧
    ∀ l, s.run = .error l → (Charged plan s l ↔ NoNewSecond s) := by
  rw [reservePlan_eq] at reserved
  cases reserved
  have loop := loop_counted s.turns
  constructor
  · intro l ran
    have calls : s.calls = [] := by rw [Session.calls, ran]
    unfold Session.run at ran
    split at ran
    · cases ran
    · split at ran
      · cases ran
      · split at ran
        · cases ran
        · rw [ran] at loop
          exact ⟨loop.exact_, loop.exact_ ▸ loop.within, calls⟩
  · intro l ran
    by_cases opened : s.dialed = true ∧ s.upgraded = true ∧ s.configured = true
    · obtain ⟨dialed, upgraded, configured⟩ := opened
      have run := run_open dialed upgraded configured
      rw [run] at ran
      rw [ran] at loop
      constructor
      · intro charged before turn payload _ _ _ reaches fails
        have ended := run_fails reaches fails
        rw [ran] at ended
        cases ended
        obtain ⟨earlier, later, split_, reached⟩ := reaches
        have counted := loop_counted earlier
        rw [reached] at counted
        exact (charged_fails counted fails (run.trans ran)).mp charged
      · intro none_
        rcases loop with counted | ⟨before, turn, payload, counted, reaches, fails, rfl⟩
        · exact counted.charged (run.trans ran)
        · exact (charged_fails counted fails (run.trans ran)).mpr
            (none_ before turn payload dialed upgraded configured reaches fails)
    · have silent : NoNewSecond s := fun _ _ _ dialed upgraded configured => absurd ⟨dialed, upgraded, configured⟩ opened
      refine iff_of_true ?_ silent
      have same : l = idle := by
        unfold Session.run at ran
        split at ran
        · cases ran
          rfl
        · split at ran
          · cases ran
            rfl
          · split at ran
            · cases ran
              rfl
            · rename_i dialed upgraded configured
              exact absurd ⟨by simpa using dialed, by simpa using upgraded, by simpa using configured⟩ opened
      rw [same] at ran ⊢
      exact idle_counted.charged ran

/-- A sample is sent, and the write of another fails. -/
def interrupted : Session where
  dialed := true
  upgraded := true
  configured := true
  turns := [⟨false, some (.binary [0, 1]), true⟩, ⟨false, some (.binary [0, 1]), false⟩]

/-- The second of the first sample is charged for, which is that of the other too. -/
theorem charged_iff_interrupted : Charged heldPlan interrupted ⟨2, [.audio [0, 1], .audio [0, 1]]⟩ := by
  refine ((charged_iff reservePlan_eq interrupted).2 _ rfl).mpr ?_
  rintro before turn payload _ _ _ ⟨earlier, later, split_, reached⟩ fails
  cases earlier with
  | nil =>
    obtain ⟨rfl, _⟩ := List.cons.inj split_
    cases fails.written
  | cons first earlier =>
    obtain ⟨rfl, rest⟩ := List.cons.inj split_
    cases earlier with
    | nil =>
      obtain ⟨rfl, _⟩ := List.cons.inj rest
      cases fails.frame
      have sent : before = ⟨2, [.audio [0, 1]]⟩ := Except.ok.inj (reached.symm.trans rfl)
      rw [sent]
      decide +kernel
    | cons => simp at rest

/-- A session of one sample, whose write does what it does. -/
def oneSample (written : Bool) : Session where
  dialed := true
  upgraded := true
  configured := true
  turns := [⟨false, some (.binary [0, 1]), written⟩, ⟨false, none, true⟩]

/-- The only frame of a session fails to be written, and nothing is charged for it. -/
theorem failed_write_is_free : ¬∀ plan s l, reservePlan sessionMaxAge = .ok plan → s.run = .error l →
    Charged plan s l := by
  intro always
  have charged := always _ (oneSample false) ⟨0, [.audio [0, 1]]⟩ reservePlan_eq rfl
  have free := charged.free (by decide)
  revert free
  decide

end AnselmGateway.SpeechCharge
