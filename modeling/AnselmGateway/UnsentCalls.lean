import AnselmGateway.GenerationClients
import AnselmGateway.GenerationCloseOut

/-! The verdicts of the generation clients: a call that never left the process is not charged, and
one that did is, unless it was turned away. -/
namespace AnselmGateway.GenerationClients
open Foundation Billing Genrun GenerationCloseOut SpeechSynthesis

/-- The clients of a process. -/
structure Clients where
  image : Option NativeClient
  speech : Option TTSGen
  video : Option NativeClient
  voice : Option NativeClient

/-- A generation call. -/
inductive GenerationCall where
  | generateImage (model prompt size : String)
  | editImage (model prompt size sourceDataURL : String)
  | generateSpeech (u : Utterance)
  | submitVideo (model prompt : String) (seconds : ℤ) (ratio resolution : String)
  | submitAnimation (model prompt : String) (seconds : ℤ) (resolution firstFrame : String)
  | enrollVoice (sampleURL : String)

/-- What a call brings: a URL, an id, or audio. -/
inductive Artifact where
  | text (value : String)
  | audio (data : Bytes)

/-- A call, told by whether a request was handed to the HTTP client or the dialer, whether it was
explicitly refused, and what its caller learns. -/
structure Outcome where
  handed : Bool
  refused : Bool
  answer : Answer Artifact
  unbilled : Bool

/-- A `4xx` that came back for a request. -/
def Outside.refusal (out : Outside) (request : Option Request) : Bool :=
  match request.map out.answer with
  | some (.answered status _) => refuses status
  | _ => false

/-- A call over HTTP. -/
def Finished.outcome (f : Finished String) (out : Outside) : Outcome where
  handed := f.request.isSome
  refused := out.refusal f.request
  answer :=
    match f.result with
    | .ok value => .value (.text value)
    | .error (.api error) => .failed f.unbilled (some error)
    | .error .upstreamAlreadyAbsent => .failed f.unbilled none
  unbilled := f.unbilled

/-- A session that was turned away: a handshake answered with a `4xx`, or a task that failed before
any audio. -/
def turnedAway (dial : Dial) (e : Ended) : Bool :=
  (match dial with
    | .failed status _ => (status.map refuses).getD false
    | .connected => false) ||
    (e.passed.getLast? == some (.received (.text (some "task-failed"))) && audioOf e.passed == [])

/-- A speech session. -/
def speechOutcome (dial : Dial) (e : Ended) : Outcome where
  handed := e.dialed
  refused := turnedAway dial e
  answer :=
    match e.result with
    | .ok audio => .value (.audio audio)
    | .error error => .failed e.unbilled (some error)
  unbilled := e.unbilled

/-- One call against the clients of a process. -/
def Clients.run (k : Clients) (out : Outside) : GenerationCall → Outcome
  | .generateImage model prompt size => (generateImage k.image out model prompt size).outcome out
  | .editImage model prompt size source => (editImage k.image out model prompt size source).outcome out
  | .generateSpeech u => speechOutcome out.speech.dial (SpeechSynthesis.generateSpeech k.speech u out.speech)
  | .submitVideo model prompt seconds ratio resolution =>
    (submitVideo k.video out model prompt seconds ratio resolution).outcome out
  | .submitAnimation model prompt seconds resolution frame =>
    (submitAnimation k.video out model prompt seconds resolution frame).outcome out
  | .enrollVoice sampleURL => (enrollVoice k.voice out sampleURL).outcome out

/-! ## The verdict -/

/-- The books close by a rollback. -/
def RollsBack (answer : Answer Artifact) : Prop :=
  ∀ (fails : Moment → Bool) (closedAt : ℤ) (c : Charge) (res : Quota.Reservation) (s : State),
    closeOut fails closedAt c res answer s = rollback fails closedAt res s

/-- The books close at the full quote. -/
def KeepsQuote (answer : Answer Artifact) : Prop :=
  ∀ (fails : Moment → Bool) (closedAt : ℤ) (provider : Provider) (model : String) (c : Charge)
    (res : Quota.Reservation) (s : State), newUnitPlan provider model c.inputClass c.units = .ok res.plan →
    res.reservedPUSD = res.plan.reservedPUSD →
      closeOut fails closedAt c res answer s = settle fails closedAt res res.reservedPUSD s

/-- A call that was not handed over is free; one that was, and was not refused, is charged. -/
def ChargedIfSent (o : Outcome) : Prop :=
  (o.handed = false → o.unbilled = true ∧ RollsBack o.answer) ∧
    (o.handed = true → o.refused = false → o.unbilled = false ∧ KeepsQuote o.answer)

/-- A client can hand a body over: it is configured, the body marshals and the request builds. -/
def sendable (g : Option NativeClient) (out : Outside) (path : String) (payload : Payload) : Bool :=
  match g with
  | none => false
  | some c => c.configured && out.marshals payload && out.builds "POST" (c.base ++ path)

/-- A call whose verdict does not depend on where it stops, or that is handed over. -/
def Clients.sound (k : Clients) (out : Outside) : GenerationCall → Bool
  | .generateImage model prompt size =>
    sendable k.image out "/api/v1/services/aigc/multimodal-generation/generation" (imagePayload model prompt size "")
  | .editImage model prompt size source =>
    sendable k.image out "/api/v1/services/aigc/multimodal-generation/generation"
      (imagePayload model prompt size source)
  | .submitVideo model prompt seconds ratio resolution =>
    sendable k.video out "/api/v1/services/aigc/video-generation/video-synthesis"
      (videoPayload model (.fields [("prompt", .text prompt)]) (videoParams model seconds ratio resolution))
  | .submitAnimation model prompt seconds resolution frame =>
    sendable k.video out "/api/v1/services/aigc/video-generation/video-synthesis"
      (videoPayload model (animationInput prompt frame) (animationParams seconds resolution))
  | .generateSpeech _ | .enrollVoice _ => true

theorem rollsBack_failed (wire : Option APIError) : RollsBack (.failed true wire) :=
  fun _ _ _ _ _ => rfl

theorem keepsQuote_failed (wire : Option APIError) : KeepsQuote (.failed false wire) :=
  fun _ _ _ _ _ _ _ _ _ => rfl

theorem keepsQuote_value (out : Artifact) : KeepsQuote (.value out) := by
  intro fails closedAt provider model c res s built quoted
  rw [closeOut, cost_reserved built quoted]

/-! ## Over HTTP -/

section Http
variable {c : NativeClient} {g : Option NativeClient} {out : Outside} {f : Finished String} {method endpoint : String}
  {payload : Payload} {body : Option Payload} {async : Bool}

/-- What is free was refused, if it was sent at all. -/
def Free (out : Outside) {α : Type} (f : Finished α) : Prop :=
  f.unbilled = true → f.request.isSome = true → out.refusal f.request = true

/-- What is not sent is free. -/
def Unsent {α : Type} (f : Finished α) : Prop := f.request = none → f.unbilled = true ∧ ∃ error, f.result = .error error

theorem Free.kept {α : Type} {request : Option Request} {result : Except ClientError α} :
    Free out ⟨request, result, false⟩ := nofun

/-- The outcome of a sent call. -/
theorem Free.charged (free : Free out f) (sent : f.request.isSome = true) : ChargedIfSent (f.outcome out) := by
  refine ⟨fun unsent => absurd (sent.symm.trans unsent) nofun, fun _ accepted => ?_⟩
  have charged : f.unbilled = false := by
    cases unbilled : f.unbilled with
    | false => rfl
    | true => exact absurd ((free unbilled sent).symm.trans accepted) nofun
  refine ⟨charged, ?_⟩
  unfold Finished.outcome
  rw [charged]
  dsimp only
  split
  · exact keepsQuote_value _
  · exact keepsQuote_failed _
  · exact keepsQuote_failed _

/-- The outcome of a call that is free when it is not sent. -/
theorem Unsent.charged (unsent : Unsent f) (free : Free out f) : ChargedIfSent (f.outcome out) := by
  cases sent : f.request with
  | some request => exact free.charged (by rw [sent]; rfl)
  | none =>
    obtain ⟨unbilled, error, result⟩ := unsent sent
    refine ⟨fun _ => ⟨unbilled, ?_⟩, fun handed => ?_⟩
    · unfold Finished.outcome
      rw [unbilled, result]
      cases error with
      | api error => exact rollsBack_failed _
      | upstreamAlreadyAbsent => exact rollsBack_failed _
    · simp [Finished.outcome, sent] at handed

/-- The outcome of a call that is charged when it is not sent. -/
theorem uncharged_of_unsent (sent : f.request = none) (charged : f.unbilled = false) :
    ¬ChargedIfSent (f.outcome out) := by
  rintro ⟨free, _⟩
  have unbilled := (free (by simp [Finished.outcome, sent])).1
  exact absurd (charged.symm.trans unbilled) nofun

/-- The round trip: a request that cannot be built is not sent, one that is sent fails with no
internal error, and an answer is that of the request. -/
theorem do_cases (c : NativeClient) (out : Outside) (method endpoint : String) (body : Option Payload) (async : Bool) :
    (out.builds method endpoint = false ∧ c.do out method endpoint body async = (none, .error .internal)) ∨
    out.builds method endpoint = true ∧ ∃ request,
      (∃ error : APIError, error.status ≠ 500 ∧ c.do out method endpoint body async = (some request, .error error)) ∨
      ∃ status reply, out.answer request = .answered status reply ∧
        c.do out method endpoint body async = (some request, .ok (status, reply)) := by
  unfold NativeClient.do
  cases built : out.builds method endpoint with
  | false => exact .inl ⟨rfl, rfl⟩
  | true =>
    refine .inr ⟨rfl, ⟨method, endpoint, body, c.apiKey, async⟩, ?_⟩
    simp only [Bool.not_true, Bool.false_eq_true, if_false]
    split
    · exact .inl ⟨.upstreamTimeout, by decide, rfl⟩
    · exact .inl ⟨.upstreamError, by decide, rfl⟩
    · exact .inl ⟨.upstreamError, by decide, rfl⟩
    · rename_i status reply answered
      exact .inr ⟨status, reply, answered, rfl⟩

theorem refuses_rejected {status : ℕ} (rejected : rejectedBeforeGeneration status = true) :
    refuses status = true := by
  simp only [rejectedBeforeGeneration, Bool.or_eq_true, beq_iff_eq] at rejected
  rcases rejected with (((rfl | rfl) | rfl) | rfl) | rfl <;> rfl

theorem refusal_answered {request : Request} {status : ℕ} {reply : Bytes}
    (answered : out.answer request = .answered status reply) (refused : refuses status = true) :
    out.refusal (some request) = true := by
  simpa [Outside.refusal, answered] using refused

/-- A call that is charged where it is not sent, and is refused where it is free. -/
structure Judged (sends : Bool) (out : Outside) {α : Type} (f : Finished α) : Prop where
  free : Free out f
  sent : f.request.isSome = sends
  unsent : sends = false → f.unbilled = false

section Exits
variable {α : Type} {request : Request} {result : Except ClientError α} {unbilled : Bool}

theorem Judged.stopped : Judged false out (⟨none, result, false⟩ : Finished α) := ⟨.kept, rfl, fun _ => rfl⟩

theorem Judged.kept : Judged true out (⟨some request, result, false⟩ : Finished α) := ⟨.kept, rfl, nofun⟩

theorem Judged.refused {status : ℕ} {reply : Bytes} (answered : out.answer request = .answered status reply)
    (refused : refuses status = true) : Judged true out (⟨some request, result, unbilled⟩ : Finished α) :=
  ⟨fun _ _ => refusal_answered answered refused, rfl, nofun⟩

end Exits

theorem Judged.chargedIfSent_iff {sends : Bool} (judged : Judged sends out f) :
    ChargedIfSent (f.outcome out) ↔ sends = true := by
  cases sends with
  | true => exact iff_of_true (judged.free.charged judged.sent) rfl
  | false =>
    refine iff_of_false (uncharged_of_unsent ?_ (judged.unsent rfl)) nofun
    simpa using judged.sent

/-- An image call. -/
theorem imageCall_judged (g : Option NativeClient) (out : Outside) (model prompt size source : String) :
    Judged (sendable g out "/api/v1/services/aigc/multimodal-generation/generation"
      (imagePayload model prompt size source)) out (imageCall g out model prompt size source) := by
  unfold imageCall sendable NativeClient.post
  cases g with
  | none => exact .stopped
  | some c =>
    dsimp only
    cases c.configured with
    | false => exact .stopped
    | true =>
      cases out.marshals (imagePayload model prompt size source) with
      | false => exact .stopped
      | true =>
        rcases do_cases c out "POST" (c.base ++ "/api/v1/services/aigc/multimodal-generation/generation")
            (some (imagePayload model prompt size source)) false with
          ⟨unbuilt, trip⟩ | ⟨built, request, ⟨error, _, trip⟩ | ⟨status, reply, answered, trip⟩⟩
        · rw [trip, unbuilt]
          exact .stopped
        · rw [trip, built]
          exact .kept
        · rw [trip, built]
          simp only [Bool.not_true, Bool.true_and, Bool.false_eq_true, if_false]
          split
          · split <;> exact .kept
          · split
            · rename_i busy
              exact .refused answered (by rw [busy]; rfl)
            · split
              · rename_i rejected
                exact .refused answered (refuses_rejected rejected)
              · exact .kept

/-- A submission. -/
theorem submit_judged (c : NativeClient) (out : Outside) (model : String) (input params : Payload)
    (configured : c.configured = true) :
    Judged (sendable (some c) out "/api/v1/services/aigc/video-generation/video-synthesis"
      (videoPayload model input params)) out (submit c out model input params) := by
  unfold submit sendable roundTrip
  dsimp only
  rw [configured, Bool.true_and]
  cases out.marshals (videoPayload model input params) with
  | false => exact .stopped
  | true =>
    rcases do_cases c out "POST" (c.base ++ "/api/v1/services/aigc/video-generation/video-synthesis")
        (some (videoPayload model input params)) true with
      ⟨unbuilt, trip⟩ | ⟨built, request, ⟨error, _, trip⟩ | ⟨status, reply, answered, trip⟩⟩
    · rw [trip, unbuilt]
      exact .stopped
    · rw [trip, built]
      exact .kept
    · rw [trip, built]
      simp only [Bool.not_true, Bool.true_and, Bool.false_eq_true, if_false]
      by_cases ok : status = 200
      · simp only [ok, if_true]
        split
        · exact .kept
        · split <;> exact .kept
      · by_cases gone : status = 404
        · simp only [gone, if_true]
          exact .refused answered (by rw [gone]; decide)
        · by_cases busy : status = 429
          · simp only [busy, if_true]
            exact .refused answered (by rw [busy]; decide)
          · cases rejected : rejectedBeforeGeneration status with
            | true =>
              simp only [ok, gone, busy, if_false, if_true]
              exact .refused answered (refuses_rejected rejected)
            | false =>
              simp only [ok, gone, busy, if_false, Bool.false_eq_true]
              exact .kept

theorem submitVideo_judged (g : Option NativeClient) (out : Outside) (model prompt : String) (seconds : ℤ)
    (ratio resolution : String) :
    Judged (sendable g out "/api/v1/services/aigc/video-generation/video-synthesis"
      (videoPayload model (.fields [("prompt", .text prompt)]) (videoParams model seconds ratio resolution))) out
      (submitVideo g out model prompt seconds ratio resolution) := by
  unfold submitVideo
  cases g with
  | none => exact .stopped
  | some c =>
    cases configured : c.configured with
    | false => simp [sendable, configured, Judged.stopped]
    | true => simpa [configured] using submit_judged c out model _ _ configured

theorem submitAnimation_judged (g : Option NativeClient) (out : Outside) (model prompt : String) (seconds : ℤ)
    (resolution firstFrame : String) :
    Judged (sendable g out "/api/v1/services/aigc/video-generation/video-synthesis"
      (videoPayload model (animationInput prompt firstFrame) (animationParams seconds resolution))) out
      (submitAnimation g out model prompt seconds resolution firstFrame) := by
  unfold submitAnimation
  cases g with
  | none => exact .stopped
  | some c =>
    cases configured : c.configured with
    | false => simp [sendable, configured, Judged.stopped]
    | true => simpa [configured] using submit_judged c out model _ _ configured

/-- The voice endpoint is free where it is not sent. -/
theorem customization_judged (g : Option NativeClient) (out : Outside) (payload : Payload) :
    Unsent (customization g out payload) ∧ Free out (customization g out payload) := by
  unfold customization NativeClient.post
  cases g with
  | none => exact ⟨fun _ => ⟨rfl, _, rfl⟩, nofun⟩
  | some c =>
    dsimp only
    cases c.configured with
    | false => exact ⟨fun _ => ⟨rfl, _, rfl⟩, nofun⟩
    | true =>
      cases out.marshals payload with
      | false => exact ⟨fun _ => ⟨rfl, _, rfl⟩, nofun⟩
      | true =>
        rcases do_cases c out "POST" (c.base ++ "/api/v1/services/audio/tts/customization") (some payload) false with
          ⟨unbuilt, trip⟩ | ⟨built, request, ⟨error, other, trip⟩ | ⟨status, reply, answered, trip⟩⟩
        · rw [trip]
          exact ⟨fun _ => ⟨rfl, _, rfl⟩, nofun⟩
        · rw [trip]
          refine ⟨nofun, fun unbilled _ => ?_⟩
          exact absurd (beq_iff_eq.mp unbilled) other
        · rw [trip]
          simp only [Bool.not_true, Bool.false_eq_true, if_false]
          split
          · exact ⟨nofun, nofun⟩
          · split
            · exact ⟨nofun, nofun⟩
            · split
              · rename_i busy
                exact ⟨nofun, fun _ _ => refusal_answered answered (by rw [busy]; decide)⟩
              · split
                · rename_i rejected
                  exact ⟨nofun, fun _ _ => refusal_answered answered (refuses_rejected rejected)⟩
                · exact ⟨nofun, nofun⟩

theorem enrollVoice_judged (g : Option NativeClient) (out : Outside) (sampleURL : String) :
    Unsent (enrollVoice g out sampleURL) ∧ Free out (enrollVoice g out sampleURL) := by
  obtain ⟨unsent, free⟩ := customization_judged g out (enrollPayload sampleURL)
  unfold enrollVoice
  split
  · rename_i request error unbilled ended
    rw [ended] at unsent free
    exact ⟨fun none_ => ⟨(unsent none_).1, error, rfl⟩, free⟩
  · rename_i request body unbilled ended
    rw [ended] at unsent
    -- a body is never there without a request
    have sent : request ≠ none := fun none_ => by
      obtain ⟨_, _, failed⟩ := unsent none_
      cases failed
    split
    · exact ⟨fun none_ => absurd none_ sent, nofun⟩
    · exact ⟨fun none_ => absurd none_ sent, nofun⟩

end Http

/-! ## Over the socket -/

section Speech
variable {u : Utterance} {writes : Writes} {l : Loop} {message : Message} {e : Ended}

theorem turn_dialed (ended : l.turn u writes message = .inr e) : e.dialed = true := by
  unfold Loop.turn at ended
  dsimp only at ended
  split at ended
  · split at ended <;> cases ended
    rfl
  · cases ended
  · split at ended
    · split at ended
      · cases ended
      · unfold Loop.start at ended
        dsimp only at ended
        split at ended
        · cases ended
          rfl
        · split at ended <;> cases ended
          rfl
    · split at ended
      · cases ended
        rfl
      · split at ended
        · split at ended <;> cases ended <;> rfl
        · cases ended

theorem run_dialed (messages : List Message) : (l.run u writes messages).dialed = true := by
  induction messages generalizing l with
  | nil => rfl
  | cons message rest ih =>
    rw [Loop.run]
    split
    · exact ih
    · rename_i e ended
      exact turn_dialed ended

/-- A session that was never dialed is free. -/
theorem generateSpeech_undialed (g : Option TTSGen) (u : Utterance) (out : SpeechSynthesis.Outside) :
    (SpeechSynthesis.generateSpeech g u out).dialed = false →
      (SpeechSynthesis.generateSpeech g u out).unbilled = true ∧
        ∃ error, (SpeechSynthesis.generateSpeech g u out).result = .error error := by
  unfold SpeechSynthesis.generateSpeech
  split
  · exact fun _ => ⟨rfl, _, rfl⟩
  · split
    · exact fun _ => ⟨rfl, _, rfl⟩
    · split
      · exact fun _ => ⟨rfl, _, rfl⟩
      · split
        · split
          · exact nofun
          · split <;> exact nofun
        · split
          · exact nofun
          · intro undialed
            rw [run_dialed] at undialed
            cases undialed

/-- A session that is free was never dialed, or was turned away. -/
theorem generateSpeech_free (g : Option TTSGen) (u : Utterance) (out : SpeechSynthesis.Outside)
    (unbilled : (SpeechSynthesis.generateSpeech g u out).unbilled = true)
    (dialed : (SpeechSynthesis.generateSpeech g u out).dialed = true) :
    turnedAway out.dial (SpeechSynthesis.generateSpeech g u out) = true := by
  rcases generateSpeech_cases g u out with ⟨_, _, refused⟩ | sound
  · rcases refused unbilled with undialed | ⟨status, deadlineExceeded, dial, refuses⟩
    · exact absurd (dialed.symm.trans undialed) nofun
    · simp [turnedAway, dial, refuses]
  · obtain ⟨failed, silent⟩ := sound.unbilled unbilled
    simp [turnedAway, failed, silent]

theorem generateSpeech_judged (g : Option TTSGen) (u : Utterance) (out : SpeechSynthesis.Outside) :
    ChargedIfSent (speechOutcome out.dial (SpeechSynthesis.generateSpeech g u out)) := by
  refine ⟨fun undialed => ?_, fun dialed accepted => ?_⟩
  · obtain ⟨unbilled, error, result⟩ := generateSpeech_undialed g u out undialed
    refine ⟨unbilled, ?_⟩
    unfold speechOutcome
    rw [unbilled, result]
    exact rollsBack_failed _
  · have charged : (SpeechSynthesis.generateSpeech g u out).unbilled = false := by
      cases unbilled : (SpeechSynthesis.generateSpeech g u out).unbilled with
      | false => rfl
      | true => exact absurd ((generateSpeech_free g u out unbilled dialed).symm.trans accepted) nofun
    refine ⟨charged, ?_⟩
    unfold speechOutcome
    rw [charged]
    dsimp only
    split
    · exact keepsQuote_value _
    · exact keepsQuote_failed _

end Speech

/-! ## Every call -/

/-- Whatever the provider does, a call is free where it is not sent and charged where it is sent and
not refused: always for speech and voices, and for images and videos exactly if they are sent. -/
theorem charged_iff_sound (k : Clients) (out : Outside) (call : GenerationCall) :
    ChargedIfSent (k.run out call) ↔ k.sound out call = true := by
  cases call with
  | generateImage model prompt size => exact (imageCall_judged k.image out model prompt size "").chargedIfSent_iff
  | editImage model prompt size source => exact (imageCall_judged k.image out model prompt size source).chargedIfSent_iff
  | generateSpeech u => exact iff_of_true (generateSpeech_judged k.speech u out.speech) rfl
  | submitVideo model prompt seconds ratio resolution =>
    exact (submitVideo_judged k.video out model prompt seconds ratio resolution).chargedIfSent_iff
  | submitAnimation model prompt seconds resolution frame =>
    exact (submitAnimation_judged k.video out model prompt seconds resolution frame).chargedIfSent_iff
  | enrollVoice sampleURL =>
    obtain ⟨unsent, free⟩ := enrollVoice_judged k.voice out sampleURL
    exact iff_of_true (unsent.charged free) rfl

/-- Backend that is only a slash: what is left of it after trimming is nothing. -/
def slashClients : Clients where
  image := some (newNativeClient "/" "key")
  speech := some ⟨trimSlashes "/", "key"⟩
  video := some (newNativeClient "/" "key")
  voice := some (newNativeClient "/" "key")

def quietOutside : Outside where
  marshals _ := true
  builds _ _ := true
  answer _ := .failed false
  images _ := none
  taskID _ := none
  voiceID _ := none
  code _ := none
  parse _ := none
  speech := ⟨none, .connected, ⟨true, true, true⟩, []⟩

/-- Without a backend nothing is sent, and the image is charged; the voice is not. -/
theorem unconfigured_image_charged :
    (slashClients.run quietOutside (.generateImage "qwen-image-2.0" "a cat" "1024x1024")).handed = false ∧
      (slashClients.run quietOutside (.generateImage "qwen-image-2.0" "a cat" "1024x1024")).unbilled = false ∧
      ¬ChargedIfSent (slashClients.run quietOutside (.generateImage "qwen-image-2.0" "a cat" "1024x1024")) ∧
      (slashClients.run quietOutside (.enrollVoice "https://media.example/sample")).unbilled = true := by
  have unconfigured : (newNativeClient "/" "key").configured = false := by decide
  have charged : (slashClients.run quietOutside (.generateImage "qwen-image-2.0" "a cat" "1024x1024")).unbilled = false := by
    simp [slashClients, Clients.run, Finished.outcome, generateImage, imageCall, unconfigured]
  have unsent : (slashClients.run quietOutside (.generateImage "qwen-image-2.0" "a cat" "1024x1024")).handed = false := by
    simp [slashClients, Clients.run, Finished.outcome, generateImage, imageCall, unconfigured]
  refine ⟨unsent, charged, fun right => ?_, ?_⟩
  · exact absurd (charged.symm.trans (right.1 unsent).1) nofun
  · simp [slashClients, Clients.run, Finished.outcome, enrollVoice, customization, unconfigured]

end AnselmGateway.GenerationClients
