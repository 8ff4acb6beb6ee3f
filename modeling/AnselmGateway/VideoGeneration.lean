import AnselmGateway.UnsentCalls
import AnselmGateway.Upstream

/-! A video request from its body to the provider: the handler of `handlers/business/videos`, the
service of `internal/app/video`, the plan it freezes and the parameters the client sends. -/
namespace AnselmGateway.VideoGeneration
open Foundation Billing Genrun GenerationClients

/-! ## The handler -/

def maxPromptChars : ℕ := 2000
def minSeconds : Int64 := 2
def maxSeconds : Int64 := 15
def defaultSeconds : Int64 := 5

/-- `maxFrameChars`, in bytes. -/
def maxFrameChars : ℕ := 14000000

/-- `generateRequest`. -/
structure GenerateRequest where
  model : String := ""
  prompt : String := ""
  seconds : Option Int64 := none
  aspect : String := ""
  image : String := ""
  resolution : String := ""
  deriving DecidableEq

/-- `aspects`. -/
def aspects : List (String × String) := [("landscape", "16:9"), ("portrait", "9:16"), ("square", "1:1")]

/-- `resolutions`. -/
def resolutions : List (String × String) := [("720p", "720P"), ("1080p", "1080P")]

/-- A word of the wire, with its default. -/
def word (beyond : Char → Char) (fallback text : String) : String :=
  let text := toLower beyond (trimSpace text)
  if text = "" then fallback else text

/-- The length asked for. -/
def GenerateRequest.length (body : GenerateRequest) : Int64 := body.seconds.getD defaultSeconds

/-- The quality asked for. -/
def GenerateRequest.quality (beyond : Char → Char) (body : GenerateRequest) : String :=
  word beyond "720p" body.resolution

/-- What the handler hands to the service. -/
inductive Submission where
  | submit (prompt : String) (seconds : Int64) (ratio resolution : String)
  | animate (prompt : String) (seconds : Int64) (resolution firstFrame : String)
  deriving DecidableEq

/-- `Generate`, up to the service; `none` is a body that does not decode. -/
def generate (beyond : Char → Char) (animate : Bool) (body : Option GenerateRequest) : Except APIError Submission :=
  match body with
  | none => .error .badRequest
  | some body =>
    let prompt := trimSpace body.prompt
    if prompt = "" ∨ maxPromptChars < prompt.length then .error .badRequest
    else if body.length < minSeconds ∨ maxSeconds < body.length then .error .badRequest
    else
      match aspects.lookup (word beyond "landscape" body.aspect) with
      | none => .error .badRequest
      | some ratio =>
        match resolutions.lookup (body.quality beyond) with
        | none => .error .badRequest
        | some resolution =>
          if animate then
            if body.image = "" ∨ maxFrameChars < body.image.utf8ByteSize then .error .videoFrameInvalid
            else .ok (.animate prompt body.length resolution body.image)
          else .ok (.submit prompt body.length ratio resolution)

/-! ## The service -/

/-- What the service reads of the live configuration, and whether it is wired. -/
structure Settings where
  ready : Bool
  videoAvailable : Bool
  videoI2VAvailable : Bool
  videoUpstreamModel : String
  videoI2VUpstreamModel : String

/-- What `genrun.Do` is called with: the install, the charge, and the call it makes. -/
structure Attempt where
  installID : String
  charge : Charge
  call : GenerationCall

/-- `Service.submit`, up to `genrun.Do`. -/
def Settings.attempt (s : Settings) (authorized : Except APIError String) (seconds : Int64) (model : String)
    (call : GenerationCall) : Except APIError Attempt :=
  if !s.ready then .error .internal
  else if !s.videoAvailable then .error .videoUnavailable
  else
    match authorized with
    | .error error => .error error
    | .ok got =>
      match newUnitPlan providerQwen model .videoSeconds seconds with
      | .error _ => .error .internal
      | .ok plan => .ok ⟨got, ⟨plan, .videoSeconds, seconds⟩, call⟩

/-- `Service.Submit`. -/
def Settings.submit (s : Settings) (authorized : Except APIError String) (prompt : String) (seconds : Int64)
    (ratio resolution : String) : Except APIError Attempt :=
  if !s.ready then .error .internal
  else
    let model := trimSpace s.videoUpstreamModel
    s.attempt authorized seconds model (.submitVideo model prompt seconds.toInt ratio resolution)

/-- `Service.Animate`. -/
def Settings.animate (s : Settings) (authorized : Except APIError String) (prompt : String) (seconds : Int64)
    (resolution firstFrame : String) : Except APIError Attempt :=
  if !"data:".toList.isPrefixOf firstFrame.toList || Upstream.contains firstFrame "://" then .error .videoFrameInvalid
  else if resolution ≠ "720P" then .error .badRequest
  else if !s.ready then .error .internal
  else if !s.videoI2VAvailable then .error .videoUnavailable
  else
    let model := trimSpace s.videoI2VUpstreamModel
    s.attempt authorized seconds model (.submitAnimation model prompt seconds.toInt resolution firstFrame)

/-- A request, through the handler and the service. -/
def Settings.accept (s : Settings) (beyond : Char → Char) (authorized : Except APIError String) (animate : Bool)
    (body : Option GenerateRequest) : Except APIError Attempt :=
  match generate beyond animate body with
  | .error error => .error error
  | .ok (.submit prompt seconds ratio resolution) => s.submit authorized prompt seconds ratio resolution
  | .ok (.animate prompt seconds resolution frame) => s.animate authorized prompt seconds resolution frame

/-! ## Sent and priced -/

/-- What a video call marshals. -/
def videoBody : GenerationCall → Option Payload
  | .submitVideo model prompt seconds ratio resolution =>
    some (videoPayload model (.fields [("prompt", .text prompt)]) (videoParams model seconds ratio resolution))
  | .submitAnimation model prompt seconds resolution frame =>
    some (videoPayload model (animationInput prompt frame) (animationParams seconds resolution))
  | _ => none

/-- The request a video call hands to the HTTP client. -/
def videoRequest (g : Option NativeClient) (out : Outside) : GenerationCall → Option Request
  | .submitVideo model prompt seconds ratio resolution =>
    (submitVideo g out model prompt seconds ratio resolution).request
  | .submitAnimation model prompt seconds resolution frame =>
    (submitAnimation g out model prompt seconds resolution frame).request
  | _ => none

/-- What the provider prices a video by. -/
structure PriceParameters where
  model : String
  seconds : ℤ
  resolution : String
  deriving DecidableEq

/-- The parameters a body carries. -/
def sentParameters (body : Payload) : Option PriceParameters :=
  match body.get? "model", (body.get? "parameters").bind (Payload.get? "duration"),
    (body.get? "parameters").bind (Payload.get? "resolution") with
  | some (.text model), some (.number seconds), some (.text resolution) => some ⟨model, seconds, resolution⟩
  | _, _, _ => none

/-- The resolution the card of a video model is stated at. -/
def cardResolution (model : String) : Option String :=
  if model = wan27T2V ∨ model = wan27I2V then some "720P" else none

/-- The parameters a plan prices: its model, the seconds of its quote, the tier of its card. -/
def pricedParameters (plan : Plan) : Option PriceParameters :=
  (cardResolution plan.model).map fun resolution => ⟨plan.model, plan.promptQuote.toInt, resolution⟩

/-- What is sent is what the frozen plan prices, and the seconds charged are those asked for. -/
def PricedAsSent (body : GenerateRequest) (a : Attempt) : Prop :=
  (videoBody a.call).bind sentParameters = pricedParameters a.charge.plan ∧
    pricedParameters a.charge.plan ≠ none ∧
    a.charge.inputClass = .videoSeconds ∧ a.charge.units = body.length ∧ a.charge.units = a.charge.plan.promptQuote ∧
    lookup a.charge.plan.provider a.charge.plan.model = .ok a.charge.plan.card

variable {beyond : Char → Char} {animate : Bool} {body : GenerateRequest} {s : Settings}
  {authorized : Except APIError String} {a : Attempt} {seconds : Int64} {model prompt ratio resolution frame : String}

/-- What the handler hands on. -/
theorem generate_ok {submission : Submission} (read : generate beyond animate (some body) = .ok submission) :
    ∃ resolution, resolutions.lookup (body.quality beyond) = some resolution ∧
      ((∃ prompt ratio, submission = .submit prompt body.length ratio resolution) ∨
        ∃ prompt, submission = .animate prompt body.length resolution body.image) := by
  unfold generate at read
  dsimp only at read
  split at read
  · cases read
  · split at read
    · cases read
    · split at read
      · cases read
      · split at read
        · cases read
        · rename_i ratio _ _ resolution found
          refine ⟨resolution, found, ?_⟩
          split at read
          · split at read
            · cases read
            · cases read
              exact .inr ⟨_, rfl⟩
          · cases read
            exact .inl ⟨_, ratio, rfl⟩

/-- What an attempt is priced by. -/
theorem attempt_ok {call : GenerationCall} (made : s.attempt authorized seconds model call = .ok a) :
    ∃ plan, newUnitPlan providerQwen model .videoSeconds seconds = .ok plan ∧
      a.charge = ⟨plan, .videoSeconds, seconds⟩ ∧ a.call = call := by
  unfold Settings.attempt at made
  split at made
  · cases made
  · split at made
    · cases made
    · split at made
      · cases made
      · split at made
        · cases made
        · rename_i plan priced
          cases made
          exact ⟨plan, priced, rfl, rfl⟩

/-- A video plan is one of the two cards, at the quoted seconds. -/
theorem videoPlan_ok {plan : Plan} (priced : newUnitPlan providerQwen model .videoSeconds seconds = .ok plan) :
    (model = wan27T2V ∨ model = wan27I2V) ∧ plan.model = model ∧ plan.promptQuote = seconds ∧
      lookup plan.provider plan.model = .ok plan.card := by
  obtain ⟨card, tier, inCost, outCost, total, found, admitted, _, _, _, _, _, rfl⟩ := newPlan_ok priced
  refine ⟨?_, rfl, rfl, found⟩
  have listed : [wan27T2V, wan27I2V].contains model = true := by
    rw [classAdmits, if_neg nofun] at admitted
    simp only [unitClasses, Bool.and_eq_true] at admitted
    exact admitted.1.1.2
  simpa using listed

theorem cardResolution_video (video : model = wan27T2V ∨ model = wan27I2V) : cardResolution model = some "720P" :=
  if_pos video

theorem wan27_video (video : model = wan27T2V ∨ model = wan27I2V) :
    "wan2.7".toList.isPrefixOf model.toList = true := by
  rcases video with rfl | rfl <;> decide

/-- A submission carries the resolution it was given. -/
theorem sentParameters_submit (video : model = wan27T2V ∨ model = wan27I2V) (seconds : ℤ) :
    (videoBody (.submitVideo model prompt seconds ratio resolution)).bind sentParameters =
      some ⟨model, seconds, resolution⟩ := by
  rw [videoBody, videoParams, if_pos (wan27_video video)]
  rfl

/-- The two words, and what becomes of them. -/
theorem resolutions_720 {quality : String} (found : resolutions.lookup quality = some resolution) :
    resolution = "720P" ↔ quality = "720p" := by
  unfold resolutions at found
  by_cases low : quality = "720p"
  · subst low
    cases found
    exact iff_of_true rfl rfl
  · by_cases high : quality = "1080p"
    · subst high
      cases found
      exact iff_of_false (by decide) (by decide)
    · simp [List.lookup_cons, beq_false_of_ne low, beq_false_of_ne high] at found

/-- What an accepted request makes of its body. -/
theorem accept_ok (accepted : s.accept beyond authorized animate (some body) = .ok a) :
    ∃ model plan resolution, newUnitPlan providerQwen model .videoSeconds body.length = .ok plan ∧
      a.charge = ⟨plan, .videoSeconds, body.length⟩ ∧ resolutions.lookup (body.quality beyond) = some resolution ∧
      (videoBody a.call).bind sentParameters = some ⟨model, body.length.toInt, resolution⟩ := by
  unfold Settings.accept at accepted
  split at accepted
  · cases accepted
  · rename_i read
    obtain ⟨resolution, found, ⟨prompt, ratio, same⟩ | ⟨_, same⟩⟩ := generate_ok read
    · cases same
      unfold Settings.submit at accepted
      split at accepted
      · cases accepted
      · obtain ⟨plan, priced, charge, call⟩ := attempt_ok accepted
        refine ⟨_, plan, _, priced, charge, found, ?_⟩
        rw [call]
        exact sentParameters_submit (videoPlan_ok priced).1 _
    · cases same
  · rename_i read
    obtain ⟨resolution, found, ⟨_, _, same⟩ | ⟨prompt, same⟩⟩ := generate_ok read
    · cases same
    · cases same
      unfold Settings.animate at accepted
      split at accepted
      · cases accepted
      · split at accepted
        · cases accepted
        · split at accepted
          · cases accepted
          · split at accepted
            · cases accepted
            · obtain ⟨plan, priced, charge, call⟩ := attempt_ok accepted
              refine ⟨_, plan, _, priced, charge, found, ?_⟩
              rw [call]
              rfl

section Handed
variable {g : Option NativeClient} {c : NativeClient} {out : Outside} {call : GenerationCall} {request : Request}
  {input params : Payload}

theorem do_payload {method endpoint : String} {payload : Option Payload} {async : Bool}
    (handed : (c.do out method endpoint payload async).1 = some request) : request.payload = payload := by
  unfold NativeClient.do at handed
  split at handed
  · cases handed
  · dsimp only at handed
    split at handed <;> cases handed <;> rfl

theorem roundTrip_request {method endpoint : String} {payload : Option Payload} {async : Bool} :
    (roundTrip c out method endpoint payload async).request = (c.do out method endpoint payload async).1 := by
  unfold roundTrip
  split
  · rename_i trip
    rw [trip]
  · rename_i trip
    rw [trip]
    split_ifs <;> rfl

theorem submit_payload (handed : (submit c out model input params).request = some request) :
    request.payload = some (videoPayload model input params) := by
  unfold submit at handed
  split at handed
  · cases handed
  · split at handed
    · rename_i trip
      exact do_payload (roundTrip_request.symm.trans ((congrArg Finished.request trip).trans handed))
    · rename_i trip
      refine do_payload (roundTrip_request.symm.trans ((congrArg Finished.request trip).trans ?_))
      split at handed
      · exact handed
      · split at handed <;> exact handed

/-- Whatever a client hands over is the body of the call. -/
theorem videoRequest_payload (handed : videoRequest g out call = some request) : request.payload = videoBody call := by
  unfold videoRequest at handed
  split at handed
  · unfold submitVideo at handed
    split at handed
    · cases handed
    · split at handed
      · cases handed
      · exact submit_payload handed
  · unfold submitAnimation at handed
    split at handed
    · cases handed
    · split at handed
      · cases handed
      · exact submit_payload handed
  · cases handed

end Handed

/-- An accepted video is sent as its frozen plan prices it exactly if it asks for 720p, and what is
handed over is what was accepted. -/
theorem priced_as_sent_iff (beyond : Char → Char) (animate : Bool) (body : GenerateRequest) (s : Settings)
    (authorized : Except APIError String) (a : Attempt)
    (accepted : s.accept beyond authorized animate (some body) = .ok a) :
    (∀ g out request, videoRequest g out a.call = some request → request.payload = videoBody a.call) ∧
      (PricedAsSent body a ↔ body.quality beyond = "720p") := by
  refine ⟨fun _ _ _ handed => videoRequest_payload handed, ?_⟩
  obtain ⟨model, plan, resolution, priced, charge, found, sent⟩ := accept_ok accepted
  obtain ⟨video, planned, quoted, card⟩ := videoPlan_ok priced
  have tier : pricedParameters plan = some ⟨model, body.length.toInt, "720P"⟩ := by
    rw [pricedParameters, planned, cardResolution_video video, quoted]
    rfl
  rw [← resolutions_720 found, PricedAsSent, charge, sent, tier]
  constructor
  · rintro ⟨same, _⟩
    cases same
    rfl
  · rintro rfl
    exact ⟨rfl, nofun, rfl, rfl, quoted.symm, card⟩

def videoSettings : Settings := ⟨true, true, true, wan27T2V, wan27I2V⟩

/-- A clip of five seconds at the default quality. -/
def plainClip : GenerateRequest := { prompt := "a cat", seconds := some 5 }

/-- The same clip, at the higher quality. -/
def sharpClip : GenerateRequest := { plainClip with resolution := "1080p" }

/-- What the service makes of a clip. -/
def clipAttempt (body : GenerateRequest) : Except APIError Attempt :=
  videoSettings.accept id (.ok "ins_1") false (some body)

theorem priced_as_sent_iff_plain :
    ∃ a, clipAttempt plainClip = .ok a ∧ (PricedAsSent plainClip a ↔ plainClip.quality id = "720p") := by
  refine ⟨_, rfl, ?_⟩
  exact (priced_as_sent_iff id false plainClip videoSettings (.ok "ins_1") _ rfl).2

/-- The sharper clip is sent at `1080P`, and quoted what the plain one is. -/
theorem sharp_clip_underquoted :
    ∃ plain sharp, clipAttempt plainClip = .ok plain ∧ clipAttempt sharpClip = .ok sharp ∧
      sharp.charge = plain.charge ∧
      (videoBody sharp.call).bind sentParameters = some ⟨wan27T2V, 5, "1080P"⟩ ∧ ¬PricedAsSent sharpClip sharp := by
  refine ⟨_, _, rfl, rfl, rfl, rfl, fun priced => ?_⟩
  exact absurd priced.1 (by decide)

end AnselmGateway.VideoGeneration
