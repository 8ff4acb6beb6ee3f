import AnselmGateway.Genrun
import AnselmGateway.SpeechSynthesis

/-! The clients of the provider's native API, `internal/infra/upstream`: one origin, one key, one
attempt a call. Each call ends with an answer and the verdict whether it was provably not billed.
The JSON library, the URL parser and the HTTP client answer from outside. -/
namespace AnselmGateway.GenerationClients
open Foundation

/-! ## The shared round trip -/

/-- `nativeClient`, without its HTTP client and its timeout. -/
structure NativeClient where
  base : String
  apiKey : String
  deriving DecidableEq

/-- `strings.TrimRight` of slashes. -/
def trimSlashes (text : String) : String :=
  String.ofList (text.toList.reverse.dropWhile (· == '/')).reverse

/-- `newNativeClient`. -/
def newNativeClient (nativeBase apiKey : String) : NativeClient := ⟨trimSlashes (trimSpace nativeBase), apiKey⟩

/-- `configured`. -/
def NativeClient.configured (c : NativeClient) : Bool := c.base != "" && c.apiKey != ""

/-- What a request body is marshalled from. -/
inductive Payload where
  | text (value : String)
  | number (value : ℤ)
  | flag (value : Bool)
  | list (elements : List Payload)
  | fields (members : List (String × Payload))

/-- The member of a map. -/
def Payload.get? (name : String) : Payload → Option Payload
  | .fields members => (members.find? fun member => member.1 = name).map Prod.snd
  | _ => none

/-- The type assertion to a string. -/
def Payload.asText : Payload → Option String
  | .text value => some value
  | _ => none

/-- A request, as it is handed to the HTTP client. -/
structure Request where
  method : String
  endpoint : String
  payload : Option Payload
  apiKey : String
  async : Bool

/-- What the HTTP client makes of a request. -/
inductive RoundTrip where
  | failed (deadlineExceeded : Bool)
  | unreadable (status : ℕ)
  | answered (status : ℕ) (body : Bytes)
  deriving DecidableEq

/-- What the standard library and the network do: whether a body marshals and a request can be
built, how it is answered, what a body decodes to, and the scheme and host of a URL. -/
structure Outside where
  marshals : Payload → Bool
  builds : (method endpoint : String) → Bool
  answer : Request → RoundTrip
  images : Bytes → Option (List (List String))
  taskID : Bytes → Option String
  voiceID : Bytes → Option String
  code : Bytes → Option String
  parse : String → Option (String × String)
  speech : SpeechSynthesis.Outside

/-- `nativeClient.do`: the request it handed over, if it came to that, and the answer. -/
def NativeClient.do (c : NativeClient) (out : Outside) (method endpoint : String) (payload : Option Payload)
    (async : Bool) : Option Request × Except APIError (ℕ × Bytes) :=
  if !out.builds method endpoint then (none, .error .internal)
  else
    let request : Request := ⟨method, endpoint, payload, c.apiKey, async⟩
    match out.answer request with
    | .failed true => (some request, .error .upstreamTimeout)
    | .failed false | .unreadable _ => (some request, .error .upstreamError)
    | .answered status body => (some request, .ok (status, body))

/-- `post`. -/
def NativeClient.post (c : NativeClient) (out : Outside) (endpoint : String) (payload : Payload) :
    Option Request × Except APIError (ℕ × Bytes) := c.do out "POST" endpoint (some payload) false

/-- `rejectedBeforeGeneration`. -/
def rejectedBeforeGeneration (status : ℕ) : Bool :=
  status == 400 || status == 401 || status == 403 || status == 413 || status == 422

/-- An error of a client. -/
inductive ClientError where
  | api (error : APIError)
  | upstreamAlreadyAbsent
  deriving DecidableEq

/-- How a call ends: the request that was handed over, what is returned, and the verdict. -/
structure Finished (α : Type) where
  request : Option Request
  result : Except ClientError α
  unbilled : Bool

/-! ## Images -/

/-- The body of `dashScopeImageReq`; a chunk without an image has only its text. -/
def imagePayload (model prompt size sourceDataURL : String) : Payload :=
  .fields [("model", .text model),
    ("input", .fields [("messages", .list [.fields [("role", .text "user"),
      ("content", .list ((if sourceDataURL = "" then [] else [.fields [("image", .text sourceDataURL)]]) ++
        [.fields (if prompt = "" then [] else [("text", .text prompt)])]))]])]),
    ("parameters", .fields ((if size = "" then [] else
        [("size", .text (String.ofList (size.toList.map fun char => if char = 'x' then '*' else char)))]) ++
      [("n", .number 1), ("watermark", .flag false)]))]

/-- `parseDashScopeImageURL`. -/
def parseDashScopeImageURL (out : Outside) (body : Bytes) : Option String :=
  match out.images body with
  | none => none
  | some choices =>
    match choices.flatten.find? fun image => trimSpace image != "" with
    | none => none
    | some image =>
      match out.parse (trimSpace image) with
      | some (scheme, host) => if scheme ≠ "https" ∨ host = "" then none else some (trimSpace image)
      | none => none

/-- `imageCall`. -/
def imageCall (g : Option NativeClient) (out : Outside) (model prompt size sourceDataURL : String) :
    Finished String :=
  match g with
  | none => ⟨none, .error (.api .imageUnavailable), false⟩
  | some c =>
    if !c.configured then ⟨none, .error (.api .imageUnavailable), false⟩
    else
      let payload := imagePayload model prompt size sourceDataURL
      if !out.marshals payload then ⟨none, .error (.api .internal), false⟩
      else
        match c.post out (c.base ++ "/api/v1/services/aigc/multimodal-generation/generation") payload with
        | (request, .error error) => ⟨request, .error (.api error), false⟩
        | (request, .ok (status, body)) =>
          if status = 200 then
            match parseDashScopeImageURL out body with
            | none => ⟨request, .error (.api .upstreamError), false⟩
            | some url => ⟨request, .ok url, false⟩
          else if status = 429 then ⟨request, .error (.api .upstreamBusy), true⟩
          else if rejectedBeforeGeneration status then ⟨request, .error (.api .upstreamRejected), true⟩
          else ⟨request, .error (.api .upstreamError), false⟩

/-- `GenerateImage`. -/
def generateImage (g : Option NativeClient) (out : Outside) (model prompt size : String) : Finished String :=
  imageCall g out model prompt size ""

/-- `EditImage`. -/
def editImage (g : Option NativeClient) (out : Outside) (model prompt size sourceDataURL : String) :
    Finished String :=
  imageCall g out model prompt size sourceDataURL

/-! ## Videos -/

/-- `legacyVideoSize`. -/
def legacyVideoSize (resolution ratio : String) : String :=
  if resolution = "1080P" then
    if ratio = "9:16" then "1080*1920" else if ratio = "1:1" then "1440*1440" else "1920*1080"
  else if ratio = "9:16" then "720*1280"
  else if ratio = "1:1" then "960*960"
  else "1280*720"

/-- `roundTrip`. -/
def roundTrip (c : NativeClient) (out : Outside) (method endpoint : String) (payload : Option Payload)
    (async : Bool) : Finished Bytes :=
  match c.do out method endpoint payload async with
  | (request, .error error) => ⟨request, .error (.api error), false⟩
  | (request, .ok (status, body)) =>
    if status = 200 then ⟨request, .ok body, false⟩
    else if status = 404 then ⟨request, .error (.api .videoTaskNotFound), true⟩
    else if status = 429 then ⟨request, .error (.api .upstreamBusy), true⟩
    else if rejectedBeforeGeneration status then ⟨request, .error (.api .upstreamRejected), true⟩
    else ⟨request, .error (.api .upstreamError), false⟩

/-- What `submit` marshals. -/
def videoPayload (model : String) (input params : Payload) : Payload :=
  .fields [("model", .text model), ("input", input), ("parameters", params)]

/-- `VideoGen.submit`. -/
def submit (c : NativeClient) (out : Outside) (model : String) (input params : Payload) : Finished String :=
  if !out.marshals (videoPayload model input params) then ⟨none, .error (.api .internal), false⟩
  else
    match roundTrip c out "POST" (c.base ++ "/api/v1/services/aigc/video-generation/video-synthesis")
        (some (videoPayload model input params)) true with
    | ⟨request, .error error, unbilled⟩ => ⟨request, .error error, unbilled⟩
    | ⟨request, .ok raw, _⟩ =>
      match out.taskID raw with
      | none => ⟨request, .error (.api .upstreamError), false⟩
      | some taskID =>
        if trimSpace taskID = "" then ⟨request, .error (.api .upstreamError), false⟩
        else ⟨request, .ok taskID, false⟩

/-- The parameters `SubmitVideo` sends: `wan2.7` took a resolution and a ratio in place of a size. -/
def videoParams (model : String) (seconds : ℤ) (ratio resolution : String) : Payload :=
  .fields ([("duration", .number seconds), ("watermark", .flag false)] ++
    if "wan2.7".toList.isPrefixOf model.toList then [("resolution", .text resolution), ("ratio", .text ratio)]
    else [("size", .text (legacyVideoSize resolution ratio))])

/-- `SubmitVideo`. -/
def submitVideo (g : Option NativeClient) (out : Outside) (model prompt : String) (seconds : ℤ)
    (ratio resolution : String) : Finished String :=
  match g with
  | none => ⟨none, .error (.api .videoUnavailable), false⟩
  | some c =>
    if !c.configured then ⟨none, .error (.api .videoUnavailable), false⟩
    else submit c out model (.fields [("prompt", .text prompt)]) (videoParams model seconds ratio resolution)

/-- What `SubmitAnimation` sends as its input. -/
def animationInput (prompt firstFrame : String) : Payload :=
  .fields [("prompt", .text prompt),
    ("media", .list [.fields [("type", .text "first_frame"), ("url", .text firstFrame)]])]

/-- The parameters of `SubmitAnimation`. -/
def animationParams (seconds : ℤ) (resolution : String) : Payload :=
  .fields [("duration", .number seconds), ("resolution", .text resolution), ("watermark", .flag false)]

/-- `SubmitAnimation`. -/
def submitAnimation (g : Option NativeClient) (out : Outside) (model prompt : String) (seconds : ℤ)
    (resolution firstFrame : String) : Finished String :=
  match g with
  | none => ⟨none, .error (.api .videoUnavailable), false⟩
  | some c =>
    if !c.configured then ⟨none, .error (.api .videoUnavailable), false⟩
    else submit c out model (animationInput prompt firstFrame) (animationParams seconds resolution)

/-! ## Voices -/

/-- `voiceDeleteRequested`. -/
def voiceDeleteRequested (payload : Payload) : Bool :=
  match ((payload.get? "input").bind (Payload.get? "action")).bind Payload.asText with
  | some action => trimSpace action == "delete_voice"
  | none => false

/-- `providerVoiceAlreadyAbsent`. -/
def providerVoiceAlreadyAbsent (out : Outside) (body : Bytes) : Bool :=
  match out.code body with
  | none => false
  | some code =>
    trimSpace code == "InvalidParameter.ResourceNotExist" || trimSpace code == "BadRequest.VoiceNotFound"

/-- `customization`. -/
def customization (g : Option NativeClient) (out : Outside) (payload : Payload) : Finished Bytes :=
  match g with
  | none => ⟨none, .error (.api .voiceUnavailable), true⟩
  | some c =>
    if !c.configured then ⟨none, .error (.api .voiceUnavailable), true⟩
    else if !out.marshals payload then ⟨none, .error (.api .internal), true⟩
    else
      match c.post out (c.base ++ "/api/v1/services/audio/tts/customization") payload with
      | (request, .error error) => ⟨request, .error (.api error), error.status == 500⟩
      | (request, .ok (status, body)) =>
        if status = 200 then ⟨request, .ok body, false⟩
        else if status = 400 ∧ voiceDeleteRequested payload = true ∧ providerVoiceAlreadyAbsent out body = true then
          ⟨request, .error .upstreamAlreadyAbsent, false⟩
        else if status = 429 then ⟨request, .error (.api .upstreamBusy), true⟩
        else if rejectedBeforeGeneration status then ⟨request, .error (.api .upstreamRejected), true⟩
        else ⟨request, .error (.api .upstreamError), false⟩

/-- What `EnrollVoice` sends. -/
def enrollPayload (sampleURL : String) : Payload :=
  .fields [("model", .text "voice-enrollment"),
    ("input", .fields [("action", .text "create_voice"), ("target_model", .text "qwen-audio-3.0-tts-flash"),
      ("prefix", .text "anselm"), ("url", .text sampleURL)])]

/-- `parseVoiceID`. -/
def parseVoiceID (out : Outside) (body : Bytes) : Option String :=
  match out.voiceID body with
  | none => none
  | some id => if trimSpace id = "" then none else some (trimSpace id)

/-- `EnrollVoice`. -/
def enrollVoice (g : Option NativeClient) (out : Outside) (sampleURL : String) : Finished String :=
  match customization g out (enrollPayload sampleURL) with
  | ⟨request, .error error, unbilled⟩ => ⟨request, .error error, unbilled⟩
  | ⟨request, .ok body, _⟩ =>
    match parseVoiceID out body with
    | none => ⟨request, .error (.api .upstreamError), false⟩
    | some id => ⟨request, .ok id, false⟩

end AnselmGateway.GenerationClients
