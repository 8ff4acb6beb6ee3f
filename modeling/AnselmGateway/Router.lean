import AnselmGateway.Foundation.IPAddress
import AnselmGateway.Foundation.Routing
import AnselmGateway.ProtectedDoor

/-! The public listener in front of its handlers, `internal/transport/httpapi/router` and
`middleware`: the route table, the mux over it, and the wrappers around the mux. -/
namespace AnselmGateway.Router
open Foundation ProtectedDoor
open Foundation.Routing (Pattern Segment fits captured lookup apart lookup_eq_some_iff lookup_isSome)

/-! ## The table -/

/-- The handlers of `routes`. -/
inductive Route where
  | install
  | challenge
  | proofChallenge
  | chat
  | quota
  | models
  | speechASR
  | imagesGenerate
  | imagesEdit
  | voiceEnroll
  | voiceList
  | voiceDelete
  | audioSpeech
  | videosGenerate
  | videosAnimate
  | videoStatus
  | mediaCreate
  | mediaStatus
  | mediaCancel
  | mediaAppend
  | mediaComplete
  | mediaFetch
  | healthz
  deriving DecidableEq

/-- One `mux.Handle`, with the label it is measured under. -/
structure Mount where
  method : String
  path : String
  label : Option String
  route : Route
  deriving DecidableEq

/-- `assemble`. -/
def mounts : List Mount := [
  ⟨"POST", "/v1/install", "install", .install⟩,
  ⟨"GET", "/v1/install/challenge", "install_challenge", .challenge⟩,
  ⟨"GET", "/v1/proof/challenge", "proof_challenge", .proofChallenge⟩,
  ⟨"POST", "/v1/chat/completions", "chat_completions", .chat⟩,
  ⟨"GET", "/v1/quota", "quota", .quota⟩,
  ⟨"GET", "/v1/models", "models", .models⟩,
  ⟨"GET", "/v1/speech/asr", "speech_asr", .speechASR⟩,
  ⟨"POST", "/v1/images/generations", "images_generate", .imagesGenerate⟩,
  ⟨"POST", "/v1/images/edits", "images_edit", .imagesEdit⟩,
  ⟨"POST", "/v1/audio/speech", "audio_speech", .audioSpeech⟩,
  ⟨"POST", "/v1/voices", "voice_enroll", .voiceEnroll⟩,
  ⟨"GET", "/v1/voices", "voice_list", .voiceList⟩,
  ⟨"POST", "/v1/voices:delete", "voice_delete", .voiceDelete⟩,
  ⟨"POST", "/v1/videos/generations", "videos_generate", .videosGenerate⟩,
  ⟨"POST", "/v1/videos/animations", "videos_animate", .videosAnimate⟩,
  ⟨"GET", "/v1/videos/\x7bvideoId\x7d", "video_status", .videoStatus⟩,
  ⟨"POST", "/v1/media/uploads", "media_create", .mediaCreate⟩,
  ⟨"GET", "/v1/media/uploads/\x7buploadId\x7d", "media_status", .mediaStatus⟩,
  ⟨"DELETE", "/v1/media/uploads/\x7buploadId\x7d", "media_cancel", .mediaCancel⟩,
  ⟨"PUT", "/v1/media/uploads/\x7buploadId\x7d", "media_append", .mediaAppend⟩,
  ⟨"POST", "/v1/media/uploads/\x7buploadId\x7d/complete", "media_complete", .mediaComplete⟩,
  ⟨"GET", "/v1/media/leases/\x7bleaseId\x7d/content", "media_fetch", .mediaFetch⟩,
  ⟨"GET", "/healthz", none, .healthz⟩]

/-- What `BuildHandler` puts behind `Protect`. -/
def Route.guarded : Route → Bool
  | .install | .challenge | .proofChallenge | .mediaFetch | .healthz => false
  | .chat | .quota | .models | .speechASR | .imagesGenerate | .imagesEdit | .voiceEnroll
  | .voiceList | .voiceDelete | .audioSpeech | .videosGenerate | .videosAnimate | .videoStatus
  | .mediaCreate | .mediaStatus | .mediaCancel | .mediaAppend | .mediaComplete => true

/-! ## Paths -/

def slash : UInt8 := 0x2F
def dot : UInt8 := 0x2E
def percent : UInt8 := 0x25

/-- `url.PathUnescape`. -/
def unescape : Bytes → Option Bytes
  | [] => some []
  | c :: rest =>
    if c ≠ percent then (unescape rest).map (c :: ·)
    else match rest with
      | high :: low :: rest =>
        match IPAddress.hexValue high, IPAddress.hexValue low with
        | some h, some l => (unescape rest).map (UInt8.ofNat (16 * h + l) :: ·)
        | _, _ => none
      | _ => none

/-- `pathUnescape`: what does not unescape stays as it is. -/
def pathUnescape (segment : Bytes) : Bytes := (unescape segment).getD segment

/-- The segments that `firstSegment` takes off a path; a slash stands for the end of a path
that closes with one. -/
def segments (path : Bytes) : List Bytes :=
  if path = [] then []
  else
    let parts := splitAtByte slash (path.drop 1)
    parts.dropLast.map pathUnescape ++
      parts.getLast?.toList.map fun last => if last = [] then [slash] else pathUnescape last

/-- `path.Clean`, of a rooted path. -/
def clean (path : Bytes) : Bytes :=
  let kept := (splitAtByte slash path).foldl
    (fun kept element =>
      if element = [] ∨ element = [dot] then kept
      else if element = [dot, dot] then kept.dropLast
      else kept ++ [element]) ([] : List Bytes)
  if kept = [] then [slash] else kept.flatMap (slash :: ·)

/-- `cleanPath`. -/
def cleanPath (path : Bytes) : Bytes :=
  if path = [] then [slash]
  else
    let path := if path.head? = some slash then path else slash :: path
    let cleaned := clean path
    if path.getLast? = some slash ∧ cleaned ≠ [slash] then cleaned ++ [slash] else cleaned

/-- The pattern of a mount. -/
def Mount.pattern (m : Mount) : Pattern Bytes :=
  ((splitAtByte slash (utf8 m.path)).drop 1).map fun segment =>
    if segment.head? = some 0x7B then .wildcard else .literal segment

/-! ## The mux -/

/-- The mounts of a method, by their patterns. -/
def mountsOf (method : String) : List (Pattern Bytes × Mount) :=
  (mounts.filter fun m => m.method = method).map fun m => (m.pattern, m)

/-- `matchMethodAndPath`: what serves `GET` serves `HEAD`. -/
def matchMethodAndPath (method : String) (path : List Bytes) : Option Mount :=
  (lookup [slash] (mountsOf method) path).or
    (if method = "HEAD" then lookup [slash] (mountsOf "GET") path else none)

/-- `matchingMethods`, sorted. -/
def matchingMethods (path : List Bytes) : List String :=
  ["DELETE", "GET", "HEAD", "POST", "PUT"].filter fun method =>
    (matchMethodAndPath method path).isSome

/-- What becomes of a request before a handler sees it. -/
inductive Turned where
  /-- An empty 200. -/
  | options
  | forbidden
  | badRequest
  | moved (path : Bytes)
  | methodNotAllowed (allow : List String)
  | notFound
  deriving DecidableEq

/-- `findHandler`. No pattern of the table ends in a slash, so none attracts a redirect to
itself; `CONNECT` is not canonicalized. -/
def findHandler (method : String) (escapedPath : Bytes) : Except Turned (Mount × List Bytes) :=
  let path := if method = "CONNECT" then escapedPath else cleanPath escapedPath
  if path ≠ escapedPath then .error (.moved path)
  else
    match matchMethodAndPath method (segments path) with
    | some m => .ok (m, captured m.pattern (segments path))
    | none =>
      match matchingMethods (segments path) with
      | [] => .error .notFound
      | allow => .error (.methodNotAllowed allow)

/-- A request as it comes off the wire: what was sent of its body, and whether that was all. -/
structure Arrival where
  method : String
  host : String
  escapedPath : String
  rawQuery : String
  origin : String
  installID : String
  proof : Bytes
  publicKey : Bytes
  pow : Bytes
  ipKey : String
  sent : Bytes
  whole : Bool

/-- `MaxBody`. -/
def Arrival.capped (limit : ℕ) (a : Arrival) : HTTPRequest where
  method := a.method
  host := a.host
  escapedPath := a.escapedPath
  rawQuery := a.rawQuery
  installID := a.installID
  proof := a.proof
  publicKey := a.publicKey
  pow := a.pow
  ipKey := a.ipKey
  body :=
    if limit < a.sent.length then .error .tooLarge
    else if a.whole then .ok a.sent
    else .error .broken

/-- `DenyCORS` around the mux: the handler a request is for. `OPTIONS *` does not get there: the
server answers it itself, `DisableGeneralOptionsHandler` being unset. -/
def route (a : Arrival) : Except Turned (Mount × List Bytes) :=
  if a.method = "OPTIONS" ∧ a.escapedPath = "*" then .error .options
  else if a.origin ≠ "" then .error .forbidden
  else if a.escapedPath = "*" then .error .badRequest
  else findHandler a.method (utf8 a.escapedPath)

/-! ## What the table says -/

/-- A mount is for a method and a path. -/
def Mount.serves (m : Mount) (method : String) (path : List Bytes) : Prop :=
  (m.method = method ∨ method = "HEAD" ∧ m.method = "GET") ∧ fits [slash] m.pattern path = true

end AnselmGateway.Router
