import AnselmGateway.APIError
import AnselmGateway.Foundation.Json.Decoder
import AnselmGateway.Foundation.PaddedBase64
import Mathlib.Algebra.GroupWithZero.Nat

/-! The content of a chat request, `internal/domain/chat`: what its media parts may be,
how they are metered, and how a lease reference becomes the bytes of its lease. Texts
that are taken apart are byte strings. -/
namespace AnselmGateway.ChatContent
open Foundation Foundation.Json

/-! ## Requests -/

structure ImageURL where
  url : Bytes
  detail : String := ""
  deriving DecidableEq

structure VideoURL where
  url : Bytes
  deriving DecidableEq

structure InputAudio where
  data : Bytes
  format : String
  deriving DecidableEq

def partTypeText : String := "text"
def partTypeImageURL : String := "image_url"
def partTypeVideoURL : String := "video_url"
def partTypeInputAudio : String := "input_audio"

/-- `ContentPart`. -/
structure ContentPart where
  type : String
  text : String := ""
  imageURL : Option ImageURL := none
  videoURL : Option VideoURL := none
  inputAudio : Option InputAudio := none
  deriving DecidableEq

/-- `Content`. -/
inductive Content where
  | missing
  | null
  | string (text : String)
  | parts (parts : List ContentPart)
  deriving DecidableEq

/-- `Message`. -/
structure Message where
  role : String
  content : Content
  name : String := ""
  toolCalls : Bytes := []
  toolCallID : String := ""
  reasoningContent : Bytes := []
  deriving DecidableEq

/-- `InboundRequest`. The temperature is only handed on: it is its bits. -/
structure InboundRequest where
  model : String := ""
  messages : List Message
  stream : Bool := false
  temperature : Option UInt64 := none
  maxTokens : Option ℤ := none
  n : Option ℤ := none
  tools : Bytes := []
  toolChoice : Bytes := []
  deriving DecidableEq

/-- `hasToolCalls`: a whole JSON text that is an array with an element. -/
def hasToolCalls (raw : Bytes) : Bool :=
  match (Decoder.new raw).decode with
  | .error _ => false
  | .ok (value, behind) => decide (behind.decode = .error .eof) &&
      decide (value.head? = some leftBracket) &&
      decide ((value.tail.dropWhile Json.isSpace).head? ≠ some rightBracket)

/-! ## Lease references -/

/-- `ishex` with `unhex`. -/
def unhex (c : UInt8) : Option UInt8 :=
  if 48 ≤ c ∧ c ≤ 57 then some (c - 48)
  else if 97 ≤ c ∧ c ≤ 102 then some (c - 87)
  else if 65 ≤ c ∧ c ≤ 70 then some (c - 55)
  else none

/-- `unescape` of a path, a fragment, or, where a plus is a space, of a query component. -/
def unescape (plus : Bool) : Bytes → Option Bytes
  | [] => some []
  | c :: rest =>
    if c = 0x25 then
      match rest with
      | high :: low :: rest => do
        let h ← unhex high
        let l ← unhex low
        let others ← unescape plus rest
        return (h * 16 + l) :: others
      | _ => none
    else (unescape plus rest).map fun others => (if c = 0x2B && plus then 0x20 else c) :: others

/-- `strings.Cut` at a byte. -/
def cut (separator : UInt8) (s : Bytes) : Bytes × Bytes :=
  (s.takeWhile (· ≠ separator), (s.dropWhile (· ≠ separator)).tail)

theorem cut_append {separator : UInt8} {front rest : Bytes} (free : separator ∉ front) :
    cut separator (front ++ separator :: rest) = (front, rest) := by
  have all : ∀ char ∈ front, decide (char ≠ separator) = true := by
    intro char member
    rw [decide_eq_true_iff]
    rintro rfl
    exact free member
  rw [cut, List.takeWhile_append_of_pos all, List.dropWhile_append_of_pos all]
  simp

theorem cut_absent {separator : UInt8} {s : Bytes} (free : separator ∉ s) : cut separator s = (s, []) := by
  have all : ∀ char ∈ s, decide (char ≠ separator) = true := by
    intro char member
    rw [decide_eq_true_iff]
    rintro rfl
    exact free member
  have front := @List.takeWhile_append_of_pos _ _ s [] all
  have behind := @List.dropWhile_append_of_pos _ _ s [] all
  rw [List.append_nil] at front behind
  rw [cut, front, behind]
  simp

/-- A parsed reference to a path on this host. -/
structure URL where
  path : Bytes
  rawQuery : Bytes

/-- `url.Parse` of a text that begins with a single slash, which has no scheme, no user
and no host. -/
def parseURL (rawURL : Bytes) : Option URL :=
  let (u, frag) := cut 0x23 rawURL
  if u.any fun c => c < 0x20 || c = 0x7F then none
  else
    let (rest, rawQuery) := cut 0x3F u
    match unescape false rest, unescape false frag with
    | some path, some _ => some ⟨path, rawQuery⟩
    | _, _ => none

/-- A `key=value` of a query; what cannot be read is skipped. -/
def queryPair (pair : Bytes) : Option (Bytes × Bytes) :=
  if pair.contains 0x3B || pair.isEmpty then none
  else
    let (key, value) := cut 0x3D pair
    match unescape true key, unescape true value with
    | some key, some value => some (key, value)
    | _, _ => none

/-- `Query().Get`. -/
def URL.get (u : URL) (key : Bytes) : Bytes :=
  (((splitAtByte 0x26 u.rawQuery).filterMap queryPair).find? fun pair => pair.1 = key).elim [] Prod.snd

def leasePathPrefix : Bytes := utf8 "/v1/media/leases/"
def leasePathSuffix : Bytes := utf8 "/content"

/-- `strings.TrimSuffix`. -/
def trimSuffix (s suffix : Bytes) : Bytes :=
  if suffix <:+ s then s.take (s.length - suffix.length) else s

/-- `MediaLeaseRef`. -/
structure MediaLeaseRef where
  leaseID : Bytes
  token : Bytes
  raw : Bytes
  deriving DecidableEq

/-- `parseMediaLeaseRef`. -/
def parseMediaLeaseRef (rawURL : Bytes) : Option MediaLeaseRef :=
  if ¬leasePathPrefix <+: rawURL then none
  else match parseURL rawURL with
    | none => none
    | some u =>
      if ¬leasePathPrefix <+: u.path ∨ ¬leasePathSuffix <:+ u.path then none
      else
        let id := trimSuffix (u.path.drop leasePathPrefix.length) leasePathSuffix
        if id = [] ∨ id.any (fun c => c = 0x2F || c = 0x5C) then none
        else
          let token := u.get (utf8 "token")
          if token = [] then none else some ⟨id, token, rawURL⟩

/-- The address a part of an image or a video has. -/
def ContentPart.mediaURL (part : ContentPart) : Option Bytes :=
  if part.type = partTypeImageURL then part.imageURL.map ImageURL.url
  else if part.type = partTypeVideoURL then part.videoURL.map VideoURL.url
  else none

/-- The reference a part is, if it is one. -/
def ContentPart.leaseRef (part : ContentPart) : Option MediaLeaseRef :=
  part.mediaURL.bind parseMediaLeaseRef

/-- `Parts`, with no parts where content is none. -/
def Content.partsList : Content → List ContentPart
  | .parts list => list
  | _ => []

/-- `MediaLeaseRefs`. -/
def InboundRequest.mediaLeaseRefs (req : InboundRequest) : List MediaLeaseRef :=
  req.messages.flatMap fun message => message.content.partsList.filterMap ContentPart.leaseRef

/-! ## Media -/

def isJPEG (data : Bytes) : Bool := data.take 3 = [0xFF, 0xD8, 0xFF]

def isPNG (data : Bytes) : Bool := data.take 8 = [0x89, 0x50, 0x4E, 0x47, 0x0D, 0x0A, 0x1A, 0x0A]

def isWebP (data : Bytes) : Bool :=
  decide (data.length ≥ 12) && data.take 4 = utf8 "RIFF" && (data.drop 8).take 4 = utf8 "WEBP"

def isWAV (data : Bytes) : Bool :=
  decide (data.length ≥ 12) && data.take 4 = utf8 "RIFF" && (data.drop 8).take 4 = utf8 "WAVE"

def isMP3 (data : Bytes) : Bool :=
  decide (data.take 3 = utf8 "ID3") ||
    match data with
    | first :: second :: _ => first = 0xFF && second &&& 0xE0 = 0xE0
    | _ => false

def isMP4 (data : Bytes) : Bool := decide (data.length ≥ 12) && (data.drop 4).take 4 = utf8 "ftyp"

/-- `strictBase64DecodedLen`. -/
def strictBase64DecodedLen (encoded : Bytes) : Option ℕ :=
  let n := encoded.length
  if n = 0 ∨ n % 4 ≠ 0 then none
  else
    let padding := if encoded.getLast? = some PaddedBase64.pad then
      if encoded.dropLast.getLast? = some PaddedBase64.pad then 2 else 1
      else 0
    if (encoded.take (n - padding)).contains PaddedBase64.pad then none else some (n / 4 * 3 - padding)

/-- `decodeBase64`. -/
def decodeBase64 (encoded : Bytes) (maxDecoded : ℤ) : Except String Bytes :=
  if encoded = [] then .error "media base64 data is empty"
  else match strictBase64DecodedLen encoded with
    | none => .error "invalid media base64 data"
    | some decodedLen =>
      if maxDecoded ≤ 0 ∨ (decodedLen : ℤ) > maxDecoded then
        .error "media data exceeds the decoded-byte limit"
      else match PaddedBase64.decode encoded with
        | none => .error "invalid media base64 data"
        | some decoded =>
          if decoded.length ≠ decodedLen then .error "invalid media base64 data" else .ok decoded

def imageMagic (meta' : Bytes) : Option (Bytes → Bool) :=
  if meta' = utf8 "image/jpeg;base64" then some isJPEG
  else if meta' = utf8 "image/png;base64" then some isPNG
  else if meta' = utf8 "image/webp;base64" then some isWebP
  else none

/-- `validateImage`. A reference counts for nothing here. -/
def validateImage (image : Option ImageURL) (maxDecoded : ℤ) : Except String ℕ :=
  match image with
  | none => .error "image_url payload is required"
  | some image =>
    if (parseMediaLeaseRef image.url).isSome then .ok 0
    else if ¬utf8 "data:" <+: image.url then
      .error "image_url must be a base64 data URI or a gateway-issued media lease path"
    else
      let rest := image.url.drop 5
      if 0x2C ∉ rest then .error "image_url must be a base64 data URI"
      else
        let (meta', encoded) := cut 0x2C rest
        match imageMagic meta' with
        | none => .error "image_url must use image/jpeg, image/png, or image/webp"
        | some magic =>
          match decodeBase64 encoded maxDecoded with
          | .error error => .error error
          | .ok decoded =>
            if magic decoded then .ok decoded.length else .error "image MIME type does not match its data"

def videoPrefix : Bytes := utf8 "data:video/mp4;base64,"

/-- `validateVideo`. -/
def validateVideo (video : Option VideoURL) (maxDecoded : ℤ) : Except String ℕ :=
  match video with
  | none => .error "video_url payload is required"
  | some video =>
    if (parseMediaLeaseRef video.url).isSome then .ok 0
    else if ¬videoPrefix <+: video.url then
      .error ("video_url must use an inline video/mp4 base64 data URI " ++
        "or a gateway-issued media lease path")
    else match decodeBase64 (video.url.drop videoPrefix.length) maxDecoded with
      | .error error => .error error
      | .ok decoded =>
        if isMP4 decoded then .ok decoded.length else .error "video MIME type does not match its data"

def audioMagic (format : String) : Option (Bytes → Bool) :=
  if format = "wav" then some isWAV else if format = "mp3" then some isMP3 else none

/-- `validateAudio`. -/
def validateAudio (audio : Option InputAudio) (maxDecoded : ℤ) : Except String ℕ :=
  match audio with
  | none => .error "input_audio payload is required"
  | some audio =>
    match audioMagic audio.format with
    | none => .error "input_audio format must be wav or mp3"
    | some magic =>
      match decodeBase64 audio.data maxDecoded with
      | .error error => .error error
      | .ok decoded =>
        if magic decoded then .ok decoded.length
        else .error "input_audio format does not match its data"

/-! ## Classification -/

inductive Modality where
  | text
  | multimodal
  | audio
  deriving DecidableEq

/-- `MediaLimits`. -/
structure MediaLimits where
  maxParts : ℤ
  maxDecodedBytes : ℤ

/-- What `ValidateAndClassify` has seen so far. -/
structure Seen where
  modality : Modality
  mediaParts : ℤ
  decodedBytes : ℤ

section Classify
variable (limits : MediaLimits)

/-- A media part: only of a user, within the number of parts, and within what is left of
the bytes. -/
def meterPart (role : String) (validate : ℤ → Except String ℕ) (modality : Modality) (seen : Seen) :
    Except String Seen :=
  if role ≠ "user" then .error "media content is only allowed in user messages"
  else if limits.maxParts ≤ 0 ∨ seen.mediaParts + 1 > limits.maxParts then .error "too many media parts"
  else
    let remaining := limits.maxDecodedBytes - seen.decodedBytes
    match validate (if remaining < 0 then 0 else remaining) with
    | .error error => .error error
    | .ok n => .ok ⟨modality, seen.mediaParts + 1, seen.decodedBytes + n⟩

/-- Audio, once seen, decides. -/
def Seen.withVisual (seen : Seen) : Modality :=
  if seen.modality = .audio then .audio else .multimodal

def classifyPart (role : String) (seen : Seen) (part : ContentPart) : Except String Seen :=
  if part.type = partTypeText then .ok seen
  else if part.type = partTypeImageURL then
    meterPart limits role (validateImage part.imageURL) seen.withVisual seen
  else if part.type = partTypeVideoURL then
    meterPart limits role (validateVideo part.videoURL) seen.withVisual seen
  else if part.type = partTypeInputAudio then
    meterPart limits role (validateAudio part.inputAudio) .audio seen
  else .error "unsupported content part type"

def classifyMessage (seen : Seen) (message : Message) : Except String Seen :=
  if message.role ∉ ["system", "user", "assistant", "tool"] then
    .error "message role must be system, user, assistant, or tool"
  else if message.role = "tool" ∧ blank message.toolCallID then .error "tool message requires tool_call_id"
  else match message.content with
    | .missing | .null =>
      if message.role ≠ "assistant" ∨ !hasToolCalls message.toolCalls then
        .error "content is required unless this is an assistant tool-call turn"
      else .ok seen
    | .string _ => .ok seen
    | .parts parts => parts.foldlM (classifyPart limits message.role) seen

/-- `contentError`. -/
def contentError (message : String) : APIError := { APIError.badRequest with message := message }

/-- `ValidateAndClassify`. -/
def InboundRequest.validateAndClassify (req : InboundRequest) : Except APIError Modality :=
  match req.messages.foldlM (classifyMessage limits) ⟨.text, 0, 0⟩ with
  | .error message => .error (contentError message)
  | .ok seen => .ok seen.modality

end Classify

/-! ## The forwarded request -/

/-- `InlinedLease`. -/
structure InlinedLease where
  mimeType : String
  base64 : Bytes

def dataURI (mimeType : String) (base64 : Bytes) : Bytes :=
  utf8 "data:" ++ utf8 mimeType ++ utf8 ";base64," ++ base64

/-- The leases by reference, the latest first. -/
abbrev Inline := List (Bytes × InlinedLease)

def Inline.get? (inline : Inline) (raw : Bytes) : Option InlinedLease :=
  (inline.find? fun entry => entry.1 = raw).map Prod.snd

/-- The address of a part, after its reference was replaced. -/
def inlinedURL (inline : Inline) (url : Bytes) : Bytes :=
  match inline.get? url with
  | some lease => dataURI lease.mimeType lease.base64
  | none => url

def ContentPart.withInlined (inline : Inline) (part : ContentPart) : ContentPart :=
  if part.type = partTypeImageURL then
    { part with imageURL := part.imageURL.map fun image => { image with url := inlinedURL inline image.url } }
  else if part.type = partTypeVideoURL then
    { part with videoURL := part.videoURL.map fun video => { video with url := inlinedURL inline video.url } }
  else part

def Content.withInlined (inline : Inline) : Content → Content
  | .parts list => .parts (list.map (ContentPart.withInlined inline))
  | content => content

/-- `WithInlinedMediaLeases`. -/
def InboundRequest.withInlinedMediaLeases (req : InboundRequest) (inline : Inline) : InboundRequest :=
  { req with messages := req.messages.map fun message =>
      { message with content := message.content.withInlined inline } }

/-- `canonicalMessages`: parts that are all text are one text. -/
def canonicalMessage (message : Message) : Message :=
  match message.content with
  | .parts parts =>
    if parts.all fun part => part.type = partTypeText then
      { message with content := .string (String.join (parts.map ContentPart.text)) }
    else message
  | _ => message

/-- `CompletionRequest`. -/
structure CompletionRequest where
  messages : List Message
  stream : Bool
  temperature : Option UInt64 := none
  maxTokens : Option ℤ
  tools : Bytes
  toolChoice : Bytes
  includeUsage : Bool
  deriving DecidableEq

/-- `Sanitize`. -/
def sanitize (req : InboundRequest) (maxTok : Option ℤ) : CompletionRequest where
  messages := req.messages.map canonicalMessage
  stream := req.stream
  temperature := req.temperature
  maxTokens := maxTok
  tools := req.tools
  toolChoice := req.toolChoice
  includeUsage := req.stream

/-- `BoundMaxTokens`: what is asked for, up to the cap, on the wire and in the quote. -/
def boundMaxTokens (client : Option ℤ) (capTok : ℤ) : Option ℤ × ℤ :=
  match client with
  | some v => if v > 0 then (some (min v capTok), min v capTok) else (some capTok, capTok)
  | none => (some capTok, capTok)

/-- `textRunes`. -/
def Content.textRunes : Content → ℕ
  | .string text => text.length
  | .parts list => (list.map fun part => if part.type = partTypeText then part.text.length else 0).sum
  | _ => 0

/-- `CheckMessageShape`. -/
def InboundRequest.shapeError (req : InboundRequest) (maxMessages maxChars : ℤ) : Option String :=
  if (req.messages.length : ℤ) > maxMessages then some "too many messages"
  else if req.messages.any fun message => (message.content.textRunes : ℤ) > maxChars then
    some "message content too large"
  else none

end AnselmGateway.ChatContent
