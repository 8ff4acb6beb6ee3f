import AnselmGateway.ChatContent
import AnselmGateway.Foundation.Json.Tree

/-! A chat message and its JSON, `internal/domain/chat`. A raw message is the value it
stands for. What goes wrong in a part is not told apart: the decoder of the content has
one error for everything. -/
namespace AnselmGateway.ChatWire
open Foundation Foundation.Json ChatContent

/-! ## Content -/

/-- A string that must be there and say something. -/
def requiredString (fields : Fields) (name : String) : Option String := do
  let value ← fields.get? name
  let text ← value.intoString ""
  if text = "" then none else some text

/-- An object with no other fields. -/
def decodeObject {α : Type} (allowed : List String) (read : Fields → Option α) (raw : Tree) : Option α :=
  raw.intoMap.bind fun fields => if fields.only allowed then read fields else none

/-- The hint of an image. -/
def decodeDetail (fields : Fields) : Option String :=
  match fields.get? "detail" with
  | none => some ""
  | some value => do
    let detail ← value.intoString ""
    if detail ∈ ["auto", "low", "high"] then some detail else none

/-- `decodeImageURL`. -/
def decodeImageURL : Tree → Option ImageURL :=
  decodeObject ["url", "detail"] fun fields => do
    let url ← requiredString fields "url"
    let detail ← decodeDetail fields
    some ⟨utf8 url, detail⟩

/-- `decodeVideoURL`. -/
def decodeVideoURL : Tree → Option VideoURL :=
  decodeObject ["url"] fun fields => do
    let url ← requiredString fields "url"
    some ⟨utf8 url⟩

/-- `decodeInputAudio`. -/
def decodeInputAudio : Tree → Option InputAudio :=
  decodeObject ["data", "format"] fun fields => do
    let data ← requiredString fields "data"
    let format ← requiredString fields "format"
    some ⟨utf8 data, format⟩

/-- The payload of a part. A text is read into an empty string, which `null` leaves
empty. -/
def decodePayload (typ : String) (fields : Fields) : Option ContentPart :=
  if typ = partTypeText then do
    let raw ← fields.get? "text"
    let text ← raw.intoString ""
    some { type := typ, text := text }
  else if typ = partTypeImageURL then do
    let raw ← fields.get? "image_url"
    let image ← decodeImageURL raw
    some { type := typ, imageURL := some image }
  else if typ = partTypeVideoURL then do
    let raw ← fields.get? "video_url"
    let video ← decodeVideoURL raw
    some { type := typ, videoURL := some video }
  else if typ = partTypeInputAudio then do
    let raw ← fields.get? "input_audio"
    let audio ← decodeInputAudio raw
    some { type := typ, inputAudio := some audio }
  else none

/-- `UnmarshalJSON` of a `ContentPart`. The field a payload is under bears the name of the
type. -/
def decodePart (raw : Tree) : Option ContentPart := do
  let fields ← raw.intoMap
  let typ ← requiredString fields "type"
  let part ← decodePayload typ fields
  if fields.only ["type", typ] then some part else none

/-- `UnmarshalJSON` of a `Content`. -/
def decodeContent (raw : Tree) : Except String Content :=
  match raw with
  | .null => .ok .null
  | raw =>
    match raw.intoString "" with
    | some text => .ok (.string text)
    | none =>
      match raw.intoSlice.bind fun elements => elements.mapM decodePart with
      | some parts => .ok (.parts parts)
      | none => .error "content must be null, a string, or an array"

/-- A byte string as the encoder writes it. -/
def textOf (bytes : Bytes) : String := String.ofList (runes bytes)

def encodeImageURL (image : ImageURL) : Tree :=
  .object (("url", .string (textOf image.url)) :: optionalField "detail" (nonempty image.detail))

def encodeVideoURL (video : VideoURL) : Tree := .object [("url", .string (textOf video.url))]

def encodeInputAudio (audio : InputAudio) : Tree :=
  .object [("data", .string (textOf audio.data)), ("format", .string audio.format)]

/-- `MarshalJSON` of a `ContentPart`. -/
def encodePart (part : ContentPart) : Option Tree :=
  let typed (name : String) (payload : Tree) : Tree := .object [("type", .string part.type), (name, payload)]
  if part.type = partTypeText then some (typed "text" (.string part.text))
  else if part.type = partTypeImageURL then
    part.imageURL.map fun image => typed "image_url" (encodeImageURL image)
  else if part.type = partTypeVideoURL then
    part.videoURL.map fun video => typed "video_url" (encodeVideoURL video)
  else if part.type = partTypeInputAudio then
    part.inputAudio.map fun audio => typed "input_audio" (encodeInputAudio audio)
  else none

/-- `MarshalJSON` of a `Content`. `PartsContent` copies onto a nil slice, so a slice of no
parts is nil, and `json.Marshal` makes `null` of it. -/
def encodeContent : Content → Option Tree
  | .missing | .null => some .null
  | .string text => some (.string text)
  | .parts [] => some .null
  | .parts list => (list.mapM encodePart).map Tree.array

/-! ## Messages -/

/-- A `Message`, its raw fields as JSON values. -/
structure WireMessage where
  role : String
  content : Content
  name : String
  toolCalls : Option Tree
  toolCallID : String
  reasoningContent : Option Tree

/-- `hasToolCalls`. -/
def callsTools : Option Tree → Bool
  | some (.array (_ :: _)) => true
  | _ => false

/-- The content of a message, if the field is there. -/
def fieldContent : Option Tree → Option Content
  | none => some .missing
  | some raw => (decodeContent raw).toOption

/-- `UnmarshalJSON` of a `Message`. -/
def decodeMessage (raw : Tree) : Option WireMessage := do
  let fields ← raw.intoMap
  let role ← fields.text "role" ""
  let name ← fields.text "name" ""
  let toolCallID ← fields.text "tool_call_id" ""
  let content ← fieldContent (fields.raw "content")
  some ⟨role, content, name, fields.raw "tool_calls", toolCallID, fields.raw "reasoning_content"⟩

/-- Whether the content is left out of the encoding. -/
def WireMessage.omitsContent (m : WireMessage) : Bool :=
  m.content = .missing || callsTools m.toolCalls && m.content = .string ""

/-- The content that is encoded, if any. -/
def WireMessage.sentContent (m : WireMessage) : Option (Option Tree) :=
  if m.omitsContent then some none else (encodeContent m.content).map some

/-- `MarshalJSON` of a `Message`. -/
def encodeMessage (m : WireMessage) : Option Tree := do
  let content ← m.sentContent
  some (.object (("role", .string m.role) :: (optionalField "content" content ++
    (optionalField "name" (nonempty m.name) ++ (optionalField "tool_calls" m.toolCalls ++
    (optionalField "tool_call_id" (nonempty m.toolCallID) ++
    optionalField "reasoning_content" m.reasoningContent))))))

end AnselmGateway.ChatWire
