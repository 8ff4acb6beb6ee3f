import AnselmGateway.Billing
import AnselmGateway.Foundation.Json.Object

/-! Token usage as a provider reports it: the usage member of one response object,
isolated before it is decoded, so that a bad one is evidence and not absence. -/
namespace AnselmGateway.ChatUsage
open Foundation Foundation.Json Billing

/-! ## The usage member -/

/-- What `extractUsage` returns: malformed, with whether a usage member was seen, or
the member's bytes. -/
inductive Extracted where
  | malformed (present : Bool)
  | usage (raw : Option Bytes)
  deriving DecidableEq

/-- One round of the walk over the members. -/
def usageMember (raw : Option Bytes) (m : Member) : Option Bytes ⊕ Bool :=
  if !equalFold m.key "usage" then .inl raw
  else if raw.isSome then .inr true
  else .inl (some m.value)

def extractUsage (payload : Bytes) : Extracted :=
  match overObject usageMember Option.isSome payload none with
  | .inl present => .malformed present
  | .inr raw => .usage raw

/-! ## Unique keys -/

/-- `strings.ToLower` of a key of ASCII. -/
def lower (key : String) : String := String.ofList (key.toList.map Char.toLower)

/-- The closing delimiter of what was consumed. -/
def closedBy (c : UInt8) (dec : Decoder) : Option Decoder :=
  match dec.token with
  | .ok (.delim d, dec) => if d = c then some dec else none
  | _ => none

mutual

/-- `consumeUniqueJSONValue`. -/
def consumeUniqueJSONValue : ℕ → Decoder → Option Decoder
  | 0, _ => none
  | left + 1, dec =>
    match dec.token with
    | .error _ => none
    | .ok (.delim c, dec) =>
      if c = leftBrace then consumeMembers left dec []
      else if c = leftBracket then consumeElements left dec
      else none
    | .ok (_, dec) => some dec

/-- Its loop over the members of an object, with the keys seen. -/
def consumeMembers : ℕ → Decoder → List String → Option Decoder
  | 0, _, _ => none
  | left + 1, dec, seen =>
    if !dec.more then closedBy rightBrace dec
    else match dec.token with
      | .ok (.text key, dec) =>
        if key.toList.any (fun c => c.toNat ≥ 0x80) || seen.contains (lower key) then none
        else match consumeUniqueJSONValue left dec with
          | none => none
          | some dec => consumeMembers left dec (lower key :: seen)
      | _ => none

/-- Its loop over the elements of an array. -/
def consumeElements : ℕ → Decoder → Option Decoder
  | 0, _ => none
  | left + 1, dec =>
    if !dec.more then closedBy rightBracket dec
    else match consumeUniqueJSONValue left dec with
      | none => none
      | some dec => consumeElements left dec

end

/-- No object of a value spells one key twice. -/
def uniqueJSONKeys (raw : Bytes) : Bool :=
  match consumeUniqueJSONValue (2 * raw.length + 1) (Decoder.new raw) with
  | none => false
  | some dec => decide (dec.decode = .error .eof)

/-! ## Decoding -/

/-- `usageFields`. The details are what they hold, where they are given. -/
structure UsageFields where
  promptTokens : Int64 := 0
  completionTokens : Int64 := 0
  totalTokens : Int64 := 0
  cachedTokens : Option Int64 := none
  reasoningTokens : Option Int64 := none
  deriving DecidableEq

/-- `strconv.ParseInt` of a scanned number. -/
def parseInt64 (literal : Bytes) : Option Int64 :=
  let digits := if literal.head? = some 0x2D then literal.tail else literal
  let value := signedValue literal
  if digits ≠ [] && digits.all isDigit && -2 ^ 63 ≤ value && value < 2 ^ 63 then
    some (Int64.ofInt value)
  else none

/-- `Unmarshal` of a value into an integer field; a null leaves it. -/
def unmarshalInt64 (field : Int64) (value : Bytes) : Option Int64 :=
  if value = utf8 "null" then some field else parseInt64 value

/-- `Unmarshal` into a pointer to details with one integer field. -/
def unmarshalDetails (name : String) (value : Bytes) : Option (Option Int64) :=
  if value = utf8 "null" then some none
  else (objectMembers value).bind fun members =>
    (members.foldlM (fun field (m : Member) =>
      if lower m.key = name then unmarshalInt64 field m.value else some field) 0).map some

def unmarshalMember (fields : UsageFields) (m : Member) : Option UsageFields :=
  match lower m.key with
  | "prompt_tokens" =>
    (unmarshalInt64 fields.promptTokens m.value).map fun n => { fields with promptTokens := n }
  | "completion_tokens" =>
    (unmarshalInt64 fields.completionTokens m.value).map fun n => { fields with completionTokens := n }
  | "total_tokens" =>
    (unmarshalInt64 fields.totalTokens m.value).map fun n => { fields with totalTokens := n }
  | "prompt_tokens_details" =>
    (unmarshalDetails "cached_tokens" m.value).map fun n => { fields with cachedTokens := n }
  | "completion_tokens_details" =>
    (unmarshalDetails "reasoning_tokens" m.value).map fun n => { fields with reasoningTokens := n }
  | _ => some fields

/-- `json.Unmarshal` of an object whose keys are unique and of ASCII. -/
def unmarshalUsage (raw : Bytes) : Option UsageFields :=
  (objectMembers raw).bind fun members => members.foldlM unmarshalMember {}

/-- `vector`. -/
def UsageFields.vector (fields : UsageFields) : Usage :=
  let v : Usage :=
    { present := true
      promptTokens := fields.promptTokens
      completionTokens := fields.completionTokens
      totalTokens := fields.totalTokens
      cachedPromptTokens := fields.cachedTokens.getD 0
      reasoningTokens := fields.reasoningTokens.getD 0 }
  { v with malformed := usageHasNegative v }

/-! ## Responses -/

def parseUsagePayload (payload : Bytes) : Usage :=
  match extractUsage payload with
  | .malformed present => { present := present, malformed := true }
  | .usage none => {}
  | .usage (some rawUsage) =>
    let raw := trimSpaceBytes rawUsage
    if raw = utf8 "null" then {}
    else if !uniqueJSONKeys raw then { present := true, malformed := true }
    else match unmarshalUsage raw with
      | none => { present := true, malformed := true }
      | some fields => fields.vector

def parseUsageSnapshotBody (body : Bytes) : Usage := parseUsagePayload body

def parseUsageSnapshotLine (line : Bytes) : Usage :=
  let line := trimSpaceBytes line
  if !(utf8 "data:").isPrefixOf line then {}
  else
    let payload := trimSpaceBytes (line.drop (utf8 "data:").length)
    if payload = utf8 "[DONE]" then {} else parseUsagePayload payload

/-- `IsDONE`. -/
def isDONE (line : Bytes) : Bool :=
  let line := trimSpaceBytes line
  (utf8 "data:").isPrefixOf line &&
    trimSpaceBytes (line.drop (utf8 "data:").length) == utf8 "[DONE]"

end AnselmGateway.ChatUsage
