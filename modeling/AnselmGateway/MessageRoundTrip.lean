import AnselmGateway.ContentGrammar

/-! Encoding a message and decoding it again. A part comes back as it was, and so does a
message; only content of no parts is encoded as `null` and comes back as that. -/
namespace AnselmGateway.MessageRoundTrip
open Foundation Foundation.Json ChatContent ChatWire ContentGrammar

/-! ## Texts -/

theorem utf8_eq (text : String) : utf8 text = text.toList.flatMap String.utf8EncodeChar := by
  have bytes : text.toUTF8 = text.toList.utf8Encode := (String.utf8Encode_toList).symm
  rw [utf8, bytes, List.utf8Encode]
  simp

theorem runes_flatMap (chars : List Char) : runes (chars.flatMap String.utf8EncodeChar) = chars := by
  induction chars with
  | nil => rfl
  | cons char rest ih => rw [List.flatMap_cons, runes_encode, ih]

/-- What was read as text is written as that text. -/
theorem textOf_utf8 (text : String) : textOf (utf8 text) = text := by
  rw [textOf, utf8_eq, runes_flatMap, String.ofList_toList]

/-! ## Parts -/

/-- A part the decoder makes. -/
inductive Decoded : ContentPart → Prop
  | text (text : String) : Decoded { type := partTypeText, text := text }
  | image (url detail : String) (filled : url ≠ "") (hint : detail = "" ∨ detail ∈ ["auto", "low", "high"]) :
      Decoded { type := partTypeImageURL, imageURL := some ⟨utf8 url, detail⟩ }
  | video (url : String) (filled : url ≠ "") :
      Decoded { type := partTypeVideoURL, videoURL := some ⟨utf8 url⟩ }
  | audio (data format : String) (filled : data ≠ "") (named : format ≠ "") :
      Decoded { type := partTypeInputAudio, inputAudio := some ⟨utf8 data, format⟩ }

theorem decodeImageURL_decoded {raw : Tree} {image : ImageURL} (ran : decodeImageURL raw = some image) :
    ∃ url detail, url ≠ "" ∧ (detail = "" ∨ detail ∈ ["auto", "low", "high"]) ∧ image = ⟨utf8 url, detail⟩ := by
  obtain ⟨fields, _, _, ran⟩ := (decodeObject_some (by simp [requiredString])).mp ran
  obtain ⟨url, there, ran⟩ := Option.bind_eq_some_iff.mp ran
  obtain ⟨detail, hint, ran⟩ := Option.bind_eq_some_iff.mp ran
  cases ran
  refine ⟨url, detail, (requiredString_some.mp there).2, ?_, rfl⟩
  rcases decodeDetail_some.mp hint with ⟨_, none_⟩ | ⟨_, listed⟩
  · exact .inl none_
  · exact .inr listed

theorem decodeVideoURL_decoded {raw : Tree} {video : VideoURL} (ran : decodeVideoURL raw = some video) :
    ∃ url, url ≠ "" ∧ video = ⟨utf8 url⟩ := by
  obtain ⟨fields, _, _, ran⟩ := (decodeObject_some (by simp [requiredString])).mp ran
  obtain ⟨url, there, ran⟩ := Option.bind_eq_some_iff.mp ran
  cases ran
  exact ⟨url, (requiredString_some.mp there).2, rfl⟩

theorem decodeInputAudio_decoded {raw : Tree} {audio : InputAudio} (ran : decodeInputAudio raw = some audio) :
    ∃ data format, data ≠ "" ∧ format ≠ "" ∧ audio = ⟨utf8 data, format⟩ := by
  obtain ⟨fields, _, _, ran⟩ := (decodeObject_some (by simp [requiredString])).mp ran
  obtain ⟨data, there, ran⟩ := Option.bind_eq_some_iff.mp ran
  obtain ⟨format, also, ran⟩ := Option.bind_eq_some_iff.mp ran
  cases ran
  exact ⟨data, format, (requiredString_some.mp there).2, (requiredString_some.mp also).2, rfl⟩

theorem decodePayload_decoded {typ : String} {fields : Fields} {part : ContentPart}
    (ran : decodePayload typ fields = some part) : Decoded part := by
  unfold decodePayload at ran
  split at ran
  · rename_i same
    obtain ⟨_, _, ran⟩ := Option.bind_eq_some_iff.mp ran
    obtain ⟨text, _, ran⟩ := Option.bind_eq_some_iff.mp ran
    cases ran
    exact same ▸ .text text
  · split at ran
    · rename_i same
      obtain ⟨_, _, ran⟩ := Option.bind_eq_some_iff.mp ran
      obtain ⟨image, reads, ran⟩ := Option.bind_eq_some_iff.mp ran
      cases ran
      obtain ⟨url, detail, filled, hint, rfl⟩ := decodeImageURL_decoded reads
      exact same ▸ .image url detail filled hint
    · split at ran
      · rename_i same
        obtain ⟨_, _, ran⟩ := Option.bind_eq_some_iff.mp ran
        obtain ⟨video, reads, ran⟩ := Option.bind_eq_some_iff.mp ran
        cases ran
        obtain ⟨url, filled, rfl⟩ := decodeVideoURL_decoded reads
        exact same ▸ .video url filled
      · split at ran
        · rename_i same
          obtain ⟨_, _, ran⟩ := Option.bind_eq_some_iff.mp ran
          obtain ⟨audio, reads, ran⟩ := Option.bind_eq_some_iff.mp ran
          cases ran
          obtain ⟨data, format, filled, named, rfl⟩ := decodeInputAudio_decoded reads
          exact same ▸ .audio data format filled named
        · cases ran

theorem decodePart_decoded {raw : Tree} {part : ContentPart} (ran : decodePart raw = some part) :
    Decoded part := by
  obtain ⟨fields, _, ran⟩ := Option.bind_eq_some_iff.mp ran
  obtain ⟨typ, _, ran⟩ := Option.bind_eq_some_iff.mp ran
  obtain ⟨built, payload, ran⟩ := Option.bind_eq_some_iff.mp ran
  split at ran
  · cases ran
    exact decodePayload_decoded payload
  · cases ran

/-- A payload is read back under the name of its type. -/
theorem decodePart_payload {typ : String} {payload : Tree} {part : ContentPart} (named : typ ≠ "")
    (apart : "type" ≠ typ) (reads : decodePayload typ [("type", .string typ), (typ, payload)] = some part) :
    decodePart (.object [("type", .string typ), (typ, payload)]) = some part := by
  have typed : Fields.get? "type" [("type", .string typ), (typ, payload)] = some (.string typ) := by
    simp [Fields.get?, Ne.symm apart]
  have only : Fields.only ["type", typ] [("type", .string typ), (typ, payload)] = true :=
    only_iff.mpr (by simp)
  simp [decodePart, Tree.intoMap, requiredString_some.mpr ⟨typed, named⟩, reads, only]

theorem decodeImageURL_encoded {url detail : String} (filled : url ≠ "")
    (hint : detail = "" ∨ detail ∈ ["auto", "low", "high"]) :
    decodeImageURL (encodeImageURL ⟨utf8 url, detail⟩) = some ⟨utf8 url, detail⟩ := by
  refine (decodeObject_some (by simp [requiredString])).mpr ⟨_, rfl, ?_, ?_⟩
  · intro field mem
    rcases List.mem_cons.mp mem with rfl | optional
    · simp
    · obtain ⟨value, _, rfl⟩ := Option.map_eq_some_iff.mp (Option.mem_toList.mp optional)
      simp
  · rw [textOf_utf8]
    have there : requiredString (("url", .string url) :: optionalField "detail" (nonempty detail)) "url" =
        some url := by
      refine requiredString_some.mpr ⟨?_, filled⟩
      unfold nonempty
      split <;> simp [optionalField, Fields.get?]
    have also : decodeDetail (("url", .string url) :: optionalField "detail" (nonempty detail)) = some detail := by
      refine decodeDetail_some.mpr ?_
      unfold nonempty
      split
      · rename_i none_
        exact .inl ⟨rfl, none_⟩
      · rename_i some_
        exact .inr ⟨by simp [optionalField, Fields.get?], hint.resolve_left some_⟩
    rw [there, Option.bind_eq_bind, Option.bind_some, also]
    rfl

theorem decodeVideoURL_encoded {url : String} (filled : url ≠ "") :
    decodeVideoURL (encodeVideoURL ⟨utf8 url⟩) = some ⟨utf8 url⟩ := by
  refine (decodeObject_some (by simp [requiredString])).mpr ⟨_, rfl, by simp, ?_⟩
  rw [textOf_utf8, requiredString_some.mpr ⟨rfl, filled⟩]
  rfl

theorem decodeInputAudio_encoded {data format : String} (filled : data ≠ "") (named : format ≠ "") :
    decodeInputAudio (encodeInputAudio ⟨utf8 data, format⟩) = some ⟨utf8 data, format⟩ := by
  refine (decodeObject_some (by simp [requiredString])).mpr ⟨_, rfl, by simp, ?_⟩
  rw [textOf_utf8, requiredString_some.mpr ⟨rfl, filled⟩, requiredString_some.mpr ⟨rfl, named⟩]
  rfl

/-- A part is decoded from its encoding as it was. -/
theorem Decoded.roundTrip {part : ContentPart} (decoded : Decoded part) :
    ∃ wire, encodePart part = some wire ∧ decodePart wire = some part := by
  cases decoded with
  | text text => exact ⟨_, rfl, rfl⟩
  | image url detail filled hint =>
    refine ⟨_, rfl, decodePart_payload (show partTypeImageURL ≠ "" by decide)
      (show "type" ≠ partTypeImageURL by decide) ?_⟩
    show (decodeImageURL (encodeImageURL ⟨utf8 url, detail⟩)).bind _ = _
    rw [decodeImageURL_encoded filled hint]
    rfl
  | video url filled =>
    refine ⟨_, rfl, decodePart_payload (show partTypeVideoURL ≠ "" by decide)
      (show "type" ≠ partTypeVideoURL by decide) ?_⟩
    show (decodeVideoURL (encodeVideoURL ⟨utf8 url⟩)).bind _ = _
    rw [decodeVideoURL_encoded filled]
    rfl
  | audio data format filled named =>
    refine ⟨_, rfl, decodePart_payload (show partTypeInputAudio ≠ "" by decide)
      (show "type" ≠ partTypeInputAudio by decide) ?_⟩
    show (decodeInputAudio (encodeInputAudio ⟨utf8 data, format⟩)).bind _ = _
    rw [decodeInputAudio_encoded filled named]
    rfl

/-! ## Content -/

theorem mapM_roundTrip {list : List ContentPart} (decoded : ∀ part ∈ list, Decoded part) :
    ∃ wires, list.mapM encodePart = some wires ∧ wires.mapM decodePart = some list := by
  induction list with
  | nil => exact ⟨[], rfl, rfl⟩
  | cons part rest ih =>
    obtain ⟨here, others⟩ := List.forall_mem_cons.mp decoded
    obtain ⟨wire, encodes, decodes⟩ := here.roundTrip
    obtain ⟨wires, encodes', decodes'⟩ := ih others
    refine ⟨wire :: wires, ?_, ?_⟩
    · simp [List.mapM_cons, encodes, encodes']
    · simp [List.mapM_cons, decodes, decodes']

theorem mapM_decoded {elements : List Tree} {list : List ContentPart}
    (ran : elements.mapM decodePart = some list) : ∀ part ∈ list, Decoded part := by
  induction elements generalizing list with
  | nil =>
    cases ran
    simp
  | cons element rest ih =>
    rw [List.mapM_cons] at ran
    obtain ⟨first, here, ran⟩ := Option.bind_eq_some_iff.mp ran
    obtain ⟨others, there, ran⟩ := Option.bind_eq_some_iff.mp ran
    cases ran
    exact List.forall_mem_cons.mpr ⟨decodePart_decoded here, ih there⟩

/-- Content the decoder makes: it is never missing. -/
def DecodedContent : Content → Prop
  | .missing => False
  | .null => True
  | .string _ => True
  | .parts list => ∀ part ∈ list, Decoded part

theorem decodeContent_decoded {raw : Tree} {content : Content} (ran : decodeContent raw = .ok content) :
    DecodedContent content := by
  unfold decodeContent at ran
  split at ran
  · cases ran
    trivial
  · split at ran
    · cases ran
      trivial
    · split at ran
      · rename_i list read
        cases ran
        obtain ⟨elements, _, ran⟩ := Option.bind_eq_some_iff.mp read
        exact mapM_decoded ran
      · cases ran

/-- What an encoding comes back as: content of no parts is `null` on the wire. -/
def Returned : Content → Content
  | .parts [] => .null
  | content => content

theorem DecodedContent.roundTrip {content : Content} (decoded : DecodedContent content) :
    ∃ wire, encodeContent content = some wire ∧ decodeContent wire = .ok (Returned content) ∧
      encodeContent (Returned content) = some wire := by
  cases content with
  | missing => cases decoded
  | null => exact ⟨_, rfl, rfl, rfl⟩
  | string text => exact ⟨_, rfl, rfl, rfl⟩
  | parts list =>
    cases list with
    | nil => exact ⟨_, rfl, rfl, rfl⟩
    | cons part rest =>
      obtain ⟨wires, encodes, decodes⟩ := mapM_roundTrip decoded
      have encoded : encodeContent (.parts (part :: rest)) = some (.array wires) := by
        rw [encodeContent, encodes]
        · rfl
        · simp
      refine ⟨.array wires, encoded, ?_, encoded⟩
      simp only [decodeContent, Tree.intoString, Tree.intoSlice, Option.bind_some, decodes]
      rfl

/-! ## Messages -/

section Skips
variable {name other : String} (apart : equalFold other name = false) (value : Option Tree) (rest : Fields)
include apart

theorem text_skip (old : String) :
    Fields.text name (optionalField other value ++ rest) old = Fields.text name rest old := by
  rw [text_append, text_apart (optional_apart apart value)]
  rfl

theorem raw_skip : Fields.raw name (optionalField other value ++ rest) = Fields.raw name rest := by
  rw [raw_append, raw_apart (optional_apart apart value), Option.or_none]

end Skips

theorem text_take {name : String} (text : String) (rest : Fields) :
    Fields.text name (optionalField name (nonempty text) ++ rest) "" = Fields.text name rest text := by
  rw [text_append, text_optional]
  rfl

theorem raw_take {name : String} (value : Option Tree) {rest : Fields} (apart : Fields.raw name rest = none) :
    Fields.raw name (optionalField name value ++ rest) = value := by
  rw [raw_append, raw_optional, apart, Option.none_or]

/-- The fields of an encoded message. -/
def encodedFields (m : WireMessage) (content : Option Tree) : Fields :=
  ("role", .string m.role) :: (optionalField "content" content ++
    (optionalField "name" (nonempty m.name) ++ (optionalField "tool_calls" m.toolCalls ++
    (optionalField "tool_call_id" (nonempty m.toolCallID) ++
    optionalField "reasoning_content" m.reasoningContent))))

section Encoded
variable (m : WireMessage) (content : Option Tree)

theorem role_encoded : (encodedFields m content).text "role" "" = some m.role := by
  have first : equalFold "role" "role" = true := by decide
  rw [encodedFields, Fields.text, if_pos first, Tree.intoString, Option.bind_some,
    text_skip (by decide), text_skip (by decide), text_skip (by decide), text_skip (by decide)]
  exact text_apart (optional_apart (by decide) _) _

theorem name_encoded : (encodedFields m content).text "name" "" = some m.name := by
  have first : equalFold "role" "name" = false := by decide
  rw [encodedFields, Fields.text, first, if_neg Bool.false_ne_true, text_skip (by decide), text_take,
    text_skip (by decide), text_skip (by decide)]
  exact text_apart (optional_apart (by decide) _) _

theorem toolCallID_encoded : (encodedFields m content).text "tool_call_id" "" = some m.toolCallID := by
  have first : equalFold "role" "tool_call_id" = false := by decide
  rw [encodedFields, Fields.text, first, if_neg Bool.false_ne_true, text_skip (by decide),
    text_skip (by decide), text_skip (by decide), text_take]
  exact text_apart (optional_apart (by decide) _) _

theorem content_encoded : (encodedFields m content).raw "content" = content := by
  have first : equalFold "role" "content" = false := by decide
  rw [encodedFields, Fields.raw, first, if_neg Bool.false_ne_true, Option.or_none]
  refine raw_take content ?_
  rw [raw_skip (by decide), raw_skip (by decide), raw_skip (by decide)]
  exact raw_apart (optional_apart (by decide) _)

theorem toolCalls_encoded : (encodedFields m content).raw "tool_calls" = m.toolCalls := by
  have first : equalFold "role" "tool_calls" = false := by decide
  rw [encodedFields, Fields.raw, first, if_neg Bool.false_ne_true, Option.or_none, raw_skip (by decide),
    raw_skip (by decide)]
  refine raw_take m.toolCalls ?_
  rw [raw_skip (by decide)]
  exact raw_apart (optional_apart (by decide) _)

theorem reasoningContent_encoded :
    (encodedFields m content).raw "reasoning_content" = m.reasoningContent := by
  have first : equalFold "role" "reasoning_content" = false := by decide
  rw [encodedFields, Fields.raw, first, if_neg Bool.false_ne_true, Option.or_none, raw_skip (by decide),
    raw_skip (by decide), raw_skip (by decide), raw_skip (by decide), raw_optional]

/-- A message is decoded from its encoding but for its content, which is decoded from
what was made of it. -/
theorem decodeMessage_encoded : decodeMessage (.object (encodedFields m content)) =
    (fieldContent content).map fun decoded => { m with content := decoded } := by
  simp only [decodeMessage, Tree.intoMap, Option.bind_eq_bind, Option.bind_some, role_encoded, name_encoded,
    toolCallID_encoded, content_encoded, toolCalls_encoded, reasoningContent_encoded]
  rw [Option.map_eq_bind]
  rfl

end Encoded

theorem encodeMessage_eq (m : WireMessage) :
    encodeMessage m = m.sentContent.map fun content => .object (encodedFields m content) := by
  rw [Option.map_eq_bind]
  rfl

/-- The message as it comes back: empty content beside tool calls was left out. -/
def WireMessage.asSent (m : WireMessage) : WireMessage :=
  if m.omitsContent then { m with content := .missing } else m

/-- Decoding gives the message back, and encoding that gives the same again. -/
def RoundTrips (m : WireMessage) : Prop :=
  ∃ wire, encodeMessage m = some wire ∧ decodeMessage wire = some (WireMessage.asSent m) ∧
    encodeMessage (WireMessage.asSent m) = some wire

theorem decodeMessage_decoded {raw : Tree} {m : WireMessage} (ran : decodeMessage raw = some m) :
    m.content = .missing ∨ DecodedContent m.content := by
  obtain ⟨fields, _, ran⟩ := Option.bind_eq_some_iff.mp ran
  obtain ⟨role, _, ran⟩ := Option.bind_eq_some_iff.mp ran
  obtain ⟨name, _, ran⟩ := Option.bind_eq_some_iff.mp ran
  obtain ⟨toolCallID, _, ran⟩ := Option.bind_eq_some_iff.mp ran
  obtain ⟨content, reads, ran⟩ := Option.bind_eq_some_iff.mp ran
  cases ran
  unfold fieldContent at reads
  split at reads
  · cases reads
    exact .inl rfl
  · rename_i value _
    cases decoded : decodeContent value with
    | error failure =>
      rw [decoded] at reads
      cases reads
    | ok held =>
      rw [decoded] at reads
      cases reads
      exact .inr (decodeContent_decoded decoded)

/-- What comes back of any message the decoder makes, and that it is encoded alike. -/
theorem encodeMessage_returns {m : WireMessage} (decoded : m.content = .missing ∨ DecodedContent m.content) :
    ∃ wire, encodeMessage m = some wire ∧
      decodeMessage wire = some { WireMessage.asSent m with content := Returned (WireMessage.asSent m).content } ∧
      encodeMessage { WireMessage.asSent m with content := Returned (WireMessage.asSent m).content } = some wire := by
  by_cases omits : m.omitsContent = true
  · refine ⟨.object (encodedFields m none), ?_, ?_, ?_⟩
    · rw [encodeMessage_eq, WireMessage.sentContent, if_pos omits]
      rfl
    · rw [decodeMessage_encoded, WireMessage.asSent, if_pos omits]
      rfl
    · rw [encodeMessage_eq, WireMessage.asSent, if_pos omits]
      rfl
  · have made : DecodedContent m.content := by
      refine decoded.resolve_left fun missing => omits ?_
      simp [WireMessage.omitsContent, missing]
    obtain ⟨wire, encodes, decodes, again⟩ := made.roundTrip
    have kept : WireMessage.omitsContent { m with content := Returned m.content } = false := by
      cases content : m.content with
      | parts list => cases list <;> simp [WireMessage.omitsContent, Returned]
      | missing =>
        rw [WireMessage.omitsContent, content] at omits
        simp at omits
      | null => simp [WireMessage.omitsContent, Returned]
      | string text =>
        rw [WireMessage.omitsContent, content] at omits
        simpa [WireMessage.omitsContent, Returned] using omits
    refine ⟨.object (encodedFields m (some wire)), ?_, ?_, ?_⟩
    · rw [encodeMessage_eq, WireMessage.sentContent, if_neg omits, encodes]
      rfl
    · rw [decodeMessage_encoded, WireMessage.asSent, if_neg omits, fieldContent, decodes]
      rfl
    · rw [encodeMessage_eq, WireMessage.sentContent, WireMessage.asSent, if_neg omits, kept,
        if_neg Bool.false_ne_true, again]
      rfl

/-- A message the decoder makes comes back as it was, and is encoded as before, exactly
unless its content is an array of no parts. -/
theorem message_roundTrips_iff {raw : Tree} {m : WireMessage} (ran : decodeMessage raw = some m) :
    RoundTrips m ↔ m.content ≠ .parts [] := by
  obtain ⟨wire, encodes, decodes, again⟩ := encodeMessage_returns (decodeMessage_decoded ran)
  constructor
  · rintro ⟨wire', encodes', decodes', _⟩ empty
    rw [encodes] at encodes'
    cases encodes'
    rw [decodes] at decodes'
    have kept : WireMessage.asSent m = m := by
      simp [WireMessage.asSent, WireMessage.omitsContent, empty]
    rw [kept, empty] at decodes'
    have same := congrArg WireMessage.content (Option.some.inj decodes')
    rw [empty] at same
    cases same
  · intro some_
    have kept : Returned (WireMessage.asSent m).content = (WireMessage.asSent m).content := by
      unfold WireMessage.asSent
      split
      · rfl
      · unfold Returned
        split
        · rename_i empty
          exact absurd empty some_
        · rfl
    rw [kept] at decodes again
    exact ⟨wire, encodes, decodes, again⟩

/-- A user turn with an array of no parts. -/
def noParts : Tree := .object [("role", .string "user"), ("content", .array [])]

theorem no_parts_become_null : ¬∀ raw m, decodeMessage raw = some m → RoundTrips m := by
  intro always
  have decoded : decodeMessage noParts = some ⟨"user", .parts [], "", none, "", none⟩ := rfl
  obtain ⟨wire, encodes, decodes, _⟩ := always _ _ decoded
  cases (show encodeMessage _ = some (.object [("role", .string "user"), ("content", .null)]) from rfl).symm.trans
    encodes
  have returned : decodeMessage (.object [("role", .string "user"), ("content", .null)]) =
      some ⟨"user", .null, "", none, "", none⟩ := rfl
  rw [returned] at decodes
  cases congrArg WireMessage.content (Option.some.inj decodes)

/-- A call of a tool beside empty content, which is left out. -/
def toolTurn : Tree := .object [("role", .string "assistant"), ("content", .string ""),
  ("tool_calls", .array [.object [("id", .string "call_1")]])]

theorem message_roundTrips_iff_toolTurn :
    RoundTrips ⟨"assistant", .string "", "", some (.array [.object [("id", .string "call_1")]]), "", none⟩ :=
  (message_roundTrips_iff (show decodeMessage toolTurn = some _ from rfl)).mpr nofun

end AnselmGateway.MessageRoundTrip
