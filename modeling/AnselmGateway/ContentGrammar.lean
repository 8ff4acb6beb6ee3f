import AnselmGateway.ChatWire

/-! What the content decoder accepts. The grammar is over the fields of an object, of two
under one name the later; the decoder keeps to it but for the text of a text part, where
`null` passes for an empty string. -/
namespace AnselmGateway.ContentGrammar
open Foundation Foundation.Json ChatContent ChatWire

/-! ## The grammar -/

def IsString (value : Tree) : Prop := ∃ text, value = .string text

def IsNonempty (value : Tree) : Prop := ∃ text, value = .string text ∧ text ≠ ""

/-- A field that must be there. -/
def Has (fields : Fields) (name : String) (shape : Tree → Prop) : Prop :=
  ∃ value, fields.get? name = some value ∧ shape value

/-- A field that may be there. -/
def MayHave (fields : Fields) (name : String) (shape : Tree → Prop) : Prop :=
  ∀ value, fields.get? name = some value → shape value

/-- An object with no other fields. -/
def IsObject (allowed : List String) (shape : Fields → Prop) (value : Tree) : Prop :=
  ∃ fields, value = .object fields ∧ (∀ field ∈ fields, field.1 ∈ allowed) ∧ shape fields

def IsDetail (value : Tree) : Prop := ∃ text ∈ ["auto", "low", "high"], value = .string text

def IsImageURL : Tree → Prop :=
  IsObject ["url", "detail"] fun fields => Has fields "url" IsNonempty ∧ MayHave fields "detail" IsDetail

def IsVideoURL : Tree → Prop := IsObject ["url"] fun fields => Has fields "url" IsNonempty

def IsInputAudio : Tree → Prop :=
  IsObject ["data", "format"] fun fields => Has fields "data" IsNonempty ∧ Has fields "format" IsNonempty

/-- A part of one variant: its type, and its payload under the name of the type. -/
def IsVariant (typ : String) (payload : Tree → Prop) : Tree → Prop :=
  IsObject ["type", typ] fun fields => Has fields "type" (· = .string typ) ∧ Has fields typ payload

/-- One of the four variants. -/
def IsPart (value : Tree) : Prop :=
  IsVariant "text" IsString value ∨ IsVariant "image_url" IsImageURL value ∨
    IsVariant "video_url" IsVideoURL value ∨ IsVariant "input_audio" IsInputAudio value

/-- Message content. -/
inductive IsContent : Tree → Prop
  | null : IsContent .null
  | string (text : String) : IsContent (.string text)
  | array {elements : List Tree} (parts : ∀ element ∈ elements, IsPart element) : IsContent (.array elements)

/-- A text part whose text is `null`. -/
def IsNullText : Tree → Prop := IsVariant "text" (· = .null)

/-! ## Fields -/

section Fields
variable {fields : Fields} {name : String} {raw : Tree}

theorem requiredString_some {text : String} :
    requiredString fields name = some text ↔ fields.get? name = some (.string text) ∧ text ≠ "" := by
  unfold requiredString
  cases found : fields.get? name with
  | none => simp
  | some value =>
    cases value with
    | null => simp [Tree.intoString]
    | string held =>
      by_cases empty : held = ""
      · simp only [empty, Tree.intoString]
        constructor
        · intro refused
          cases refused
        · rintro ⟨same, filled⟩
          cases same
          exact absurd rfl filled
      · simp only [Tree.intoString, Option.bind_eq_bind, Option.bind_some, if_neg empty, Option.some.injEq,
          Tree.string.injEq]
        constructor
        · rintro rfl
          exact ⟨rfl, empty⟩
        · exact And.left
    | _ => simp [Tree.intoString]

theorem requiredString_isSome : (∃ text, requiredString fields name = some text) ↔ Has fields name IsNonempty := by
  simp only [requiredString_some, Has, IsNonempty]
  constructor
  · rintro ⟨text, found, filled⟩
    exact ⟨_, found, text, rfl, filled⟩
  · rintro ⟨_, found, text, rfl, filled⟩
    exact ⟨text, found, filled⟩

/-- A string is read as itself, and `null` as the empty string. -/
theorem intoString_some {value : Tree} {text : String} :
    value.intoString "" = some text ↔ value = .string text ∨ value = .null ∧ text = "" := by
  cases value <;> simp [Tree.intoString, eq_comm]

/-- An object decoder refuses what is no object, and, if it needs a field, `null`. -/
theorem decodeObject_some {α : Type} {allowed : List String} {read : Fields → Option α} {result : α}
    (needs : read [] = none) : decodeObject allowed read raw = some result ↔
      ∃ fields, raw = .object fields ∧ (∀ field ∈ fields, field.1 ∈ allowed) ∧ read fields = some result := by
  unfold decodeObject
  cases raw with
  | null => simp [Tree.intoMap, needs]
  | object fields =>
    rw [Tree.intoMap, Option.bind_some]
    constructor
    · intro reads
      split at reads
      · rename_i only
        exact ⟨fields, rfl, only_iff.mp only, reads⟩
      · cases reads
    · rintro ⟨_, same, only, reads⟩
      cases same
      rw [if_pos (only_iff.mpr only), reads]
  | _ => simp [Tree.intoMap]

theorem decodeObject_isSome {α : Type} {allowed : List String} {read : Fields → Option α}
    (needs : read [] = none) : (∃ result, decodeObject allowed read raw = some result) ↔
      IsObject allowed (fun fields => ∃ result, read fields = some result) raw := by
  simp only [decodeObject_some needs, IsObject]
  constructor
  · rintro ⟨result, fields, rfl, only, reads⟩
    exact ⟨fields, rfl, only, result, reads⟩
  · rintro ⟨fields, rfl, only, result, reads⟩
    exact ⟨result, fields, rfl, only, reads⟩

end Fields

/-! ## Payloads -/

section Payloads
variable {fields : Fields} {raw : Tree}

theorem IsObject.congr {allowed : List String} {shape shape' : Fields → Prop}
    (same : ∀ fields, shape fields ↔ shape' fields) : IsObject allowed shape raw ↔ IsObject allowed shape' raw := by
  simp only [IsObject, same]

theorem decodeDetail_some {detail : String} : decodeDetail fields = some detail ↔
    fields.get? "detail" = none ∧ detail = "" ∨
      fields.get? "detail" = some (.string detail) ∧ detail ∈ ["auto", "low", "high"] := by
  unfold decodeDetail
  cases found : fields.get? "detail" with
  | none => simp [eq_comm]
  | some value =>
    cases value with
    | string held =>
      simp only [Tree.intoString, Option.bind_eq_bind, Option.bind_some, Option.ite_none_right_eq_some,
        Option.some.injEq, Tree.string.injEq, reduceCtorEq, false_and, false_or]
      constructor
      · rintro ⟨listed, rfl⟩
        exact ⟨rfl, listed⟩
      · rintro ⟨rfl, listed⟩
        exact ⟨listed, rfl⟩
    | _ => simp [Tree.intoString]

theorem decodeDetail_isSome : (∃ detail, decodeDetail fields = some detail) ↔ MayHave fields "detail" IsDetail := by
  simp only [decodeDetail_some, MayHave, IsDetail]
  constructor
  · rintro ⟨detail, ⟨absent, _⟩ | ⟨found, listed⟩⟩ value held
    · rw [absent] at held
      cases held
    · rw [found] at held
      cases held
      exact ⟨detail, listed, rfl⟩
  · intro may
    cases found : fields.get? "detail" with
    | none => exact ⟨"", .inl ⟨rfl, rfl⟩⟩
    | some value =>
      obtain ⟨detail, listed, rfl⟩ := may value found
      exact ⟨detail, .inr ⟨rfl, listed⟩⟩

theorem decodeImageURL_isSome : (∃ image, decodeImageURL raw = some image) ↔ IsImageURL raw := by
  rw [decodeImageURL, decodeObject_isSome (by simp [requiredString]), IsImageURL]
  refine IsObject.congr fun fields => ?_
  rw [← requiredString_isSome, ← decodeDetail_isSome]
  constructor
  · rintro ⟨image, reads⟩
    obtain ⟨url, there, reads⟩ := Option.bind_eq_some_iff.mp reads
    obtain ⟨detail, hint, _⟩ := Option.bind_eq_some_iff.mp reads
    exact ⟨⟨url, there⟩, detail, hint⟩
  · rintro ⟨⟨url, there⟩, detail, hint⟩
    exact ⟨_, by rw [there, Option.bind_eq_bind, Option.bind_some, hint]; rfl⟩

theorem decodeVideoURL_isSome : (∃ video, decodeVideoURL raw = some video) ↔ IsVideoURL raw := by
  rw [decodeVideoURL, decodeObject_isSome (by simp [requiredString]), IsVideoURL]
  refine IsObject.congr fun fields => ?_
  rw [← requiredString_isSome]
  constructor
  · rintro ⟨video, reads⟩
    obtain ⟨url, there, _⟩ := Option.bind_eq_some_iff.mp reads
    exact ⟨url, there⟩
  · rintro ⟨url, there⟩
    exact ⟨_, by rw [there]; rfl⟩

theorem decodeInputAudio_isSome : (∃ audio, decodeInputAudio raw = some audio) ↔ IsInputAudio raw := by
  rw [decodeInputAudio, decodeObject_isSome (by simp [requiredString]), IsInputAudio]
  refine IsObject.congr fun fields => ?_
  rw [← requiredString_isSome, ← requiredString_isSome]
  constructor
  · rintro ⟨audio, reads⟩
    obtain ⟨data, there, reads⟩ := Option.bind_eq_some_iff.mp reads
    obtain ⟨format, also, _⟩ := Option.bind_eq_some_iff.mp reads
    exact ⟨⟨data, there⟩, format, also⟩
  · rintro ⟨⟨data, there⟩, format, also⟩
    exact ⟨_, by rw [there, Option.bind_eq_bind, Option.bind_some, also]; rfl⟩

/-- A field whose value is read on its own. -/
theorem field_isSome {α : Type} {name : String} {read : Tree → Option α} {shape : Tree → Prop}
    {build : α → ContentPart} (reads : ∀ value, (∃ result, read value = some result) ↔ shape value) :
    (∃ part, (do
      let raw ← fields.get? name
      let payload ← read raw
      some (build payload)) = some part) ↔ Has fields name shape := by
  constructor
  · rintro ⟨part, ran⟩
    obtain ⟨value, found, ran⟩ := Option.bind_eq_some_iff.mp ran
    obtain ⟨payload, read_, _⟩ := Option.bind_eq_some_iff.mp ran
    exact ⟨value, found, (reads value).mp ⟨payload, read_⟩⟩
  · rintro ⟨value, found, shaped⟩
    obtain ⟨payload, read_⟩ := (reads value).mpr shaped
    exact ⟨build payload, by rw [found, Option.bind_eq_bind, Option.bind_some, read_]; rfl⟩

theorem intoString_isSome (value : Tree) :
    (∃ text, value.intoString "" = some text) ↔ IsString value ∨ value = .null := by
  simp only [intoString_some, IsString]
  constructor
  · rintro ⟨text, rfl | ⟨rfl, _⟩⟩
    · exact .inl ⟨text, rfl⟩
    · exact .inr rfl
  · rintro (⟨text, rfl⟩ | rfl)
    · exact ⟨text, .inl rfl⟩
    · exact ⟨"", .inr ⟨rfl, rfl⟩⟩

/-- The payload decides by the type. -/
theorem decodePayload_isSome {typ : String} : (∃ part, decodePayload typ fields = some part) ↔
    typ = "text" ∧ Has fields "text" (fun value => IsString value ∨ value = .null) ∨
      typ = "image_url" ∧ Has fields "image_url" IsImageURL ∨
      typ = "video_url" ∧ Has fields "video_url" IsVideoURL ∨
      typ = "input_audio" ∧ Has fields "input_audio" IsInputAudio := by
  unfold decodePayload
  split
  · rename_i text
    rw [field_isSome intoString_isSome]
    simp [text, partTypeText]
  · rename_i noText
    split
    · rename_i image
      rw [field_isSome fun value => decodeImageURL_isSome]
      simp [image, partTypeImageURL]
    · rename_i noImage
      split
      · rename_i video
        rw [field_isSome fun value => decodeVideoURL_isSome]
        simp [video, partTypeVideoURL]
      · rename_i noVideo
        split
        · rename_i audio
          rw [field_isSome fun value => decodeInputAudio_isSome]
          simp [audio, partTypeInputAudio]
        · rename_i noAudio
          simp only [partTypeText, partTypeImageURL, partTypeVideoURL, partTypeInputAudio] at *
          simp [noText, noImage, noVideo, noAudio]

end Payloads

/-! ## Parts and content -/

theorem isVariant_iff {raw : Tree} {typ : String} {payload : Tree → Prop} : IsVariant typ payload raw ↔
    ∃ fields : Fields, raw = .object fields ∧ (∀ field ∈ fields, field.1 ∈ ["type", typ]) ∧
      fields.get? "type" = some (.string typ) ∧ Has fields typ payload := by
  simp [IsVariant, IsObject, Has]

/-- A part is accepted if it is one of the grammar, or a text part with `null` for its
text. -/
theorem decodePart_isSome {raw : Tree} :
    (∃ part, decodePart raw = some part) ↔ IsPart raw ∨ IsNullText raw := by
  have reads : (∃ part, decodePart raw = some part) ↔ ∃ fields : Fields, raw = .object fields ∧ ∃ typ,
      fields.get? "type" = some (.string typ) ∧ (∀ field ∈ fields, field.1 ∈ ["type", typ]) ∧
        ∃ part, decodePayload typ fields = some part := by
    unfold decodePart
    constructor
    · rintro ⟨part, ran⟩
      obtain ⟨fields, map, ran⟩ := Option.bind_eq_some_iff.mp ran
      obtain ⟨typ, typed, ran⟩ := Option.bind_eq_some_iff.mp ran
      obtain ⟨built, payload, ran⟩ := Option.bind_eq_some_iff.mp ran
      obtain ⟨found, _⟩ := requiredString_some.mp typed
      split at ran
      · rename_i only
        cases raw with
        | object members =>
          cases map
          exact ⟨fields, rfl, typ, found, only_iff.mp only, built, payload⟩
        | null =>
          cases map
          cases found
        | _ => cases map
      · cases ran
    · rintro ⟨fields, rfl, typ, found, only, part, payload⟩
      have named : typ ≠ "" := by
        rintro rfl
        cases payload
      refine ⟨part, ?_⟩
      simp [Tree.intoMap, requiredString_some.mpr ⟨found, named⟩, payload, only_iff.mpr only]
  rw [reads]
  simp only [decodePayload_isSome, IsPart, IsNullText, isVariant_iff]
  constructor
  · rintro ⟨fields, rfl, typ, found, only, ⟨rfl, value, held, text | none_⟩ | ⟨rfl, has⟩ | ⟨rfl, has⟩ | ⟨rfl, has⟩⟩
    · exact .inl (.inl ⟨fields, rfl, only, found, value, held, text⟩)
    · exact .inr ⟨fields, rfl, only, found, value, held, none_⟩
    · exact .inl (.inr (.inl ⟨fields, rfl, only, found, has⟩))
    · exact .inl (.inr (.inr (.inl ⟨fields, rfl, only, found, has⟩)))
    · exact .inl (.inr (.inr (.inr ⟨fields, rfl, only, found, has⟩)))
  · rintro ((⟨fields, rfl, only, found, value, held, text⟩ | ⟨fields, rfl, only, found, has⟩ |
      ⟨fields, rfl, only, found, has⟩ | ⟨fields, rfl, only, found, has⟩) | ⟨fields, rfl, only, found, value, held, none_⟩)
    · exact ⟨fields, rfl, "text", found, only, .inl ⟨rfl, value, held, .inl text⟩⟩
    · exact ⟨fields, rfl, "image_url", found, only, .inr (.inl ⟨rfl, has⟩)⟩
    · exact ⟨fields, rfl, "video_url", found, only, .inr (.inr (.inl ⟨rfl, has⟩))⟩
    · exact ⟨fields, rfl, "input_audio", found, only, .inr (.inr (.inr ⟨rfl, has⟩))⟩
    · exact ⟨fields, rfl, "text", found, only, .inl ⟨rfl, value, held, .inr none_⟩⟩

/-- The two do not meet. -/
theorem isPart_not_nullText {raw : Tree} (part : IsPart raw) : ¬IsNullText raw := by
  intro nullText
  obtain ⟨fields, rfl, only, typed, value, held, none_⟩ := isVariant_iff.mp nullText
  rcases part with text | image | video | audio
  · obtain ⟨_, same, _, _, value', held', text, isText⟩ := isVariant_iff.mp text
    cases same
    rw [held, none_, isText] at held'
    cases held'
  · obtain ⟨_, same, _, typed', _⟩ := isVariant_iff.mp image
    cases same
    rw [typed] at typed'
    simp at typed'
  · obtain ⟨_, same, _, typed', _⟩ := isVariant_iff.mp video
    cases same
    rw [typed] at typed'
    simp at typed'
  · obtain ⟨_, same, _, typed', _⟩ := isVariant_iff.mp audio
    cases same
    rw [typed] at typed'
    simp at typed'

theorem mapM_isSome {α β : Type} {read : α → Option β} {list : List α} :
    (∃ results, list.mapM read = some results) ↔ ∀ element ∈ list, ∃ result, read element = some result := by
  induction list with
  | nil => simp
  | cons element rest ih =>
    rw [List.mapM_cons, List.forall_mem_cons, ← ih]
    constructor
    · rintro ⟨results, ran⟩
      obtain ⟨first, here, ran⟩ := Option.bind_eq_some_iff.mp ran
      obtain ⟨others, there, _⟩ := Option.bind_eq_some_iff.mp ran
      exact ⟨⟨first, here⟩, others, there⟩
    · rintro ⟨⟨first, here⟩, others, there⟩
      exact ⟨first :: others, by rw [here, there]; rfl⟩

/-- What is accepted: the grammar, with `null` for the text of any text part. -/
theorem decodeContent_ok {raw : Tree} : (∃ content, decodeContent raw = .ok content) ↔
    raw = .null ∨ IsString raw ∨
      ∃ elements, raw = .array elements ∧ ∀ element ∈ elements, IsPart element ∨ IsNullText element := by
  cases raw with
  | null => simp [decodeContent]
  | string text => simp [decodeContent, Tree.intoString, IsString]
  | array elements =>
    have parts : (∃ list, elements.mapM decodePart = some list) ↔ _ := mapM_isSome
    simp only [decodePart_isSome] at parts
    simp only [reduceCtorEq, IsString, exists_false, Tree.array.injEq, exists_eq_left', false_or, ← parts]
    simp only [decodeContent, Tree.intoString, Tree.intoSlice, Option.bind_some]
    cases elements.mapM decodePart <;> simp
  | _ => simp [decodeContent, Tree.intoString, Tree.intoSlice, IsString]

/-- An array that is message content but for a `null` that stands for the text of a text
part. -/
def HasNullText (raw : Tree) : Prop :=
  ∃ elements, raw = .array elements ∧ (∀ element ∈ elements, IsPart element ∨ IsNullText element) ∧
    ∃ element ∈ elements, IsNullText element

theorem isContent_iff {raw : Tree} : IsContent raw ↔ raw = .null ∨ IsString raw ∨
    ∃ elements, raw = .array elements ∧ ∀ element ∈ elements, IsPart element := by
  constructor
  · rintro (_ | text | parts)
    · exact .inl rfl
    · exact .inr (.inl ⟨text, rfl⟩)
    · exact .inr (.inr ⟨_, rfl, parts⟩)
  · rintro (rfl | ⟨text, rfl⟩ | ⟨elements, rfl, parts⟩)
    · exact .null
    · exact .string text
    · exact .array parts

/-- The decoder keeps to the grammar exactly where no `null` stands for a text. -/
theorem decodeContent_grammar_iff (raw : Tree) :
    ((∃ content, decodeContent raw = .ok content) ↔ IsContent raw) ↔ ¬HasNullText raw := by
  rw [decodeContent_ok, isContent_iff]
  constructor
  · rintro agrees ⟨elements, rfl, each, element, mem, nullText⟩
    rcases agrees.mp (.inr (.inr ⟨elements, rfl, each⟩)) with none_ | text | ⟨others, same, parts⟩
    · cases none_
    · obtain ⟨_, same⟩ := text
      cases same
    · cases same
      exact isPart_not_nullText (parts element mem) nullText
  · intro clean
    refine or_congr_right (or_congr_right (exists_congr fun elements => and_congr_right fun same => ?_))
    constructor
    · intro each element mem
      rcases each element mem with part | nullText
      · exact part
      · exact absurd ⟨elements, same, each, element, mem, nullText⟩ clean
    · exact fun parts element mem => .inl (parts element mem)

/-- A text part without a text. -/
def nullTextPart : Tree := .object [("type", .string "text"), ("text", .null)]

theorem null_passes_for_text :
    ¬∀ raw, (∃ content, decodeContent raw = .ok content) ↔ IsContent raw := by
  intro agrees
  have nullText : IsNullText nullTextPart :=
    isVariant_iff.mpr ⟨_, rfl, by simp, rfl, .null, rfl, rfl⟩
  have passes : decodeContent (.array [nullTextPart]) = .ok (.parts [{ type := "text" }]) := rfl
  cases (agrees _).mp ⟨_, passes⟩ with
  | array parts => exact isPart_not_nullText (parts _ List.mem_cons_self) nullText

end AnselmGateway.ContentGrammar
