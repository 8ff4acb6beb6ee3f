import AnselmGateway.ForwardedMedia
import AnselmGateway.MediaFiles

/-! The kind of the media of a forwarded request. Inline media is checked against the part
it stands in. A lease was checked when it was uploaded, against its own type only, and the
part that names it may be of another. -/
namespace AnselmGateway.ForwardedKinds
open Foundation ChatContent ChatHandle RuntimeConfig ForwardedMedia MediaFiles

/-! ## What detection finds -/

/-- A visual type is found by the magic it has here; anything else is sound, or nothing. -/
theorem detectMIME_cases (front : Bytes) :
    (detectMIME front = "image/png" ∧ isPNG front = true) ∨
      (detectMIME front = "image/jpeg" ∧ isJPEG front = true) ∨
      (detectMIME front = "image/webp" ∧ isWebP front = true) ∨
      (detectMIME front = "video/mp4" ∧ isMP4 front = true) ∨
      detectMIME front ∈ ["audio/wav", "audio/mpeg", ""] := by
  unfold detectMIME
  dsimp only
  split
  · rename_i png
    exact .inl ⟨rfl, decide_eq_true png⟩
  · split
    · rename_i jpeg
      exact .inr (.inl ⟨rfl, decide_eq_true jpeg⟩)
    · split
      · rename_i webp
        exact .inr (.inr (.inl ⟨rfl, by simpa [isWebP] using webp⟩))
      · split
        · rename_i mp4
          exact .inr (.inr (.inr (.inl ⟨rfl, by simpa [isMP4] using mp4⟩)))
        · refine .inr (.inr (.inr (.inr ?_)))
          split
          · simp
          · split
            · simp
            · split
              · split <;> simp
              · simp

/-- The front of a text decides every magic. -/
theorem magic_front {type mime : String} {magic : Bytes → Bool} {data : Bytes}
    (kind : (mime, magic) ∈ kindsOf type) (found : detectMIME (data.take 64) = mime) : magic data = true := by
  have jpeg : isJPEG (data.take 64) = isJPEG data := by simp [isJPEG, List.take_take]
  have png : isPNG (data.take 64) = isPNG data := by simp [isPNG, List.take_take]
  have webp : isWebP (data.take 64) = isWebP data := by simp [isWebP, List.take_take, List.drop_take]
  have mp4 : isMP4 (data.take 64) = isMP4 data := by simp [isMP4, List.take_take, List.drop_take]
  have visual : (mime, magic) ∈ imageKinds ++ videoKinds := by
    unfold kindsOf at kind
    split at kind
    · exact List.mem_append_left _ kind
    · split at kind
      · exact List.mem_append_right _ kind
      · cases kind
  simp only [imageKinds, videoKinds, List.cons_append, List.nil_append, List.mem_cons, Prod.mk.injEq,
    List.not_mem_nil, or_false] at visual
  have cases_ := detectMIME_cases (data.take 64)
  rw [found, jpeg, png, webp, mp4] at cases_
  rcases visual with ⟨rfl, rfl⟩ | ⟨rfl, rfl⟩ | ⟨rfl, rfl⟩ | ⟨rfl, rfl⟩ <;> simpa using cases_

/-! ## What an address says -/

theorem utf8_injective {text other : String} (same : utf8 text = utf8 other) : text = other := by
  apply String.toByteArray_inj.mp
  exact ByteArray.ext (Array.toList_inj.mp same)

/-- A data URI says one type, and carries one text. -/
theorem dataURI_injective {mime mime' : String} {text text' : Bytes} (free : comma ∉ text)
    (free' : comma ∉ text') (same : dataURI mime text = dataURI mime' text') : mime = mime' ∧ text = text' := by
  have ends := congrArg payload same
  rw [dataURI_eq, dataURI_eq, payload_append free, payload_append free'] at ends
  rw [dataURI, dataURI, ends] at same
  have front := List.append_cancel_left (List.append_cancel_right (List.append_cancel_right same))
  exact ⟨utf8_injective front, ends⟩

/-- A lease carries what it says in a part that takes its type, and only there. -/
theorem carries_lease_iff {type mime : String} {data : Bytes} (found : detectMIME (data.take 64) = mime) :
    (∃ carried, Carries (kindsOf type) (dataURI mime (PaddedBase64.encode data)) carried) ↔
      mime ∈ (kindsOf type).map Prod.fst := by
  constructor
  · rintro ⟨carried, said, magic, text, kind, same, read, _⟩
    obtain ⟨rfl, _⟩ := dataURI_injective (PaddedBase64.foreign_encode foreign_comma data)
      (PaddedBase64.foreign_decode foreign_comma read) same
    exact List.mem_map.mpr ⟨_, kind, rfl⟩
  · intro listed
    obtain ⟨⟨said, magic⟩, kind, rfl⟩ := List.mem_map.mp listed
    exact ⟨data, said, magic, _, kind, rfl, PaddedBase64.decode_encode data, magic_front kind found⟩

/-! ## Part by part -/

/-- What the upload service promises of its leases: the type is what detection found at
the front of the bytes. -/
def Genuine (leases : MediaLeases) : Prop :=
  ∀ i ref src body, leases i ref = some src → src.body = some body → body.length = src.sizeBytes →
    detectMIME (body.take 64) = src.mimeType

theorem lastOpened_some {leases : MediaLeases} {raw : Bytes} {i : ℕ} {refs : List MediaLeaseRef}
    {src : LeaseContent} (last : lastOpened leases raw i refs = some src) : ∃ j ref, leases j ref = some src := by
  induction refs generalizing i with
  | nil => cases last
  | cons ref refs ih =>
    rw [lastOpened] at last
    rcases Option.or_eq_some_iff.mp last with later | ⟨_, here⟩
    · exact ih later
    · split at here
      · exact ⟨i, ref, here⟩
      · cases here

/-- An image or a video carries a media of its own kind. -/
def OfDeclaredKind (part : ContentPart) : Prop :=
  part.type = partTypeImageURL ∨ part.type = partTypeVideoURL →
    ∃ url data, part.mediaURL = some url ∧ Carries (kindsOf part.type) url data

/-- The lease last opened for a part is of a type the part takes. -/
def LeaseSuits (leases : MediaLeases) (refs : List MediaLeaseRef) (part : ContentPart) : Prop :=
  ∀ ref src, part.leaseRef = some ref → lastOpened leases ref.raw 0 refs = some src →
    src.mimeType ∈ (kindsOf part.type).map Prod.fst

theorem declared_text {part : ContentPart} (text : part.type = partTypeText) : OfDeclaredKind part := by
  rintro (image | video)
  · rw [text] at image
    exact absurd image (by decide)
  · rw [text] at video
    exact absurd video (by decide)

theorem visual_type {part : ContentPart} {url : Bytes} (address : part.mediaURL = some url) :
    part.type = partTypeImageURL ∨ part.type = partTypeVideoURL := by
  unfold ContentPart.mediaURL at address
  split at address
  · exact .inl ‹_›
  · split at address
    · exact .inr ‹_›
    · cases address

/-- A part leaves as it should exactly when its lease, if it names one, suits it. -/
theorem declared_filled_iff {leases : MediaLeases} {req : InboundRequest} {inline : Inline}
    {message : Message} {part : ContentPart} (genuine : Genuine leases)
    (filled : Filled leases req.mediaLeaseRefs inline) (passed : Passed req.messages)
    (listed : message ∈ req.messages) (mem : part ∈ message.content.partsList) :
    OfDeclaredKind (part.withInlined inline) ↔ LeaseSuits leases req.mediaLeaseRefs part := by
  rcases passed message listed part mem with text | ⟨n, url, address, admitted⟩
  · constructor
    · intro _ ref src is
      rw [ContentPart.leaseRef, mediaURL_text text] at is
      cases is
    · exact fun _ => declared_text (by rw [type_withInlined, text])
  · unfold OfDeclaredKind
    rw [type_withInlined]
    rcases mediaURL_filled filled listed mem address with
      ⟨noRef, same⟩ | ⟨ref, src, data, is, parsed, last, body, whole, becomes⟩
    · -- An inline part was checked against its type when the request was classified.
      have carries : ∃ data, Carries (kindsOf part.type) url data := by
        rcases admitted with ⟨ref, _⟩ | ⟨_, data, carries, _⟩
        · rw [noRef] at ref
          cases ref
        · exact ⟨data, carries⟩
      obtain ⟨data, carries⟩ := carries
      constructor
      · intro _ ref src is
        rw [ContentPart.leaseRef, address, Option.bind_some, noRef] at is
        cases is
      · exact fun _ _ => ⟨url, data, same, carries⟩
    · obtain ⟨j, ref', opened⟩ := lastOpened_some last
      have found := genuine j ref' src data opened body whole
      constructor
      · intro declared other src' is' last'
        rw [is] at is'
        cases is'
        rw [last] at last'
        cases last'
        obtain ⟨url', carried, leads, carries⟩ := declared (visual_type address)
        rw [becomes] at leads
        cases leads
        exact (carries_lease_iff found).mp ⟨carried, carries⟩
      · intro suits _
        obtain ⟨carried, carries⟩ := (carries_lease_iff found).mpr (suits ref src is last)
        exact ⟨_, carried, becomes, carries⟩

/-- Collapsing parts that are all text changes nothing here. -/
theorem declared_canonical_iff (message : Message) :
    (∀ part ∈ (canonicalMessage message).content.partsList, OfDeclaredKind part) ↔
      ∀ part ∈ message.content.partsList, OfDeclaredKind part := by
  unfold canonicalMessage
  split
  · rename_i list content
    split
    · rename_i text
      refine ⟨fun _ part mem => ?_, fun _ => nofun⟩
      rw [content] at mem
      exact declared_text (by simpa using List.all_eq_true.mp text part mem)
    · rfl
  · rfl

/-! ## The whole request -/

/-- Given genuine leases, a forwarded request carries what its parts declare exactly when
every lease is of a type the part that names it takes. -/
theorem forwarded_kinds_iff {cfg : Config} {d : Deps} {input : HandleInput} {req : InboundRequest}
    {out : CompletionRequest} (genuine : Genuine (leasesOf d))
    (decoded : d.decodeInbound input.body = .ok req) (ran : handle cfg d input = .forwarded out) :
    (∀ message ∈ out.messages, ∀ part ∈ message.content.partsList, OfDeclaredKind part) ↔
      ∀ message ∈ req.messages, ∀ part ∈ message.content.partsList,
        LeaseSuits (leasesOf d) req.mediaLeaseRefs part := by
  obtain ⟨classified, inline, filled, same⟩ := handle_forwarded decoded ran
  obtain ⟨modality, accepted, silent⟩ := classify_ok classified
  have passed := (validateAndClassify_ok accepted silent).1
  rw [same, List.forall_mem_map, InboundRequest.withInlinedMediaLeases, List.forall_mem_map]
  refine forall₂_congr fun message listed => ?_
  rw [declared_canonical_iff, partsList_withInlined, List.forall_mem_map]
  exact forall₂_congr fun part mem => declared_filled_iff genuine filled passed listed mem

/-- Twelve bytes a detector takes for an MP4. -/
def shortMP4 : Bytes := [0, 0, 0, 12] ++ utf8 "ftypmp42"

def mp4Lease : LeaseContent := ⟨"video/mp4", 12, some shortMP4⟩

def inlineMP4 : String := "data:video/mp4;base64,AAAADGZ0eXBtcDQy"

theorem genuine_serving {src : LeaseContent} {body : Bytes} (req : InboundRequest) (holds : src.body = some body)
    (found : detectMIME (body.take 64) = src.mimeType) : Genuine (leasesOf (serving src req)) := by
  intro i ref src' body' opened holds' _
  cases opened
  rw [holds] at holds'
  cases holds'
  exact found

/-- The lease of a video is forwarded as an image, though it is what it says. -/
theorem video_in_image_part : withMedia.validateSemantics = .ok () ∧
    ¬∀ d input req out, Genuine (leasesOf d) → d.decodeInbound input.body = .ok req →
      handle (ConfigProvider.publish withMedia).effective d input = .forwarded out →
        ∀ message ∈ out.messages, ∀ part ∈ message.content.partsList, OfDeclaredKind part := by
  refine ⟨by decide +kernel, fun always => ?_⟩
  have sent : forwardedTo (handle (ConfigProvider.publish withMedia).effective
      (serving mp4Lease (asking [leasePath])) (posting [leasePath])) = some (sending [inlineMP4]) := by
    decide +kernel
  have declared := always _ _ _ _ (genuine_serving _ rfl (by decide)) rfl (of_forwardedTo sent) _
    (List.mem_singleton_self _) (imagePart inlineMP4) (List.mem_singleton_self _) (.inl rfl)
  obtain ⟨url, carried, leads, carries⟩ := declared
  have same : url = dataURI "video/mp4" (PaddedBase64.encode shortMP4) := by
    rw [← Option.some_inj, ← leads]
    decide +kernel
  rw [same] at carries
  have found : detectMIME (shortMP4.take 64) = "video/mp4" := by decide
  exact absurd ((carries_lease_iff found).mp ⟨carried, carries⟩) (by decide)

/-- The lease of a picture in the part of an image. -/
theorem forwarded_kinds_iff_picture :
    (∀ message ∈ (sending [inlinePNG]).messages, ∀ part ∈ message.content.partsList, OfDeclaredKind part) ↔
      ∀ message ∈ (asking [leasePath]).messages, ∀ part ∈ message.content.partsList,
        LeaseSuits (leasesOf (serving pngLease (asking [leasePath]))) (asking [leasePath]).mediaLeaseRefs
          part := by
  have sent : forwardedTo (handle (ConfigProvider.publish withMedia).effective
      (serving pngLease (asking [leasePath])) (posting [leasePath])) = some (sending [inlinePNG]) := by
    decide +kernel
  exact forwarded_kinds_iff (genuine_serving _ rfl (by decide)) rfl (of_forwardedTo sent)

end AnselmGateway.ForwardedKinds
