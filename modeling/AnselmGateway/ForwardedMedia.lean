import AnselmGateway.ChatHandle
import AnselmGateway.Foundation.Fallible
import AnselmGateway.HotConfiguration
import Mathlib.Algebra.BigOperators.Group.List.Basic

/-! The media of a forwarded request. The inline parts are metered when the request is
classified, the leases when they are opened, and neither meter knows of the other. -/
namespace AnselmGateway.ForwardedMedia
open Foundation ChatContent ChatHandle RuntimeConfig

/-! ## What an address carries -/

def comma : UInt8 := 0x2C

/-- What stands behind the last comma. -/
def payload (url : Bytes) : Bytes := (url.reverse.takeWhile (· ≠ comma)).reverse

/-- How many bytes an address carries. -/
def carriedBytes (url : Bytes) : ℕ := ((PaddedBase64.decode (payload url)).map List.length).getD 0

/-- The types an image or a video may have, each with its magic. -/
def imageKinds : List (String × (Bytes → Bool)) :=
  [("image/jpeg", isJPEG), ("image/png", isPNG), ("image/webp", isWebP)]

def videoKinds : List (String × (Bytes → Bool)) := [("video/mp4", isMP4)]

def kindsOf (type : String) : List (String × (Bytes → Bool)) :=
  if type = partTypeImageURL then imageKinds else if type = partTypeVideoURL then videoKinds else []

/-- A base64 data URI of one of these types, whose bytes pass the magic of the type. -/
def Carries (kinds : List (String × (Bytes → Bool))) (url data : Bytes) : Prop :=
  ∃ mime magic text, (mime, magic) ∈ kinds ∧ url = dataURI mime text ∧
    PaddedBase64.decode text = some data ∧ magic data = true

theorem foreign_comma : PaddedBase64.Foreign comma where
  digit := by decide
  padding := by decide
  kept := by decide

theorem payload_append {front text : Bytes} (free : comma ∉ text) :
    payload (front ++ comma :: text) = text := by
  have all : ∀ char ∈ text.reverse, decide (char ≠ comma) = true := by
    intro char member
    rw [decide_eq_true_iff]
    rintro rfl
    exact free (List.mem_reverse.mp member)
  rw [payload, List.reverse_append, List.reverse_cons, List.append_assoc,
    List.takeWhile_append_of_pos all]
  simp [comma]

theorem dataURI_eq (mime : String) (text : Bytes) :
    dataURI mime text = utf8 "data:" ++ (utf8 mime ++ utf8 ";base64") ++ comma :: text := by
  have last : utf8 ";base64," = utf8 ";base64" ++ [comma] := by decide
  simp only [dataURI, last, List.append_assoc, List.singleton_append]

theorem payload_dataURI {mime : String} {text data : Bytes} (read : PaddedBase64.decode text = some data) :
    payload (dataURI mime text) = text := by
  rw [dataURI_eq, payload_append (PaddedBase64.foreign_decode foreign_comma read)]

theorem carriedBytes_dataURI {mime : String} {text data : Bytes}
    (read : PaddedBase64.decode text = some data) : carriedBytes (dataURI mime text) = data.length := by
  rw [carriedBytes, payload_dataURI read, read]
  rfl

/-- A data URI is no reference. -/
theorem parse_dataURI (mime : String) (encoded : Bytes) : parseMediaLeaseRef (dataURI mime encoded) = none := by
  refine if_pos ?_
  rintro ⟨rest, whole⟩
  have heads := congrArg (List.take 1) whole
  rw [dataURI_eq, List.append_assoc, List.take_append_of_le_length (by decide),
    List.take_append_of_le_length (by decide)] at heads
  exact absurd heads (by decide)

/-! ## What the classification admits -/

theorem decodeBase64_ok {encoded decoded : Bytes} {maxDecoded : ℤ}
    (ran : decodeBase64 encoded maxDecoded = .ok decoded) :
    PaddedBase64.decode encoded = some decoded ∧ (decoded.length : ℤ) ≤ maxDecoded := by
  unfold decodeBase64 at ran
  split at ran
  · cases ran
  · split at ran
    · cases ran
    · rename_i decodedLen _
      split at ran
      · cases ran
      · rename_i fits
        split at ran
        · cases ran
        · rename_i read
          split at ran
          · cases ran
          · rename_i whole
            cases ran
            exact ⟨read, by omega⟩

theorem imageMagic_some {meta' : Bytes} {magic : Bytes → Bool} (found : imageMagic meta' = some magic) :
    ∃ mime, (mime, magic) ∈ imageKinds ∧ meta' = utf8 mime ++ utf8 ";base64" := by
  unfold imageMagic at found
  split at found
  · cases found
    exact ⟨"image/jpeg", by simp [imageKinds], by rename_i same; rw [same]; decide⟩
  · split at found
    · cases found
      exact ⟨"image/png", by simp [imageKinds], by rename_i same; rw [same]; decide⟩
    · split at found
      · cases found
        exact ⟨"image/webp", by simp [imageKinds], by rename_i same; rw [same]; decide⟩
      · cases found

/-- An accepted address is a reference, or carries what it says, so many bytes. -/
def Admitted (kinds : List (String × (Bytes → Bool))) (url : Bytes) (n : ℕ) : Prop :=
  (parseMediaLeaseRef url).isSome = true ∧ n = 0 ∨
    parseMediaLeaseRef url = none ∧ ∃ data, Carries kinds url data ∧ n = data.length

theorem cut_comma {s : Bytes} (mem : comma ∈ s) : s = (cut comma s).1 ++ comma :: (cut comma s).2 := by
  induction s with
  | nil => cases mem
  | cons c rest ih =>
    by_cases here : c = comma
    · simp [cut, here]
    · have later : comma ∈ rest := by
        rcases List.mem_cons.mp mem with now | later
        · exact absurd now.symm here
        · exact later
      have tail := ih later
      unfold cut at tail ⊢
      rw [List.takeWhile_cons_of_pos (by simpa using here), List.dropWhile_cons_of_pos (by simpa using here),
        List.cons_append, ← tail]

theorem validateImage_ok {image : Option ImageURL} {maxDecoded : ℤ} {n : ℕ}
    (ran : validateImage image maxDecoded = .ok n) (room : 0 ≤ maxDecoded) :
    ∃ found, image = some found ∧ Admitted imageKinds found.url n ∧ (n : ℤ) ≤ maxDecoded := by
  unfold validateImage at ran
  split at ran
  · cases ran
  · rename_i image
    refine ⟨image, rfl, ?_⟩
    split at ran
    · rename_i ref
      cases ran
      exact ⟨.inl ⟨ref, rfl⟩, room⟩
    · rename_i noRef
      split at ran
      · cases ran
      · rename_i isData
        dsimp only at ran
        split at ran
        · cases ran
        · rename_i hasComma
          split at ran
          · cases ran
          · rename_i magic found
            split at ran
            · cases ran
            · rename_i decoded decodes
              split at ran
              · rename_i genuine
                cases ran
                obtain ⟨read, fits⟩ := decodeBase64_ok decodes
                obtain ⟨mime, kind, same⟩ := imageMagic_some found
                obtain ⟨rest, whole⟩ := not_not.mp isData
                refine ⟨.inr ⟨Option.not_isSome_iff_eq_none.mp noRef, decoded, ⟨mime, magic, _, kind, ?_, read,
                  genuine⟩, rfl⟩, fits⟩
                have after : image.url.drop 5 = rest := by
                  rw [← whole, List.drop_left' (by decide)]
                have parts := cut_comma (not_not.mp hasComma)
                rw [dataURI_eq, ← same, List.append_assoc, ← whole, ← after]
                exact congrArg (utf8 "data:" ++ ·) parts
              · cases ran

theorem validateVideo_ok {video : Option VideoURL} {maxDecoded : ℤ} {n : ℕ}
    (ran : validateVideo video maxDecoded = .ok n) (room : 0 ≤ maxDecoded) :
    ∃ found, video = some found ∧ Admitted videoKinds found.url n ∧ (n : ℤ) ≤ maxDecoded := by
  unfold validateVideo at ran
  split at ran
  · cases ran
  · rename_i video
    refine ⟨video, rfl, ?_⟩
    split at ran
    · rename_i ref
      cases ran
      exact ⟨.inl ⟨ref, rfl⟩, room⟩
    · rename_i noRef
      split at ran
      · cases ran
      · rename_i isData
        split at ran
        · cases ran
        · rename_i decoded decodes
          split at ran
          · rename_i genuine
            cases ran
            obtain ⟨read, fits⟩ := decodeBase64_ok decodes
            obtain ⟨rest, whole⟩ := not_not.mp isData
            have after : video.url.drop videoPrefix.length = rest := by
              rw [← whole, List.drop_left]
            rw [after] at read
            refine ⟨.inr ⟨Option.not_isSome_iff_eq_none.mp noRef, decoded, ⟨"video/mp4", isMP4, rest,
              List.mem_singleton_self _, ?_, read, genuine⟩, rfl⟩, fits⟩
            rw [← whole]
            have front : videoPrefix = utf8 "data:" ++ utf8 "video/mp4" ++ utf8 ";base64," := by decide
            rw [dataURI, front]
          · cases ran

theorem validateAudio_ok {audio : Option InputAudio} {maxDecoded : ℤ} {n : ℕ}
    (ran : validateAudio audio maxDecoded = .ok n) : (n : ℤ) ≤ maxDecoded := by
  unfold validateAudio at ran
  split at ran
  · cases ran
  · split at ran
    · cases ran
    · split at ran
      · cases ran
      · rename_i decodes
        split at ran
        · cases ran
          exact (decodeBase64_ok decodes).2
        · cases ran

/-! ## The first meter -/

/-- What the classification lets through as it is. -/
def Visual (part : ContentPart) (n : ℕ) : Prop :=
  ∃ url, part.mediaURL = some url ∧ Admitted (kindsOf part.type) url n

/-- How many bytes a part carries. -/
def partBytes (part : ContentPart) : ℕ := (part.mediaURL.map carriedBytes).getD 0

/-- How many of them are inline. -/
def inlineBytes (part : ContentPart) : ℕ := if part.leaseRef.isSome then 0 else partBytes part

/-- A total over all parts of a request. -/
def overParts (count : ContentPart → ℕ) (messages : List Message) : ℕ :=
  (messages.map fun message => (message.content.partsList.map count).sum).sum

theorem Visual.inline {part : ContentPart} {n : ℕ} (visual : Visual part n) : inlineBytes part = n := by
  obtain ⟨url, address, admitted⟩ := visual
  unfold inlineBytes ContentPart.leaseRef partBytes
  rw [address]
  rcases admitted with ⟨ref, rfl⟩ | ⟨noRef, data, ⟨mime, magic, text, _, rfl, read, _⟩, rfl⟩
  · rw [Option.bind_some, if_pos ref]
  · rw [Option.bind_some, noRef]
    simp [carriedBytes_dataURI read]

theorem mediaURL_text {part : ContentPart} (text : part.type = partTypeText) : part.mediaURL = none := by
  rw [ContentPart.mediaURL, text, if_neg (by decide), if_neg (by decide)]

theorem partBytes_text {part : ContentPart} (text : part.type = partTypeText) : partBytes part = 0 := by
  simp [partBytes, mediaURL_text text]

theorem inlineBytes_text {part : ContentPart} (text : part.type = partTypeText) : inlineBytes part = 0 := by
  simp [inlineBytes, partBytes_text text]

section Meter
variable {limits : MediaLimits} {role : String} {seen after : Seen}

/-- The bytes seen so far are within the limit; unless audio was among them, they are the
inline ones of visual parts. -/
structure Metered (limits : MediaLimits) (seen : Seen) (count : ℕ) : Prop where
  within : seen.decodedBytes ≤ max 0 limits.maxDecodedBytes
  exact_ : seen.modality ≠ .audio → seen.decodedBytes = count

theorem meterPart_ok {validate : ℤ → Except String ℕ} {modality : Modality}
    (ran : meterPart limits role validate modality seen = .ok after) :
    ∃ n, validate (max 0 (limits.maxDecodedBytes - seen.decodedBytes)) = .ok n ∧ after.modality = modality ∧
      after.decodedBytes = seen.decodedBytes + n := by
  unfold meterPart at ran
  split at ran
  · cases ran
  · split at ran
    · cases ran
    · dsimp only at ran
      rw [show (if limits.maxDecodedBytes - seen.decodedBytes < 0 then 0
        else limits.maxDecodedBytes - seen.decodedBytes) = max 0 (limits.maxDecodedBytes - seen.decodedBytes) by
          split <;> omega] at ran
      split at ran
      · cases ran
      · rename_i n validated
        cases ran
        exact ⟨n, validated, rfl, rfl⟩

/-- A visual part adds what it carries inline. -/
theorem metered_visual {part : ContentPart} {count n : ℕ} (metered : Metered limits seen count)
    (visual : Visual part n) (fits : (n : ℤ) ≤ max 0 (limits.maxDecodedBytes - seen.decodedBytes))
    (marked : after.modality = seen.withVisual) (total : after.decodedBytes = seen.decodedBytes + n) :
    Metered limits after (count + inlineBytes part) ∧
      (after.modality ≠ .audio → seen.modality ≠ .audio ∧ (part.type = partTypeText ∨ ∃ n, Visual part n)) := by
  have kept (silent : after.modality ≠ .audio) : seen.modality ≠ .audio := by
    intro audio
    rw [marked, Seen.withVisual, if_pos audio] at silent
    exact silent rfl
  have room := metered.within
  refine ⟨⟨by omega, fun silent => ?_⟩, fun silent => ⟨kept silent, .inr ⟨n, visual⟩⟩⟩
  rw [total, metered.exact_ (kept silent), visual.inline]
  push_cast
  rfl

/-- A part that passes is text, or visual and metered; audio marks the request. -/
theorem classifyPart_ok {part : ContentPart} {count : ℕ}
    (ran : classifyPart limits role seen part = .ok after) (metered : Metered limits seen count) :
    Metered limits after (count + inlineBytes part) ∧
      (after.modality ≠ .audio → seen.modality ≠ .audio ∧
        (part.type = partTypeText ∨ ∃ n, Visual part n)) := by
  have room := metered.within
  unfold classifyPart at ran
  split at ran
  · rename_i text
    cases ran
    rw [inlineBytes_text text, Nat.add_zero]
    exact ⟨metered, fun silent => ⟨silent, .inl text⟩⟩
  · split at ran
    · rename_i image
      obtain ⟨n, validated, marked, total⟩ := meterPart_ok ran
      obtain ⟨found, here, admitted, fits⟩ := validateImage_ok validated (le_max_left _ _)
      refine metered_visual metered ⟨found.url, ?_, ?_⟩ fits marked total
      · rw [ContentPart.mediaURL, if_pos image, here]
        rfl
      · rwa [kindsOf, if_pos image]
    · rename_i notImage
      split at ran
      · rename_i video
        obtain ⟨n, validated, marked, total⟩ := meterPart_ok ran
        obtain ⟨found, here, admitted, fits⟩ := validateVideo_ok validated (le_max_left _ _)
        refine metered_visual metered ⟨found.url, ?_, ?_⟩ fits marked total
        · rw [ContentPart.mediaURL, if_neg notImage, if_pos video, here]
          rfl
        · rwa [kindsOf, if_neg notImage, if_pos video]
      · split at ran
        · obtain ⟨n, validated, marked, total⟩ := meterPart_ok ran
          have fits := validateAudio_ok validated
          exact ⟨⟨by omega, fun silent => absurd marked silent⟩, fun silent => absurd marked silent⟩
        · cases ran

/-- What is known of the parts once a request without audio has passed. -/
def Passed (messages : List Message) : Prop :=
  ∀ message ∈ messages, ∀ part ∈ message.content.partsList,
    part.type = partTypeText ∨ ∃ n, Visual part n

theorem classifyParts_ok {parts : List ContentPart} {count : ℕ}
    (ran : parts.foldlM (classifyPart limits role) seen = .ok after) (metered : Metered limits seen count) :
    Metered limits after (count + (parts.map inlineBytes).sum) ∧
      (after.modality ≠ .audio → seen.modality ≠ .audio ∧
        ∀ part ∈ parts, part.type = partTypeText ∨ ∃ n, Visual part n) := by
  induction parts generalizing seen count with
  | nil =>
    cases ran
    exact ⟨metered, fun silent => ⟨silent, nofun⟩⟩
  | cons part rest ih =>
    rw [List.foldlM_cons] at ran
    cases first : classifyPart limits role seen part with
    | error failure =>
      rw [first] at ran
      cases ran
    | ok middle =>
      rw [first] at ran
      obtain ⟨metered', marks⟩ := classifyPart_ok first metered
      obtain ⟨metered'', marks'⟩ := ih ran metered'
      rw [List.map_cons, List.sum_cons, ← Nat.add_assoc]
      refine ⟨metered'', fun silent => ?_⟩
      obtain ⟨silent', others⟩ := marks' silent
      obtain ⟨silent'', here⟩ := marks silent'
      exact ⟨silent'', List.forall_mem_cons.mpr ⟨here, others⟩⟩

theorem classifyMessage_ok {message : Message} {count : ℕ}
    (ran : classifyMessage limits seen message = .ok after) (metered : Metered limits seen count) :
    Metered limits after (count + (message.content.partsList.map inlineBytes).sum) ∧
      (after.modality ≠ .audio → seen.modality ≠ .audio ∧
        ∀ part ∈ message.content.partsList, part.type = partTypeText ∨ ∃ n, Visual part n) := by
  have silentCase (none_ : message.content.partsList = []) (same : after = seen) :
      Metered limits after (count + (message.content.partsList.map inlineBytes).sum) ∧
        (after.modality ≠ .audio → seen.modality ≠ .audio ∧
          ∀ part ∈ message.content.partsList, part.type = partTypeText ∨ ∃ n, Visual part n) := by
    rw [none_, same]
    exact ⟨metered, fun silent => ⟨silent, nofun⟩⟩
  unfold classifyMessage at ran
  split at ran
  · cases ran
  · split at ran
    · cases ran
    · split at ran
      · rename_i content
        split at ran
        · cases ran
        · cases ran
          exact silentCase (by rw [content]; rfl) rfl
      · rename_i content
        split at ran
        · cases ran
        · cases ran
          exact silentCase (by rw [content]; rfl) rfl
      · rename_i content
        cases ran
        exact silentCase (by rw [content]; rfl) rfl
      · rename_i content
        rw [content]
        exact classifyParts_ok ran metered

theorem classifyMessages_ok {messages : List Message} {count : ℕ}
    (ran : messages.foldlM (classifyMessage limits) seen = .ok after) (metered : Metered limits seen count) :
    Metered limits after (count + overParts inlineBytes messages) ∧
      (after.modality ≠ .audio → seen.modality ≠ .audio ∧ Passed messages) := by
  induction messages generalizing seen count with
  | nil =>
    cases ran
    exact ⟨metered, fun silent => ⟨silent, nofun⟩⟩
  | cons message rest ih =>
    rw [List.foldlM_cons] at ran
    cases first : classifyMessage limits seen message with
    | error failure =>
      rw [first] at ran
      cases ran
    | ok middle =>
      rw [first] at ran
      obtain ⟨metered', marks⟩ := classifyMessage_ok first metered
      obtain ⟨metered'', passed⟩ := ih ran metered'
      rw [overParts, List.map_cons, List.sum_cons, ← Nat.add_assoc]
      refine ⟨metered'', fun silent => ?_⟩
      obtain ⟨silent', others⟩ := passed silent
      obtain ⟨silent'', here⟩ := marks silent'
      exact ⟨silent'', List.forall_mem_cons.mpr ⟨here, others⟩⟩

/-- A request that passes without audio has visual parts only, inline ones within the
limit. -/
theorem validateAndClassify_ok {req : InboundRequest} {modality : Modality}
    (ran : req.validateAndClassify limits = .ok modality) (silent : modality ≠ .audio) :
    Passed req.messages ∧ (overParts inlineBytes req.messages : ℤ) ≤ max 0 limits.maxDecodedBytes := by
  unfold InboundRequest.validateAndClassify at ran
  split at ran
  · cases ran
  · rename_i seen classified
    cases ran
    obtain ⟨metered, passed⟩ := classifyMessages_ok classified
      (show Metered limits ⟨.text, 0, 0⟩ 0 from ⟨le_max_left _ _, fun _ => rfl⟩)
    have total := metered.exact_ silent
    have within := metered.within
    exact ⟨(passed silent).2, by omega⟩

end Meter

/-! ## The second meter -/

/-- What the last of the calls for a reference opened, the first call having this
number. -/
def lastOpened (leases : MediaLeases) (raw : Bytes) : ℕ → List MediaLeaseRef → Option LeaseContent
  | _, [] => none
  | i, ref :: refs => (lastOpened leases raw (i + 1) refs).or (if ref.raw = raw then leases i ref else none)

theorem readLease_some {src : LeaseContent} {data : Bytes} (read : readLease src = some data) :
    src.body = some data ∧ data.length = src.sizeBytes := by
  unfold readLease at read
  split at read
  · cases read
  · rename_i body held
    dsimp only at read
    split at read
    · rename_i whole
      cases read
      rw [List.length_take] at whole
      rw [List.take_of_length_le (by omega)]
      exact ⟨held, by omega⟩
    · cases read

/-- A lease that was opened and read whole, as it is put into the request. -/
def Inlined (leases : MediaLeases) (refs : List MediaLeaseRef) (i : ℕ) (inline : Inline) (raw : Bytes) : Prop :=
  ∃ src data, lastOpened leases raw i refs = some src ∧ src.body = some data ∧
    data.length = src.sizeBytes ∧ inline.get? raw = some ⟨src.mimeType, PaddedBase64.encode data⟩

/-- Once all are read, each reference has what its last call opened. -/
theorem inlineEach_ok {cfg : Config} {leases : MediaLeases} {i total : ℕ} {refs : List MediaLeaseRef}
    {inline inline' : Inline} (ran : inlineEach cfg leases i refs total inline = .ok inline') (raw : Bytes) :
    (raw ∈ refs.map MediaLeaseRef.raw → Inlined leases refs i inline' raw) ∧
      (raw ∉ refs.map MediaLeaseRef.raw →
        lastOpened leases raw i refs = none ∧ inline'.get? raw = inline.get? raw) := by
  induction refs generalizing i total inline with
  | nil =>
    cases ran
    exact ⟨nofun, fun _ => ⟨rfl, rfl⟩⟩
  | cons ref refs ih =>
    rw [inlineEach] at ran
    split at ran
    · cases ran
    · rename_i src opened
      dsimp only at ran
      split at ran
      · cases ran
      · split at ran
        · cases ran
        · rename_i data read
          obtain ⟨later, apart⟩ := ih ran
          rw [List.map_cons, List.mem_cons]
          constructor
          · intro member
            by_cases again : raw ∈ refs.map MediaLeaseRef.raw
            · obtain ⟨src', data', last, rest⟩ := later again
              refine ⟨src', data', ?_, rest⟩
              rw [lastOpened, last]
              rfl
            · have here : ref.raw = raw := by
                rcases member with here | again'
                · exact here.symm
                · exact absurd again' again
              obtain ⟨unopened, kept⟩ := apart again
              obtain ⟨body, whole⟩ := readLease_some read
              refine ⟨src, data, ?_, body, whole, ?_⟩
              · rw [lastOpened, unopened, if_pos here, opened]
                rfl
              · rw [kept, Inline.get?, List.find?_cons_of_pos (by simpa using here)]
                rfl
          · intro other
            obtain ⟨different, again⟩ := not_or.mp other
            obtain ⟨unopened, kept⟩ := apart again
            constructor
            · rw [lastOpened, unopened, if_neg (Ne.symm different)]
              rfl
            · rw [kept, Inline.get?, List.find?_cons_of_neg (by simpa using Ne.symm different)]
              rfl

/-! ## What is forwarded -/

theorem parse_raw {url : Bytes} {ref : MediaLeaseRef} (parsed : parseMediaLeaseRef url = some ref) :
    ref.raw = url := by
  unfold parseMediaLeaseRef at parsed
  split at parsed
  · cases parsed
  · split at parsed
    · cases parsed
    · split at parsed
      · cases parsed
      · dsimp only at parsed
        split at parsed
        · cases parsed
        · split at parsed
          · cases parsed
          · cases parsed
            rfl

/-- Every reference of a request is the address of a part. -/
theorem mem_mediaLeaseRefs {req : InboundRequest} {ref : MediaLeaseRef} : ref ∈ req.mediaLeaseRefs ↔
    ∃ message ∈ req.messages, ∃ part ∈ message.content.partsList, part.leaseRef = some ref := by
  simp only [InboundRequest.mediaLeaseRefs, List.mem_flatMap, List.mem_filterMap]

theorem parse_of_mem {req : InboundRequest} {ref : MediaLeaseRef} (mem : ref ∈ req.mediaLeaseRefs) :
    parseMediaLeaseRef ref.raw = some ref := by
  obtain ⟨_, _, part, _, is⟩ := mem_mediaLeaseRefs.mp mem
  obtain ⟨url, _, parsed⟩ := Option.bind_eq_some_iff.mp is
  rwa [parse_raw parsed]

@[simp] theorem type_withInlined (inline : Inline) (part : ContentPart) :
    (part.withInlined inline).type = part.type := by
  unfold ContentPart.withInlined
  split
  · rfl
  · split <;> rfl

theorem mediaURL_withInlined (inline : Inline) (part : ContentPart) :
    (part.withInlined inline).mediaURL = part.mediaURL.map (inlinedURL inline) := by
  unfold ContentPart.mediaURL
  rw [type_withInlined]
  unfold ContentPart.withInlined
  split
  · simp [Function.comp_def]
  · split
    · simp [Function.comp_def]
    · rfl

theorem partsList_withInlined (inline : Inline) (content : Content) :
    (content.withInlined inline).partsList = content.partsList.map (ContentPart.withInlined inline) := by
  cases content <;> rfl

/-- The references replaced are those of the request, each by what was opened last. -/
def Filled (leases : MediaLeases) (refs : List MediaLeaseRef) (inline : Inline) : Prop :=
  ∀ raw, (raw ∈ refs.map MediaLeaseRef.raw → Inlined leases refs 0 inline raw) ∧
    (raw ∉ refs.map MediaLeaseRef.raw → inline.get? raw = none)

/-- What a part turns into: a reference into the lease last opened under it, anything
else stays. -/
theorem mediaURL_filled {leases : MediaLeases} {req : InboundRequest} {inline : Inline} {message : Message}
    {part : ContentPart} {url : Bytes} (filled : Filled leases req.mediaLeaseRefs inline)
    (listed : message ∈ req.messages) (mem : part ∈ message.content.partsList)
    (address : part.mediaURL = some url) :
    (parseMediaLeaseRef url = none ∧ (part.withInlined inline).mediaURL = some url) ∨
      ∃ ref src data, part.leaseRef = some ref ∧ parseMediaLeaseRef url = some ref ∧
        lastOpened leases ref.raw 0 req.mediaLeaseRefs = some src ∧ src.body = some data ∧
        data.length = src.sizeBytes ∧
        (part.withInlined inline).mediaURL = some (dataURI src.mimeType (PaddedBase64.encode data)) := by
  have becomes := mediaURL_withInlined inline part
  rw [address, Option.map_some] at becomes
  cases parsed : parseMediaLeaseRef url with
  | none =>
    refine .inl ⟨rfl, ?_⟩
    have apart : url ∉ req.mediaLeaseRefs.map MediaLeaseRef.raw := by
      intro here
      obtain ⟨ref, mem, same⟩ := List.mem_map.mp here
      have parses := parse_of_mem mem
      rw [same, parsed] at parses
      cases parses
    rw [becomes, inlinedURL, (filled url).2 apart]
  | some ref =>
    have is : part.leaseRef = some ref := by rw [ContentPart.leaseRef, address, Option.bind_some, parsed]
    have named : ref ∈ req.mediaLeaseRefs := mem_mediaLeaseRefs.mpr ⟨message, listed, part, mem, is⟩
    obtain ⟨src, data, last, body, whole, replaced⟩ :=
      (filled ref.raw).1 (List.mem_map.mpr ⟨ref, named, rfl⟩)
    refine .inr ⟨ref, src, data, is, rfl, last, body, whole, ?_⟩
    rw [becomes, inlinedURL, ← parse_raw parsed, replaced]

/-! ## Totals -/

/-- How many bytes of leases a part brings. -/
def leaseBytes (leases : MediaLeases) (refs : List MediaLeaseRef) (part : ContentPart) : ℕ :=
  ((part.leaseRef.bind fun ref => lastOpened leases ref.raw 0 refs).map LeaseContent.sizeBytes).getD 0

theorem partBytes_filled {leases : MediaLeases} {req : InboundRequest} {inline : Inline} {message : Message}
    {part : ContentPart} (filled : Filled leases req.mediaLeaseRefs inline) (listed : message ∈ req.messages)
    (mem : part ∈ message.content.partsList) : partBytes (part.withInlined inline) =
      inlineBytes part + leaseBytes leases req.mediaLeaseRefs part := by
  cases address : part.mediaURL with
  | none =>
    have becomes := mediaURL_withInlined inline part
    rw [address, Option.map_none] at becomes
    simp [partBytes, inlineBytes, leaseBytes, ContentPart.leaseRef, address, becomes]
  | some url =>
    rcases mediaURL_filled filled listed mem address with ⟨noRef, same⟩ | ⟨ref, src, data, is, _, last, _, whole, becomes⟩
    · simp [partBytes, inlineBytes, leaseBytes, ContentPart.leaseRef, address, same, noRef]
    · rw [partBytes, becomes, inlineBytes, leaseBytes, is, Option.bind_some, last]
      simp [carriedBytes_dataURI (PaddedBase64.decode_encode data), whole]

/-- Collapsing parts that are all text loses no media. -/
theorem sum_canonical (message : Message) :
    ((canonicalMessage message).content.partsList.map partBytes).sum =
      (message.content.partsList.map partBytes).sum := by
  unfold canonicalMessage
  split
  · rename_i parts content
    split
    · rename_i text
      have silent : ∀ n ∈ parts.map partBytes, n = 0 := by
        intro n member
        obtain ⟨part, mem, rfl⟩ := List.mem_map.mp member
        exact partBytes_text (by simpa using List.all_eq_true.mp text part mem)
      rw [content]
      exact (List.sum_eq_zero silent).symm
    · rfl
  · rfl

/-- All the decoded media of a request. -/
def mediaBytes (messages : List Message) : ℕ := overParts partBytes messages

theorem mediaBytes_forwarded {leases : MediaLeases} {req : InboundRequest} {inline : Inline}
    (filled : Filled leases req.mediaLeaseRefs inline) :
    mediaBytes ((req.withInlinedMediaLeases inline).messages.map canonicalMessage) =
      overParts inlineBytes req.messages + overParts (leaseBytes leases req.mediaLeaseRefs) req.messages := by
  have each : ∀ message ∈ req.messages, ((message.content.withInlined inline).partsList.map partBytes).sum =
      (message.content.partsList.map inlineBytes).sum +
        (message.content.partsList.map (leaseBytes leases req.mediaLeaseRefs)).sum := by
    intro message listed
    rw [partsList_withInlined, List.map_map, ← List.sum_map_add]
    exact congrArg List.sum (List.map_congr_left fun part mem => partBytes_filled filled listed mem)
  simp only [mediaBytes, overParts, InboundRequest.withInlinedMediaLeases, List.map_map, Function.comp_def,
    sum_canonical]
  rw [List.map_congr_left each, List.sum_map_add]

/-! ## From the gates to the request that leaves -/

theorem refuseIf_ok {refused : Bool} {ae : APIError} {result : Unit}
    (ran : refuseIf refused ae = .ok result) : refused = false := by
  cases refused with
  | false => rfl
  | true => cases ran

theorem readBody_ok {cfg : Config} {d : Deps} {input : HandleInput} {req : InboundRequest}
    (ran : readBody cfg d input = .ok req) : d.decodeInbound input.body = .ok req := by
  obtain ⟨_, _, ran⟩ := Fallible.bind_ok.mp ran
  obtain ⟨_, _, ran⟩ := Fallible.bind_ok.mp ran
  obtain ⟨decoded, here, ran⟩ := Fallible.bind_ok.mp ran
  obtain ⟨_, _, ran⟩ := Fallible.bind_ok.mp ran
  split at ran
  · cases ran
  · cases ran
    exact here

theorem classify_ok {cfg : Config} {req : InboundRequest} (ran : classify cfg req = .ok ()) :
    ∃ modality, req.validateAndClassify ⟨cfg.maxMediaParts, cfg.maxMediaDecodedBytes⟩ = .ok modality ∧
      modality ≠ .audio := by
  obtain ⟨modality, passed, ran⟩ := Fallible.bind_ok.mp ran
  exact ⟨modality, passed, of_decide_eq_false (refuseIf_ok ran)⟩

/-- Where the leases are not wired, none is found. -/
def leasesOf (d : Deps) : MediaLeases := d.leases.getD fun _ _ => none

theorem inlinedURL_nil (url : Bytes) : inlinedURL [] url = url := rfl

theorem part_withInlined_nil (part : ContentPart) : part.withInlined [] = part := by
  unfold ContentPart.withInlined
  split
  · cases part
    simp [inlinedURL_nil]
  · split
    · cases part
      simp [inlinedURL_nil]
    · rfl

theorem withInlinedMediaLeases_nil (req : InboundRequest) : req.withInlinedMediaLeases [] = req := by
  have same (content : Content) : content.withInlined [] = content := by
    cases content with
    | parts list => simp only [Content.withInlined, funext part_withInlined_nil, List.map_id']
    | _ => rfl
  simp [InboundRequest.withInlinedMediaLeases, same]

theorem inlineLeases_ok {cfg : Config} {d : Deps} {req req' : InboundRequest}
    (ran : inlineLeases cfg d req = .ok req') :
    ∃ inline, Filled (leasesOf d) req.mediaLeaseRefs inline ∧ req' = req.withInlinedMediaLeases inline := by
  unfold inlineLeases at ran
  split at ran
  · rename_i refs
    cases ran
    refine ⟨[], ?_, (withInlinedMediaLeases_nil req).symm⟩
    rw [refs]
    exact fun raw => ⟨nofun, fun _ => rfl⟩
  · split at ran
    · cases ran
    · rename_i leases wired
      cases filled : inlineEach cfg leases 0 req.mediaLeaseRefs 0 [] with
      | error failure =>
        rw [filled] at ran
        cases ran
      | ok inline =>
        rw [filled] at ran
        cases ran
        refine ⟨inline, fun raw => ?_, rfl⟩
        rw [leasesOf, wired, Option.getD_some]
        obtain ⟨named, apart⟩ := inlineEach_ok filled raw
        exact ⟨named, fun other => (apart other).2⟩

/-- What a request went through that was forwarded. -/
theorem handle_forwarded {cfg : Config} {d : Deps} {input : HandleInput} {req : InboundRequest}
    {out : CompletionRequest} (decoded : d.decodeInbound input.body = .ok req)
    (ran : handle cfg d input = .forwarded out) :
    classify cfg req = .ok () ∧ ∃ inline, Filled (leasesOf d) req.mediaLeaseRefs inline ∧
      out.messages = (req.withInlinedMediaLeases inline).messages.map canonicalMessage := by
  unfold handle at ran
  split at ran
  · cases ran
  · rename_i prepared ready
    have same : prepared = out := by
      split at ran
      · cases ran
      · split at ran
        · split at ran <;> cases ran
        · cases ran
          rfl
    subst same
    obtain ⟨_, _, ready⟩ := Fallible.bind_ok.mp ready
    obtain ⟨read, body, ready⟩ := Fallible.bind_ok.mp ready
    obtain ⟨_, classified, ready⟩ := Fallible.bind_ok.mp ready
    obtain ⟨replaced, inlined, ready⟩ := Fallible.bind_ok.mp ready
    obtain ⟨_, _, ready⟩ := Fallible.bind_ok.mp ready
    obtain ⟨_, _, ready⟩ := Fallible.bind_ok.mp ready
    obtain ⟨_, _, ready⟩ := Fallible.bind_ok.mp ready
    cases ready
    have one := readBody_ok body
    rw [decoded] at one
    cases one
    obtain ⟨inline, filled, rfl⟩ := inlineLeases_ok inlined
    exact ⟨classified, inline, filled, rfl⟩

/-! ## The budget -/

/-- The inline parts and the leases of a request are within the limit together. -/
def Fits (limit : ℤ) (d : Deps) (req : InboundRequest) : Prop :=
  req.mediaLeaseRefs = [] ∧ 0 ≤ limit ∨
    (overParts inlineBytes req.messages : ℤ) +
      overParts (leaseBytes (leasesOf d) req.mediaLeaseRefs) req.messages ≤ limit

instance {limit : ℤ} {d : Deps} {req : InboundRequest} : Decidable (Fits limit d req) :=
  inferInstanceAs (Decidable (_ ∨ _))

theorem overParts_none {count : ContentPart → ℕ} {messages : List Message}
    (none_ : ∀ part, count part = 0) : overParts count messages = 0 := by
  simp [overParts, funext none_]

theorem leaseBytes_nil (leases : MediaLeases) (part : ContentPart) : leaseBytes leases [] part = 0 := by
  cases is : part.leaseRef <;> simp [leaseBytes, is, lastOpened]

/-- A forwarded request is within the budget exactly when its inline parts and its leases
are within it together. -/
theorem media_within_budget_iff {cfg : Config} {d : Deps} {input : HandleInput} {req : InboundRequest}
    {out : CompletionRequest} (decoded : d.decodeInbound input.body = .ok req)
    (ran : handle cfg d input = .forwarded out) :
    (mediaBytes out.messages : ℤ) ≤ cfg.maxMediaDecodedBytes ↔ Fits cfg.maxMediaDecodedBytes d req := by
  obtain ⟨classified, inline, filled, same⟩ := handle_forwarded decoded ran
  rw [same, mediaBytes_forwarded filled, Nat.cast_add]
  constructor
  · exact .inr
  · rintro (⟨none_, room⟩ | within)
    · obtain ⟨modality, passed, silent⟩ := classify_ok classified
      have inlined := (validateAndClassify_ok passed silent).2
      rw [max_eq_right room] at inlined
      rw [none_, overParts_none (leaseBytes_nil _)]
      exact_mod_cast inlined
    · exact within

/-- A configuration with media. -/
def withMedia : Config :=
  { HotConfiguration.chatOnly with
    mediaEnabled := true
    mediaStagingRoot := "/var/lib/gateway/media"
    mediaSigningSecret := List.replicate 32 7
    mediaUploadMaxBytes := 1048576
    mediaChunkMaxBytes := 65536
    mediaUploadTTL := 3600
    mediaLeaseTTL := 3600 }

/-- Room for ten bytes in a request. -/
def tenBytes : Config := { withMedia with maxMediaDecodedBytes := 10 }

/-- The shortest text a detector takes for a PNG. -/
def shortPNG : Bytes := [0x89, 0x50, 0x4E, 0x47, 0x0D, 0x0A, 0x1A, 0x0A]

def leasePath : String := "/v1/media/leases/mls_1/content?token=t"

def inlinePNG : String := "data:image/png;base64,iVBORw0KGgo="

def imagePart (url : String) : ContentPart where
  type := partTypeImageURL
  imageURL := some ⟨utf8 url, ""⟩

/-- One user turn with these images. -/
def asking (images : List String) : InboundRequest where
  messages := [⟨"user", .parts (images.map imagePart), "", [], "", []⟩]

/-- The turn as it is forwarded. -/
def sending (images : List String) : CompletionRequest where
  messages := (asking images).messages
  stream := false
  maxTokens := some 8192
  tools := []
  toolChoice := []
  includeUsage := false

/-- Every gate is open, the body reads as this request, and every reference leads to this
lease. -/
def serving (src : LeaseContent) (req : InboundRequest) : Deps where
  decodeInbound := fun _ => .ok req
  lookupInstall := fun _ => .ok (some .active)
  allow := true
  degraded := false
  leases := some fun _ _ => some src
  available := true
  reserve := fun _ => .ok ()
  breakerOpen := false
  slot := true
  canceled := false

/-- A post of one user turn with these images, as JSON. -/
def posting (images : List String) : HandleInput where
  installID := "inst_1"
  body := utf8 ("\x7b\"messages\":[\x7b\"role\":\"user\",\"content\":[" ++
    ",".intercalate (images.map fun url =>
      "\x7b\"type\":\"image_url\",\"image_url\":\x7b\"url\":\"" ++ url ++ "\"\x7d\x7d") ++ "]\x7d]\x7d")
  bodyError := false
  bodyTooLarge := false

def pngLease : LeaseContent := ⟨"image/png", 8, some shortPNG⟩

def forwardedTo : Handled → Option CompletionRequest
  | .forwarded out => some out
  | _ => none

theorem of_forwardedTo {handled : Handled} {out : CompletionRequest} (is : forwardedTo handled = some out) :
    handled = .forwarded out := by
  cases handled with
  | forwarded sent =>
    cases is
    rfl
  | _ => cases is

/-- Eight bytes inline and eight of a lease pass where there is room for ten. -/
theorem media_over_budget : tenBytes.validateSemantics = .ok () ∧
    ¬∀ d input out, handle (ConfigProvider.publish tenBytes).effective d input = .forwarded out →
      (mediaBytes out.messages : ℤ) ≤ (ConfigProvider.publish tenBytes).effective.maxMediaDecodedBytes := by
  refine ⟨by decide +kernel, fun always => ?_⟩
  have sent : forwardedTo (handle (ConfigProvider.publish tenBytes).effective
      (serving pngLease (asking [inlinePNG, leasePath])) (posting [inlinePNG, leasePath])) =
      some (sending [inlinePNG, inlinePNG]) := by decide +kernel
  have within := always _ _ _ (of_forwardedTo sent)
  revert within
  decide +kernel

/-- One of the two alone is within it. -/
theorem media_within_budget_iff_lease :
    mediaBytes (sending [inlinePNG]).messages = 8 ∧
      ((mediaBytes (sending [inlinePNG]).messages : ℤ) ≤
          (ConfigProvider.publish tenBytes).effective.maxMediaDecodedBytes ↔
        Fits (ConfigProvider.publish tenBytes).effective.maxMediaDecodedBytes
          (serving pngLease (asking [leasePath])) (asking [leasePath])) := by
  have sent : forwardedTo (handle (ConfigProvider.publish tenBytes).effective
      (serving pngLease (asking [leasePath])) (posting [leasePath])) =
      some (sending [inlinePNG]) := by decide +kernel
  exact ⟨by decide +kernel, media_within_budget_iff rfl (of_forwardedTo sent)⟩

end AnselmGateway.ForwardedMedia
