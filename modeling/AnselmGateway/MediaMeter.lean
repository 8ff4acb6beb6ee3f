import AnselmGateway.ForwardedMedia
import AnselmGateway.Foundation.Meter
import Mathlib.Algebra.Group.Nat.Defs
import Mathlib.Algebra.Group.Prod

/-! The check of a request's media as a meter: every part is sound by itself, the parts and
their decoded bytes add up, and neither sum depends on the order. -/
namespace AnselmGateway.MediaMeter
open Foundation ChatContent ForwardedMedia

/-! ## Strict payloads -/

/-- Digits with up to two paddings behind them. -/
theorem strictBase64DecodedLen_padded {digits : Bytes} {padding : ℕ} (free : PaddedBase64.pad ∉ digits)
    (few : padding ≤ 2) (some_ : digits ≠ []) (whole : (digits.length + padding) % 4 = 0) :
    strictBase64DecodedLen (digits ++ List.replicate padding PaddedBase64.pad) =
      some ((digits.length + padding) / 4 * 3 - padding) := by
  have last : digits.getLast? ≠ some PaddedBase64.pad := fun is => free (List.mem_of_getLast? is)
  have positive := List.length_pos_iff.mpr some_
  have counted : (if (digits ++ List.replicate padding PaddedBase64.pad).getLast? = some PaddedBase64.pad then
      if (digits ++ List.replicate padding PaddedBase64.pad).dropLast.getLast? = some PaddedBase64.pad then 2 else 1
      else 0) = padding := by
    match padding, few with
    | 0, _ => simp [last]
    | 1, _ => simp [last, List.replicate]
    | 2, _ => simp [List.replicate]
  simp only [strictBase64DecodedLen, counted, List.length_append, List.length_replicate, Nat.add_sub_cancel]
  rw [if_neg (by omega), List.take_left, if_neg (by simpa using free)]

/-- The length of what the encoder wrote is known before it is read. -/
theorem strictBase64DecodedLen_encode {data : Bytes} (some_ : data ≠ []) :
    strictBase64DecodedLen (PaddedBase64.encode data) = some data.length := by
  have positive := List.length_pos_iff.mpr some_
  obtain ⟨digits, written, free⟩ := PaddedBase64.encode_padded data
  have total : digits.length + (3 - data.length % 3) % 3 = (data.length + 2) / 3 * 4 := by
    rw [← PaddedBase64.length_encode data, written, List.length_append, List.length_replicate]
  have digit : digits ≠ [] := by
    rintro rfl
    rw [List.length_nil] at total
    omega
  rw [written, strictBase64DecodedLen_padded free (by omega) digit (by omega), total]
  congr 1
  omega

theorem strictBase64DecodedLen_some {encoded : Bytes} {n : ℕ} (known : strictBase64DecodedLen encoded = some n) :
    encoded.length % 4 = 0 ∧ encoded.length / 4 * 3 ≤ n + 2 := by
  unfold strictBase64DecodedLen at known
  dsimp only at known
  have few : (if encoded.getLast? = some PaddedBase64.pad then
      if encoded.dropLast.getLast? = some PaddedBase64.pad then 2 else 1 else 0) ≤ 2 := by
    split
    · split <;> omega
    · omega
  revert known few
  generalize (if encoded.getLast? = some PaddedBase64.pad then
      if encoded.dropLast.getLast? = some PaddedBase64.pad then 2 else 1 else 0) = padding
  intro known few
  split at known
  · cases known
  · rename_i whole
    split at known
    · cases known
    · cases known
      omega

/-- A text of the length its bytes ask for has no line break. -/
theorem unbroken {encoded data : Bytes} (read : PaddedBase64.decode encoded = some data)
    (known : strictBase64DecodedLen encoded = some data.length) : encoded = PaddedBase64.encode data := by
  have written := PaddedBase64.decode_iff.mp read
  have shorter := List.length_filter_le (fun char : UInt8 => char ≠ 10 && char ≠ 13) encoded
  obtain ⟨whole, padded⟩ := strictBase64DecodedLen_some known
  have same : encoded.filter (fun char => char ≠ 10 && char ≠ 13) = encoded := by
    refine List.filter_eq_self.mpr (List.length_filter_eq_length_iff.mp ?_)
    rw [written, PaddedBase64.length_encode] at shorter ⊢
    omega
  rw [← same, written]

/-- What `decodeBase64` reads is exactly what the encoder wrote of some bytes within the
limit. -/
theorem decodeBase64_iff {encoded data : Bytes} {maxDecoded : ℤ} :
    decodeBase64 encoded maxDecoded = .ok data ↔
      data ≠ [] ∧ encoded = PaddedBase64.encode data ∧ (data.length : ℤ) ≤ maxDecoded := by
  constructor
  · intro ran
    unfold decodeBase64 at ran
    split at ran
    · cases ran
    · rename_i present
      split at ran
      · cases ran
      · rename_i decodedLen known
        split at ran
        · cases ran
        · rename_i fits
          split at ran
          · cases ran
          · rename_i read
            split at ran
            · cases ran
            · rename_i whole
              cases ran
              have exact_ := not_not.mp whole
              have same := unbroken read (exact_ ▸ known)
              refine ⟨?_, same, by omega⟩
              rintro rfl
              exact present same
  · rintro ⟨some_, rfl, fits⟩
    have positive := List.length_pos_iff.mpr some_
    have known := strictBase64DecodedLen_encode some_
    have present : PaddedBase64.encode data ≠ [] := by
      intro none_
      rw [none_] at known
      cases known
    rw [decodeBase64, if_neg present, known]
    dsimp only
    rw [if_neg (by omega), PaddedBase64.decode_encode]
    simp

/-! ## Payloads -/

/-- The formats of a recording, each with its magic. -/
def audioKinds : List (String × (Bytes → Bool)) := [("wav", isWAV), ("mp3", isMP3)]

/-- The text of an image that goes to `decodeBase64`, with the magic its bytes must have. -/
def imagePayload (image : ImageURL) : Option ((Bytes → Bool) × Bytes) :=
  if ¬utf8 "data:" <+: image.url ∨ comma ∉ image.url.drop 5 then none
  else (imageMagic (cut comma (image.url.drop 5)).1).map fun magic => (magic, (cut comma (image.url.drop 5)).2)

def videoPayload (video : VideoURL) : Option ((Bytes → Bool) × Bytes) :=
  if videoPrefix <+: video.url then some (isMP4, video.url.drop videoPrefix.length) else none

def audioPayload (audio : InputAudio) : Option ((Bytes → Bool) × Bytes) :=
  (audioMagic audio.format).map fun magic => (magic, audio.data)

/-- Reading such a text. -/
def open_ (maxDecoded : ℤ) : (Bytes → Bool) × Bytes → Option ℕ
  | (magic, encoded) => (decodeBase64 encoded maxDecoded).toOption.bind fun data =>
    if magic data then some data.length else none

theorem validateImage_eq (image : ImageURL) (maxDecoded : ℤ) :
    (validateImage (some image) maxDecoded).toOption =
      if (parseMediaLeaseRef image.url).isSome then some 0 else (imagePayload image).bind (open_ maxDecoded) := by
  unfold validateImage imagePayload
  dsimp only
  split
  · rfl
  · by_cases data : utf8 "data:" <+: image.url
    · by_cases parted : comma ∈ image.url.drop 5
      · have parted' : 0x2C ∈ image.url.drop 5 := parted
        simp only [data, parted, parted', not_true_eq_false, or_self, if_false]
        change _ = (Option.map _ (imageMagic (cut 0x2C (image.url.drop 5)).1)).bind _
        cases imageMagic (cut 0x2C (image.url.drop 5)).1 with
        | none => rfl
        | some magic =>
          simp only [Option.map_some, Option.bind_some, open_]
          change _ = (decodeBase64 (cut 0x2C (image.url.drop 5)).2 maxDecoded).toOption.bind _
          cases decodeBase64 (cut 0x2C (image.url.drop 5)).2 maxDecoded with
          | error failure => rfl
          | ok decoded =>
            cases genuine : magic decoded <;> simp [Except.toOption, genuine]
      · have parted' : ¬0x2C ∈ image.url.drop 5 := parted
        simp only [data, parted, parted', not_true_eq_false, not_false_eq_true, or_true, if_true, if_false]
        rfl
    · simp only [data, not_false_eq_true, true_or, if_true]
      rfl

theorem validateVideo_eq (video : VideoURL) (maxDecoded : ℤ) :
    (validateVideo (some video) maxDecoded).toOption =
      if (parseMediaLeaseRef video.url).isSome then some 0 else (videoPayload video).bind (open_ maxDecoded) := by
  unfold validateVideo videoPayload
  dsimp only
  split
  · rfl
  · by_cases inline : videoPrefix <+: video.url
    · simp only [inline, not_true_eq_false, if_false, if_true, Option.bind_some, open_]
      cases decodeBase64 (video.url.drop videoPrefix.length) maxDecoded with
      | error failure => rfl
      | ok decoded =>
        cases genuine : isMP4 decoded <;> simp [Except.toOption, genuine]
    · simp only [inline, not_false_eq_true, if_true, if_false]
      rfl

theorem validateAudio_eq (audio : InputAudio) (maxDecoded : ℤ) :
    (validateAudio (some audio) maxDecoded).toOption = (audioPayload audio).bind (open_ maxDecoded) := by
  unfold validateAudio audioPayload
  dsimp only
  cases audioMagic audio.format with
  | none => rfl
  | some magic =>
    simp only [Option.map_some, Option.bind_some, open_]
    cases decodeBase64 audio.data maxDecoded with
    | error failure => rfl
    | ok decoded =>
      cases genuine : magic decoded <;> simp [Except.toOption, genuine]

/-- Magic is somewhere. -/
theorem open_iff {magic : Bytes → Bool} {encoded : Bytes} {maxDecoded : ℤ} {n : ℕ} (blank_ : magic [] = false) :
    open_ maxDecoded (magic, encoded) = some n ↔ ∃ data, encoded = PaddedBase64.encode data ∧ magic data = true ∧
      n = data.length ∧ (n : ℤ) ≤ maxDecoded := by
  simp only [open_, Option.bind_eq_some_iff, ← Fallible.ok_iff_toOption, decodeBase64_iff]
  constructor
  · rintro ⟨data, ⟨_, written, fits⟩, found⟩
    split at found
    · rename_i genuine
      cases found
      exact ⟨data, written, genuine, rfl, fits⟩
    · cases found
  · rintro ⟨data, written, genuine, rfl, fits⟩
    refine ⟨data, ⟨?_, written, fits⟩, by rw [if_pos genuine]⟩
    rintro rfl
    rw [blank_] at genuine
    cases genuine

/-- Each type is known by what stands before its comma. -/
theorem imageMagic_kinds {mime : String} {magic : Bytes → Bool} (kind : (mime, magic) ∈ imageKinds) :
    imageMagic (utf8 mime ++ utf8 ";base64") = some magic ∧ comma ∉ utf8 mime ++ utf8 ";base64" := by
  simp only [imageKinds, List.mem_cons, List.not_mem_nil, or_false, Prod.mk.injEq] at kind
  rcases kind with ⟨rfl, rfl⟩ | ⟨rfl, rfl⟩ | ⟨rfl, rfl⟩
  · exact ⟨if_pos (by decide), by decide⟩
  · exact ⟨(if_neg (by decide)).trans (if_pos (by decide)), by decide⟩
  · exact ⟨(if_neg (by decide)).trans ((if_neg (by decide)).trans (if_pos (by decide))), by decide⟩

theorem imagePayload_iff {image : ImageURL} {magic : Bytes → Bool} {encoded : Bytes} :
    imagePayload image = some (magic, encoded) ↔
      ∃ mime, (mime, magic) ∈ imageKinds ∧ image.url = dataURI mime encoded := by
  unfold imagePayload
  constructor
  · intro is
    split at is
    · cases is
    · rename_i shape
      obtain ⟨data, parted⟩ := not_or.mp shape
      obtain ⟨rest, whole⟩ := not_not.mp data
      obtain ⟨magic', found, same⟩ := Option.map_eq_some_iff.mp is
      cases same
      obtain ⟨mime, kind, front⟩ := imageMagic_some found
      refine ⟨mime, kind, ?_⟩
      have after : image.url.drop 5 = rest := by rw [← whole, List.drop_left' (by decide)]
      have parts := cut_comma (not_not.mp parted)
      rw [dataURI_eq, ← front, List.append_assoc, ← whole, ← after]
      exact congrArg (utf8 "data:" ++ ·) parts
  · rintro ⟨mime, kind, url⟩
    obtain ⟨found, free⟩ := imageMagic_kinds kind
    have behind : image.url.drop 5 = (utf8 mime ++ utf8 ";base64") ++ comma :: encoded := by
      rw [url, dataURI_eq, List.append_assoc, List.drop_left' (by decide)]
    have shape : ¬(¬utf8 "data:" <+: image.url ∨ comma ∉ image.url.drop 5) := by
      rw [behind, url, dataURI_eq, List.append_assoc]
      simp
    rw [if_neg shape, behind, cut_append free, found]
    rfl

theorem videoPayload_iff {video : VideoURL} {magic : Bytes → Bool} {encoded : Bytes} :
    videoPayload video = some (magic, encoded) ↔
      ∃ mime, (mime, magic) ∈ videoKinds ∧ video.url = dataURI mime encoded := by
  have front : videoPrefix = utf8 "data:" ++ utf8 "video/mp4" ++ utf8 ";base64," := by decide
  unfold videoPayload
  constructor
  · intro is
    split at is
    · rename_i inline
      obtain ⟨rest, whole⟩ := inline
      cases is
      refine ⟨"video/mp4", List.mem_singleton_self _, ?_⟩
      rw [← whole, List.drop_left, dataURI, front]
    · cases is
  · rintro ⟨mime, kind, url⟩
    cases List.mem_singleton.mp kind
    have whole : video.url = videoPrefix ++ encoded := by rw [url, dataURI, front]
    rw [whole, if_pos (List.prefix_append _ _), List.drop_left]

theorem audioPayload_iff {audio : InputAudio} {magic : Bytes → Bool} {encoded : Bytes} :
    audioPayload audio = some (magic, encoded) ↔ (audio.format, magic) ∈ audioKinds ∧ encoded = audio.data := by
  unfold audioPayload audioMagic audioKinds
  by_cases wav : audio.format = "wav"
  · simp [wav, eq_comm]
  · by_cases mp3 : audio.format = "mp3"
    · simp [mp3, eq_comm]
    · simp [wav, mp3]

/-! ## Sound parts -/

/-- An address of `n` inline bytes: a reference, for none, or a data URI in strict base64
with the magic of its type. -/
def Addressed (kinds : List (String × (Bytes → Bool))) (url : Bytes) (n : ℕ) : Prop :=
  (parseMediaLeaseRef url).isSome = true ∧ n = 0 ∨ ∃ mime magic data, (mime, magic) ∈ kinds ∧
    url = dataURI mime (PaddedBase64.encode data) ∧ magic data = true ∧ n = data.length

/-- A media part of `n` inline bytes. -/
inductive Media (part : ContentPart) (n : ℕ) : Prop where
  | image {image : ImageURL} (type : part.type = partTypeImageURL) (payload : part.imageURL = some image)
      (address : Addressed imageKinds image.url n)
  | video {video : VideoURL} (type : part.type = partTypeVideoURL) (payload : part.videoURL = some video)
      (address : Addressed videoKinds video.url n)
  | audio {audio : InputAudio} {magic : Bytes → Bool} {data : Bytes} (type : part.type = partTypeInputAudio)
      (payload : part.inputAudio = some audio) (kind : (audio.format, magic) ∈ audioKinds)
      (written : audio.data = PaddedBase64.encode data) (genuine : magic data = true) (length : n = data.length)

theorem blank_kinds {mime : String} {magic : Bytes → Bool}
    (kind : (mime, magic) ∈ imageKinds ++ videoKinds ++ audioKinds) : magic [] = false := by
  simp only [imageKinds, videoKinds, audioKinds, List.cons_append, List.nil_append, List.mem_cons,
    List.not_mem_nil, or_false, Prod.mk.injEq] at kind
  rcases kind with ⟨_, rfl⟩ | ⟨_, rfl⟩ | ⟨_, rfl⟩ | ⟨_, rfl⟩ | ⟨_, rfl⟩ | ⟨_, rfl⟩ <;> decide

/-- An address passes within what is left exactly when it is one. -/
theorem addressed_iff {kinds : List (String × (Bytes → Bool))} {url : Bytes} {n : ℕ} {maxDecoded : ℤ}
    {payload : Option ((Bytes → Bool) × Bytes)} (room : 0 ≤ maxDecoded)
    (known : ∀ entry ∈ kinds, entry.2 [] = false)
    (inline : ∀ magic encoded, payload = some (magic, encoded) ↔
      ∃ mime, (mime, magic) ∈ kinds ∧ url = dataURI mime encoded) :
    (if (parseMediaLeaseRef url).isSome then some 0 else payload.bind (open_ maxDecoded)) = some n ↔
      Addressed kinds url n ∧ (n : ℤ) ≤ maxDecoded := by
  split
  · rename_i ref
    constructor
    · intro same
      cases same
      exact ⟨.inl ⟨ref, rfl⟩, room⟩
    · rintro ⟨⟨_, rfl⟩ | ⟨mime, magic, data, _, url, _⟩, _⟩
      · rfl
      · rw [url, parse_dataURI] at ref
        cases ref
  · rename_i noRef
    rw [Option.bind_eq_some_iff]
    constructor
    · rintro ⟨⟨magic, encoded⟩, is, ran⟩
      obtain ⟨mime, kind, url⟩ := (inline magic encoded).mp is
      obtain ⟨data, written, genuine, length, fits⟩ := (open_iff (known _ kind)).mp ran
      exact ⟨.inr ⟨mime, magic, data, kind, by rw [url, written], genuine, length⟩, fits⟩
    · rintro ⟨⟨ref, _⟩ | ⟨mime, magic, data, kind, url, genuine, length⟩, fits⟩
      · exact absurd ref noRef
      · exact ⟨(magic, PaddedBase64.encode data), (inline magic _).mpr ⟨mime, kind, url⟩,
          (open_iff (known _ kind)).mpr ⟨data, rfl, genuine, length, fits⟩⟩

theorem validateImage_iff {image : Option ImageURL} {maxDecoded : ℤ} {n : ℕ} (room : 0 ≤ maxDecoded) :
    validateImage image maxDecoded = .ok n ↔
      ∃ found, image = some found ∧ Addressed imageKinds found.url n ∧ (n : ℤ) ≤ maxDecoded := by
  cases image with
  | none => simp [validateImage]
  | some image =>
    rw [Fallible.ok_iff_toOption, validateImage_eq, addressed_iff room ?_ fun magic encoded => imagePayload_iff]
    · simp
    · exact fun entry kind => blank_kinds (List.mem_append_left _ (List.mem_append_left _ kind))

theorem validateVideo_iff {video : Option VideoURL} {maxDecoded : ℤ} {n : ℕ} (room : 0 ≤ maxDecoded) :
    validateVideo video maxDecoded = .ok n ↔
      ∃ found, video = some found ∧ Addressed videoKinds found.url n ∧ (n : ℤ) ≤ maxDecoded := by
  cases video with
  | none => simp [validateVideo]
  | some video =>
    rw [Fallible.ok_iff_toOption, validateVideo_eq, addressed_iff room ?_ fun magic encoded => videoPayload_iff]
    · simp
    · exact fun entry kind => blank_kinds (List.mem_append_left _ (List.mem_append_right _ kind))

theorem validateAudio_iff {audio : Option InputAudio} {maxDecoded : ℤ} {n : ℕ} :
    validateAudio audio maxDecoded = .ok n ↔ ∃ found magic data, audio = some found ∧
      (found.format, magic) ∈ audioKinds ∧ found.data = PaddedBase64.encode data ∧ magic data = true ∧
      n = data.length ∧ (n : ℤ) ≤ maxDecoded := by
  cases audio with
  | none => simp [validateAudio]
  | some audio =>
    rw [Fallible.ok_iff_toOption, validateAudio_eq, Option.bind_eq_some_iff]
    constructor
    · rintro ⟨⟨magic, encoded⟩, is, ran⟩
      obtain ⟨kind, rfl⟩ := audioPayload_iff.mp is
      obtain ⟨data, written, genuine, length, fits⟩ :=
        (open_iff (blank_kinds (List.mem_append_right _ kind))).mp ran
      exact ⟨audio, magic, data, rfl, kind, written, genuine, length, fits⟩
    · rintro ⟨found, magic, data, same, kind, written, genuine, length, fits⟩
      cases same
      exact ⟨(magic, audio.data), audioPayload_iff.mpr ⟨kind, rfl⟩,
        (open_iff (blank_kinds (List.mem_append_right _ kind))).mpr ⟨data, written, genuine, length, fits⟩⟩

/-- The true length of what a part carries inline. -/
def inlineLength (part : ContentPart) : ℕ :=
  if part.type = partTypeInputAudio then
    ((part.inputAudio.bind fun audio => PaddedBase64.decode audio.data).map List.length).getD 0
  else inlineBytes part

theorem Addressed.carried {part : ContentPart} {kinds : List (String × (Bytes → Bool))} {url : Bytes} {n : ℕ}
    (addressed : Addressed kinds url n) (address : part.mediaURL = some url) : inlineBytes part = n := by
  unfold inlineBytes ContentPart.leaseRef partBytes
  rw [address, Option.bind_some]
  rcases addressed with ⟨ref, rfl⟩ | ⟨mime, magic, data, _, rfl, _, rfl⟩
  · rw [if_pos ref]
  · rw [parse_dataURI]
    simp [carriedBytes_dataURI (PaddedBase64.decode_encode data)]

theorem Media.length {part : ContentPart} {n : ℕ} (media : Media part n) : inlineLength part = n := by
  unfold inlineLength
  cases media with
  | image type payload address =>
    rw [type, if_neg (by decide)]
    refine address.carried ?_
    rw [ContentPart.mediaURL, if_pos type, payload]
    rfl
  | video type payload address =>
    rw [type, if_neg (by decide)]
    refine address.carried ?_
    rw [ContentPart.mediaURL, type, if_neg (by decide), if_pos rfl, payload]
    rfl
  | audio type payload kind written genuine length =>
    rw [if_pos type, payload, Option.bind_some, written, PaddedBase64.decode_encode, length]
    rfl

/-! ## The load of a request -/

/-- How many visual parts, how many recordings, and how many inline bytes. -/
abbrev Load := ℕ × ℕ × ℕ

/-- The state of the check under a load: a recording, once seen, decides. -/
def seenOf : Load → Seen
  | (visual, audio, bytes) =>
    ⟨if 0 < audio then .audio else if 0 < visual then .multimodal else .text, (visual + audio : ℕ), bytes⟩

/-- A limit below zero leaves room for nothing. -/
def Within (limits : MediaLimits) : Load → Prop
  | (visual, audio, bytes) =>
    ((visual + audio : ℕ) : ℤ) ≤ max 0 limits.maxParts ∧ (bytes : ℤ) ≤ max 0 limits.maxDecodedBytes

def visualCount (part : ContentPart) : ℕ :=
  if part.type = partTypeImageURL ∨ part.type = partTypeVideoURL then 1 else 0

def audioCount (part : ContentPart) : ℕ := if part.type = partTypeInputAudio then 1 else 0

def partLoad (part : ContentPart) : Load := (visualCount part, audioCount part, inlineLength part)

/-- A part that may stand in a message of this role. -/
def SoundPart (role : String) (part : ContentPart) : Prop :=
  part.type = partTypeText ∨ role = "user" ∧ ∃ n, Media part n

theorem inlineLength_text {part : ContentPart} (text : part.type = partTypeText) : inlineLength part = 0 := by
  rw [inlineLength, text, if_neg (by decide), inlineBytes_text text]

section Step
variable {limits : MediaLimits} {role : String} {after : Seen}

/-- A media part goes through exactly when a user sent it, there is one more part to have,
and what is left is enough for it. -/
theorem meterPart_iff {load : Load} {validate : ℤ → Except String ℕ} {modality : Modality}
    (room : Within limits load) :
    meterPart limits role validate modality (seenOf load) = .ok after ↔ role = "user" ∧
      ((load.1 + load.2.1 + 1 : ℕ) : ℤ) ≤ max 0 limits.maxParts ∧
      ∃ n, validate (max 0 (limits.maxDecodedBytes - load.2.2)) = .ok n ∧
        after = ⟨modality, (load.1 + load.2.1 + 1 : ℕ), (load.2.2 + n : ℕ)⟩ := by
  obtain ⟨visual, audio, bytes⟩ := load
  unfold meterPart seenOf
  dsimp only
  rw [show (if limits.maxDecodedBytes - bytes < 0 then 0 else limits.maxDecodedBytes - bytes) =
    max 0 (limits.maxDecodedBytes - bytes) by split <;> omega]
  by_cases user : role = "user"
  · by_cases fits : ((visual + audio + 1 : ℕ) : ℤ) ≤ max 0 limits.maxParts
    · rw [if_neg (not_not.mpr user), if_neg (by push_cast at fits ⊢; omega)]
      cases validate (max 0 (limits.maxDecodedBytes - bytes)) with
      | error failure => simp
      | ok n =>
        rw [and_iff_right user, and_iff_right fits]
        simp [eq_comm]
    · rw [if_neg (not_not.mpr user), if_pos (by push_cast at fits ⊢; omega)]
      constructor
      · intro ran
        cases ran
      · rintro ⟨_, more, _⟩
        exact absurd more fits
  · rw [if_pos user]
    simp [user]

/-- The step lemma of a media part, once its check is known. -/
theorem meterPart_load {load : Load} {part : ContentPart} {validate : ℤ → Except String ℕ}
    {modality : Modality} {fine : ℕ → Prop} (room : Within limits load)
    (checks : ∀ {maxDecoded n}, 0 ≤ maxDecoded → (validate maxDecoded = .ok n ↔ fine n ∧ (n : ℤ) ≤ maxDecoded))
    (media : ∀ n, fine n ↔ Media part n)
    (one : visualCount part + audioCount part = 1)
    (marks : modality = (seenOf (load + partLoad part)).modality) :
    meterPart limits role validate modality (seenOf load) = .ok after ↔
      (role = "user" ∧ ∃ n, Media part n) ∧ Within limits (load + partLoad part) ∧
        after = seenOf (load + partLoad part) := by
  have within := room.2
  rw [meterPart_iff room]
  obtain ⟨visual, audio, bytes⟩ := load
  have parts : visual + visualCount part + (audio + audioCount part) = visual + audio + 1 := by omega
  have total (n : ℕ) (is : Media part n) : seenOf ((visual, audio, bytes) + partLoad part) =
      ⟨modality, (visual + audio + 1 : ℕ), (bytes + n : ℕ)⟩ := by
    rw [marks, ← is.length, ← parts]
    rfl
  have fits (n : ℕ) (is : Media part n) : Within limits ((visual, audio, bytes) + partLoad part) ↔
      ((visual + audio + 1 : ℕ) : ℤ) ≤ max 0 limits.maxParts ∧ (n : ℤ) ≤ max 0 (limits.maxDecodedBytes - bytes) := by
    change ((visual + visualCount part + (audio + audioCount part) : ℕ) : ℤ) ≤ _ ∧
      ((bytes + inlineLength part : ℕ) : ℤ) ≤ _ ↔ _
    rw [parts, is.length]
    dsimp only at within
    push_cast
    omega
  constructor
  · rintro ⟨user, more, n, validated, same⟩
    obtain ⟨is, enough⟩ := (checks (le_max_left _ _)).mp validated
    have here := (media n).mp is
    exact ⟨⟨user, n, here⟩, (fits n here).mpr ⟨more, enough⟩, by rw [same, total n here]⟩
  · rintro ⟨⟨user, n, here⟩, whole, same⟩
    obtain ⟨more, enough⟩ := (fits n here).mp whole
    exact ⟨user, more, n, (checks (le_max_left _ _)).mpr ⟨(media n).mpr here, enough⟩, by rw [same, total n here]⟩
end Step

section Run
variable {limits : MediaLimits}

/-- What the loop over the parts does at one of them. -/
def classifyRolePart (limits : MediaLimits) (seen : Seen) (part : String × ContentPart) : Except String Seen :=
  classifyPart limits part.1 seen part.2

theorem partLoad_text {part : ContentPart} (text : part.type = partTypeText) : partLoad part = 0 := by
  simp only [partLoad, visualCount, audioCount, inlineLength_text text]
  simp only [text]
  rfl

theorem media_image {part : ContentPart} {n : ℕ} (type : part.type = partTypeImageURL) :
    (∃ found, part.imageURL = some found ∧ Addressed imageKinds found.url n) ↔ Media part n := by
  constructor
  · rintro ⟨found, payload, address⟩
    exact .image type payload address
  · intro media
    cases media with
    | image _ payload address => exact ⟨_, payload, address⟩
    | video type' => exact absurd (type.symm.trans type') (by decide)
    | audio type' => exact absurd (type.symm.trans type') (by decide)

theorem media_video {part : ContentPart} {n : ℕ} (type : part.type = partTypeVideoURL) :
    (∃ found, part.videoURL = some found ∧ Addressed videoKinds found.url n) ↔ Media part n := by
  constructor
  · rintro ⟨found, payload, address⟩
    exact .video type payload address
  · intro media
    cases media with
    | image type' => exact absurd (type.symm.trans type') (by decide)
    | video _ payload address => exact ⟨_, payload, address⟩
    | audio type' => exact absurd (type.symm.trans type') (by decide)

theorem media_audio {part : ContentPart} {n : ℕ} (type : part.type = partTypeInputAudio) :
    (∃ found magic data, part.inputAudio = some found ∧ (found.format, magic) ∈ audioKinds ∧
      found.data = PaddedBase64.encode data ∧ magic data = true ∧ n = data.length) ↔ Media part n := by
  constructor
  · rintro ⟨found, magic, data, payload, kind, written, genuine, length⟩
    exact .audio type payload kind written genuine length
  · intro media
    cases media with
    | image type' => exact absurd (type.symm.trans type') (by decide)
    | video type' => exact absurd (type.symm.trans type') (by decide)
    | audio _ payload kind written genuine length => exact ⟨_, _, _, payload, kind, written, genuine, length⟩

theorem marks_visual {load : Load} {part : ContentPart} (visual : visualCount part = 1)
    (silent : audioCount part = 0) : (seenOf load).withVisual = (seenOf (load + partLoad part)).modality := by
  obtain ⟨visuals, audios, bytes⟩ := load
  change _ = if 0 < audios + audioCount part then Modality.audio
    else if 0 < visuals + visualCount part then .multimodal else .text
  rw [visual, silent, Nat.add_zero, if_pos (Nat.succ_pos visuals), Seen.withVisual, seenOf]
  by_cases heard : 0 < audios
  · simp [heard]
  · by_cases seen : 0 < visuals <;> simp [heard, seen]

theorem marks_audio {load : Load} {part : ContentPart} (audio : audioCount part = 1) :
    Modality.audio = (seenOf (load + partLoad part)).modality := by
  obtain ⟨visuals, audios, bytes⟩ := load
  change _ = if 0 < audios + audioCount part then Modality.audio
    else if 0 < visuals + visualCount part then .multimodal else .text
  rw [audio, if_pos (Nat.succ_pos audios)]

/-- Parts are metered one by one. -/
theorem parts_meter (limits : MediaLimits) : Meters seenOf (Within limits)
    (fun part : String × ContentPart => SoundPart part.1 part.2) (fun part => partLoad part.2)
    (classifyRolePart limits) where
  fits_left := by
    rintro ⟨visual, audio, bytes⟩ ⟨visual', audio', bytes'⟩ ⟨parts, length⟩
    refine ⟨le_trans ?_ parts, le_trans ?_ length⟩ <;> push_cast <;> omega
  step_iff := by
    rintro load ⟨role, part⟩ after room
    have sound : part.type ≠ partTypeText → (SoundPart role part ↔ role = "user" ∧ ∃ n, Media part n) :=
      fun other => or_iff_right other
    unfold classifyRolePart classifyPart
    dsimp only
    split
    · rename_i text
      rw [partLoad_text text, add_zero, Except.ok.injEq]
      constructor
      · rintro rfl
        exact ⟨.inl text, room, rfl⟩
      · rintro ⟨_, _, rfl⟩
        rfl
    · rename_i other
      rw [sound other]
      split
      · rename_i image
        have visual : visualCount part = 1 := if_pos (.inl image)
        have silent : audioCount part = 0 := if_neg (by rw [image]; decide)
        refine meterPart_load room ?_ (fun n => media_image image) (by rw [visual, silent])
          (marks_visual visual silent)
        intro maxDecoded n room
        rw [validateImage_iff room]
        simp only [exists_and_right, ← and_assoc]
      · rename_i notImage
        split
        · rename_i video
          have visual : visualCount part = 1 := if_pos (.inr video)
          have silent : audioCount part = 0 := if_neg (by rw [video]; decide)
          refine meterPart_load room ?_ (fun n => media_video video) (by rw [visual, silent])
            (marks_visual visual silent)
          intro maxDecoded n room
          rw [validateVideo_iff room]
          simp only [exists_and_right, ← and_assoc]
        · rename_i notVideo
          split
          · rename_i audio
            have blind : visualCount part = 0 := if_neg (not_or.mpr ⟨notImage, notVideo⟩)
            have heard : audioCount part = 1 := if_pos audio
            refine meterPart_load room ?_ (fun n => media_audio audio) (by rw [blind, heard]) (marks_audio heard)
            intro maxDecoded n _
            rw [validateAudio_iff]
            simp only [exists_and_right, ← and_assoc]
          · rename_i notAudio
            constructor
            · intro ran
              cases ran
            · rintro ⟨⟨_, n, media⟩, _⟩
              cases media with
              | image type => exact absurd type notImage
              | video type => exact absurd type notVideo
              | audio type => exact absurd type notAudio

/-- What a message is, its parts apart: a known role, the call a tool answers, and content,
unless an assistant calls tools. -/
structure Proper (message : Message) : Prop where
  role : message.role ∈ ["system", "user", "assistant", "tool"]
  answers : message.role = "tool" → blank message.toolCallID = false
  content : message.content = .missing ∨ message.content = .null →
    message.role = "assistant" ∧ hasToolCalls message.toolCalls = true

/-- A message that may stand in a request. -/
def Sound (message : Message) : Prop :=
  Proper message ∧ ∀ part ∈ message.content.partsList, SoundPart message.role part

def roleParts (message : Message) : List (String × ContentPart) :=
  message.content.partsList.map fun part => (message.role, part)

theorem classifyMessage_iff {seen after : Seen} {message : Message} :
    classifyMessage limits seen message = .ok after ↔ Proper message ∧
      (roleParts message).foldlM (classifyRolePart limits) seen = .ok after := by
  have silent {content : Content} (is : message.content = content) (none_ : content.partsList = []) :
      (roleParts message).foldlM (classifyRolePart limits) seen = .ok seen := by
    rw [roleParts, is, none_]
    rfl
  unfold classifyMessage
  split
  · rename_i unknown
    exact ⟨nofun, fun given => absurd given.1.role unknown⟩
  · rename_i known
    split
    · rename_i stray
      refine ⟨nofun, fun given => ?_⟩
      rw [given.1.answers stray.1] at stray
      cases stray.2
    · rename_i answered
      have answers (tool : message.role = "tool") : blank message.toolCallID = false :=
        eq_false_of_ne_true fun stray => answered ⟨tool, stray⟩
      have calls (empty : ¬(message.role ≠ "assistant" ∨ (!hasToolCalls message.toolCalls) = true)) :
          message.role = "assistant" ∧ hasToolCalls message.toolCalls = true := by
        obtain ⟨assistant, calls⟩ := not_or.mp empty
        exact ⟨not_not.mp assistant, by simpa using calls⟩
      have refused (none_ : message.content = .missing ∨ message.content = .null)
          (empty : message.role ≠ "assistant" ∨ (!hasToolCalls message.toolCalls) = true) :
          ¬Proper message := by
        intro proper
        obtain ⟨assistant, calls⟩ := proper.content none_
        rcases empty with other | uncalled
        · exact other assistant
        · rw [calls] at uncalled
          cases uncalled
      split
      · rename_i missing
        split
        · rename_i empty
          exact ⟨nofun, fun given => absurd given.1 (refused (.inl missing) empty)⟩
        · rename_i full
          rw [silent missing rfl]
          exact (and_iff_right ⟨not_not.mp known, answers, fun _ => calls full⟩).symm
      · rename_i null
        split
        · rename_i empty
          exact ⟨nofun, fun given => absurd given.1 (refused (.inr null) empty)⟩
        · rename_i full
          rw [silent null rfl]
          exact (and_iff_right ⟨not_not.mp known, answers, fun _ => calls full⟩).symm
      · rename_i text
        rw [silent text rfl]
        refine (and_iff_right ⟨not_not.mp known, answers, ?_⟩).symm
        rw [text]
        rintro (missing | null)
        · cases missing
        · cases null
      · rename_i parts content
        rw [roleParts, content, Content.partsList, List.foldlM_map]
        refine (and_iff_right ⟨not_not.mp known, answers, ?_⟩).symm
        rw [content]
        rintro (missing | null)
        · cases missing
        · cases null

theorem messages_meter (limits : MediaLimits) : Meters seenOf (Within limits)
    (fun message => Proper message ∧ ∀ part ∈ roleParts message, SoundPart part.1 part.2)
    (fun message => ((roleParts message).map fun part => partLoad part.2).sum) (classifyMessage limits) :=
  (parts_meter limits).nested fun _ _ _ => classifyMessage_iff

theorem sum_partLoad (parts : List ContentPart) : (parts.map partLoad).sum =
    ((parts.map visualCount).sum, (parts.map audioCount).sum, (parts.map inlineLength).sum) := by
  induction parts with
  | nil => rfl
  | cons part rest ih =>
    simp only [List.map_cons, List.sum_cons, ih]
    rfl

/-- The load of a whole request. -/
def load (messages : List Message) : Load :=
  (overParts visualCount messages, overParts audioCount messages, overParts inlineLength messages)

theorem sum_load (messages : List Message) :
    (messages.map fun message => ((roleParts message).map fun part => partLoad part.2).sum).sum = load messages := by
  induction messages with
  | nil => rfl
  | cons message rest ih =>
    rw [List.map_cons, List.sum_cons, ih, roleParts, List.map_map]
    change (message.content.partsList.map partLoad).sum + load rest = _
    rw [sum_partLoad]
    rfl

theorem sound_iff (message : Message) : (Proper message ∧ ∀ part ∈ roleParts message,
    SoundPart part.1 part.2) ↔ Sound message := by
  simp only [Sound, roleParts, List.forall_mem_map]

theorem within_zero : Within limits 0 := ⟨le_max_left _ _, le_max_left _ _⟩

/-- A run over some messages goes through exactly when they are sound and their load fits. -/
theorem classifyMessages_iff {messages : List Message} {after : Seen} :
    messages.foldlM (classifyMessage limits) ⟨.text, 0, 0⟩ = .ok after ↔
      (∀ message ∈ messages, Sound message) ∧ Within limits (load messages) ∧ after = seenOf (load messages) := by
  change messages.foldlM (classifyMessage limits) (seenOf 0) = .ok after ↔ _
  rw [(messages_meter limits).fold_iff within_zero, zero_add, sum_load]
  simp only [sound_iff]
end Run

/-! ## Any order -/

/-- The same turn with its parts in some order. -/
def Shuffled (message message' : Message) : Prop :=
  message' = message ∨ ∃ parts parts', message.content = .parts parts ∧ parts.Perm parts' ∧
    message' = { message with content := .parts parts' }

/-- The same turns in some order, the parts of each in some order. -/
def Reordered (messages messages' : List Message) : Prop :=
  ∃ shuffled, List.Forall₂ Shuffled messages shuffled ∧ shuffled.Perm messages'

theorem Shuffled.parts {message message' : Message} (shuffled : Shuffled message message') :
    message.content.partsList.Perm message'.content.partsList := by
  rcases shuffled with rfl | ⟨parts, parts', content, perm, rfl⟩
  · exact .refl _
  · rw [content]
    exact perm

theorem Shuffled.sound {message message' : Message} (shuffled : Shuffled message message') :
    Sound message ↔ Sound message' := by
  have parts := shuffled.parts
  rcases shuffled with rfl | ⟨list, list', content, perm, rfl⟩
  · rfl
  · have proper : Proper message ↔ Proper { message with content := .parts list' } := by
      constructor
      · exact fun given => ⟨given.role, given.answers, by simp⟩
      · exact fun given => ⟨given.role, given.answers, by simp [content]⟩
    exact and_congr proper (by simp only [parts.mem_iff])

theorem Reordered.total {messages messages' : List Message} (reordered : Reordered messages messages')
    (count : ContentPart → ℕ) : overParts count messages = overParts count messages' := by
  obtain ⟨shuffled, turns, perm⟩ := reordered
  have each : overParts count messages = overParts count shuffled := by
    clear perm
    induction turns with
    | nil => rfl
    | cons turn _ ih =>
      simp only [overParts, List.map_cons, List.sum_cons] at ih ⊢
      rw [ih, (turn.parts.map count).sum_eq]
  rw [each, overParts, overParts, (perm.map _).sum_eq]

theorem Reordered.sound {messages messages' : List Message} (reordered : Reordered messages messages') :
    (∀ message ∈ messages, Sound message) ↔ ∀ message ∈ messages', Sound message := by
  obtain ⟨shuffled, turns, perm⟩ := reordered
  simp only [← perm.mem_iff]
  clear perm
  induction turns with
  | nil => rfl
  | cons turn _ ih => rw [List.forall_mem_cons, List.forall_mem_cons, turn.sound, ih]

/-! ## The claims of a request -/

/-- How many media parts there are. -/
def mediaParts (messages : List Message) : ℕ :=
  overParts (fun part =>
    if part.type ∈ [partTypeImageURL, partTypeVideoURL, partTypeInputAudio] then 1 else 0) messages

/-- The class of a request by its parts. -/
def classOf (messages : List Message) : Modality :=
  if ∃ message ∈ messages, ∃ part ∈ message.content.partsList, part.type = partTypeInputAudio then .audio
  else if ∃ message ∈ messages, ∃ part ∈ message.content.partsList,
    part.type = partTypeImageURL ∨ part.type = partTypeVideoURL then .multimodal
  else .text

theorem overParts_pos {count : ContentPart → ℕ} {messages : List Message} :
    0 < overParts count messages ↔ ∃ message ∈ messages, ∃ part ∈ message.content.partsList, 0 < count part := by
  simp [overParts, Nat.pos_iff_ne_zero, List.sum_eq_zero_iff_forall_eq_nat]

theorem modality_load (messages : List Message) : (seenOf (load messages)).modality = classOf messages := by
  have audio : 0 < overParts audioCount messages ↔ ∃ message ∈ messages,
      ∃ part ∈ message.content.partsList, part.type = partTypeInputAudio := by
    rw [overParts_pos]
    simp [audioCount, Nat.pos_iff_ne_zero]
  have visual : 0 < overParts visualCount messages ↔ ∃ message ∈ messages,
      ∃ part ∈ message.content.partsList, part.type = partTypeImageURL ∨ part.type = partTypeVideoURL := by
    rw [overParts_pos]
    simp only [visualCount, Nat.pos_iff_ne_zero, ne_eq, ite_eq_right_iff, one_ne_zero, imp_false, not_not]
  simp only [seenOf, load, classOf, audio, visual]

theorem mediaParts_load (messages : List Message) :
    mediaParts messages = overParts visualCount messages + overParts audioCount messages := by
  have each (part : ContentPart) :
      (if part.type ∈ [partTypeImageURL, partTypeVideoURL, partTypeInputAudio] then 1 else 0) =
        visualCount part + audioCount part := by
    unfold visualCount audioCount
    by_cases image : part.type = partTypeImageURL
    · rw [image]
      decide
    · by_cases video : part.type = partTypeVideoURL
      · rw [video]
        decide
      · simp [image, video]
  simp only [mediaParts, overParts, each, List.sum_map_add]

/-- A request passes exactly when its messages are sound and its media fit, and its class
is that of its parts. -/
theorem validateAndClassify_iff {req : InboundRequest} {limits : MediaLimits} {modality : Modality} :
    req.validateAndClassify limits = .ok modality ↔ (∀ message ∈ req.messages, Sound message) ∧
      (mediaParts req.messages : ℤ) ≤ max 0 limits.maxParts ∧
      (overParts inlineLength req.messages : ℤ) ≤ max 0 limits.maxDecodedBytes ∧
      modality = classOf req.messages := by
  have run := @classifyMessages_iff limits req.messages
  rw [mediaParts_load, ← modality_load, InboundRequest.validateAndClassify]
  constructor
  · intro ran
    split at ran
    · cases ran
    · rename_i seen classified
      cases ran
      obtain ⟨sound, ⟨parts, bytes⟩, rfl⟩ := run.mp classified
      exact ⟨sound, parts, bytes, rfl⟩
  · rintro ⟨sound, parts, bytes, rfl⟩
    rw [run.mpr ⟨sound, ⟨parts, bytes⟩, rfl⟩]

/-! ## Buffers -/

/-- The buffer that `decodeBase64` makes. -/
def decodeBuffer (encoded : Bytes) (maxDecoded : ℤ) : Option ℕ :=
  if encoded = [] then none
  else match strictBase64DecodedLen encoded with
    | none => none
    | some decodedLen => if maxDecoded ≤ 0 ∨ (decodedLen : ℤ) > maxDecoded then none else some decodedLen

/-- What is decoded fills the buffer made for it. -/
theorem decodeBase64_buffer (encoded : Bytes) (maxDecoded : ℤ) : (decodeBase64 encoded maxDecoded).toOption =
    (decodeBuffer encoded maxDecoded).bind fun n =>
      (PaddedBase64.decode encoded).filter fun decoded => decoded.length = n := by
  unfold decodeBase64 decodeBuffer
  by_cases empty : encoded = []
  · rw [if_pos empty, if_pos empty]
    rfl
  · rw [if_neg empty, if_neg empty]
    cases strictBase64DecodedLen encoded with
    | none => rfl
    | some decodedLen =>
      by_cases over_ : maxDecoded ≤ 0 ∨ (decodedLen : ℤ) > maxDecoded
      · simp only [if_pos over_]
        rfl
      · simp only [if_neg over_]
        cases PaddedBase64.decode encoded with
        | none => rfl
        | some decoded =>
          by_cases whole : decoded.length = decodedLen <;> simp [whole, Except.toOption, Option.filter]

/-- The text of a part that goes to `decodeBase64`, with its magic. -/
def payloadOf (part : ContentPart) : Option ((Bytes → Bool) × Bytes) :=
  if part.type = partTypeImageURL then
    part.imageURL.bind fun image => if (parseMediaLeaseRef image.url).isSome then none else imagePayload image
  else if part.type = partTypeVideoURL then
    part.videoURL.bind fun video => if (parseMediaLeaseRef video.url).isSome then none else videoPayload video
  else if part.type = partTypeInputAudio then part.inputAudio.bind audioPayload
  else none

/-- Nothing else of a part is decoded. -/
theorem checks_payload (part : ContentPart) (maxDecoded : ℤ) :
    (part.type = partTypeImageURL → (validateImage part.imageURL maxDecoded).toOption =
      if part.leaseRef.isSome then some 0 else (payloadOf part).bind (open_ maxDecoded)) ∧
    (part.type = partTypeVideoURL → (validateVideo part.videoURL maxDecoded).toOption =
      if part.leaseRef.isSome then some 0 else (payloadOf part).bind (open_ maxDecoded)) ∧
    (part.type = partTypeInputAudio → (validateAudio part.inputAudio maxDecoded).toOption =
      (payloadOf part).bind (open_ maxDecoded)) := by
  unfold payloadOf ContentPart.leaseRef ContentPart.mediaURL
  refine ⟨fun type => ?_, fun type => ?_, fun type => ?_⟩
  · rw [if_pos type, if_pos type]
    cases part.imageURL with
    | none => rfl
    | some image =>
      simp only [validateImage_eq, Option.map_some, Option.bind_some]
      split <;> rfl
  · have other : partTypeVideoURL ≠ partTypeImageURL := by decide
    simp only [type, if_neg other, if_true]
    cases part.videoURL with
    | none => rfl
    | some video =>
      simp only [validateVideo_eq, Option.map_some, Option.bind_some]
      split <;> rfl
  · have notImage : partTypeInputAudio ≠ partTypeImageURL := by decide
    have notVideo : partTypeInputAudio ≠ partTypeVideoURL := by decide
    simp only [type, if_neg notImage, if_neg notVideo, if_true]
    cases part.inputAudio with
    | none => rfl
    | some audio => rw [validateAudio_eq, Option.bind_some]

/-- The buffer made for a part. -/
def partBuffer (part : ContentPart) (maxDecoded : ℤ) : Option ℕ :=
  (payloadOf part).bind fun payload => decodeBuffer payload.2 maxDecoded

/-- The loop at one part: what stands before it went through. -/
structure LoopAt (limits : MediaLimits) (messages : List Message) where
  earlier : List Message
  message : Message
  later : List Message
  before : List ContentPart
  part : ContentPart
  behind : List ContentPart
  start : Seen
  seen : Seen
  turns : messages = earlier ++ message :: later
  parts : message.content = .parts (before ++ part :: behind)
  passed : earlier.foldlM (classifyMessage limits) ⟨.text, 0, 0⟩ = .ok start
  metered : before.foldlM (classifyPart limits message.role) start = .ok seen

theorem LoopAt.seen_load {limits : MediaLimits} {messages : List Message} (at_ : LoopAt limits messages) :
    at_.seen.decodedBytes = overParts inlineLength at_.earlier + (at_.before.map inlineLength).sum ∧
      at_.seen.decodedBytes ≤ max 0 limits.maxDecodedBytes := by
  obtain ⟨_, within, start⟩ := classifyMessages_iff.mp at_.passed
  have ran := at_.metered
  have parts : (at_.before.map fun part => (at_.message.role, part)).foldlM (classifyRolePart limits) at_.start =
      .ok at_.seen := by
    rw [List.foldlM_map]
    exact ran
  rw [start, (parts_meter limits).fold_iff within, List.map_map] at parts
  obtain ⟨_, fits, same⟩ := parts
  rw [show ((fun part : String × ContentPart => partLoad part.2) ∘ fun part => (at_.message.role, part)) = partLoad
    from rfl, sum_partLoad] at fits same
  rw [same]
  exact ⟨by simp [seenOf, load], fits.2⟩

theorem decodeBuffer_fits {encoded : Bytes} {maxDecoded : ℤ} {n : ℕ}
    (made : decodeBuffer encoded maxDecoded = some n) : (n : ℤ) ≤ maxDecoded := by
  unfold decodeBuffer at made
  split at made
  · cases made
  · split at made
    · cases made
    · split at made
      · cases made
      · cases made
        omega

/-- The check of a request: what passes, what is decoded on the way, and that no order
matters. -/
theorem validateAndClassify_meters (req : InboundRequest) (limits : MediaLimits) :
    (∀ modality, req.validateAndClassify limits = .ok modality ↔ (∀ message ∈ req.messages, Sound message) ∧
      (mediaParts req.messages : ℤ) ≤ max 0 limits.maxParts ∧
      (overParts inlineLength req.messages : ℤ) ≤ max 0 limits.maxDecodedBytes ∧
      modality = classOf req.messages) ∧
    (∀ at_ : LoopAt limits req.messages,
      at_.seen.decodedBytes = overParts inlineLength at_.earlier + (at_.before.map inlineLength).sum ∧
      ∀ n, partBuffer at_.part (max 0 (limits.maxDecodedBytes - at_.seen.decodedBytes)) = some n →
        at_.seen.decodedBytes + n ≤ max 0 limits.maxDecodedBytes) ∧
    ∀ req' : InboundRequest, Reordered req.messages req'.messages → ∀ modality,
      req.validateAndClassify limits = .ok modality ↔ req'.validateAndClassify limits = .ok modality := by
  refine ⟨fun modality => validateAndClassify_iff, fun at_ => ?_, ?_⟩
  · obtain ⟨total, within⟩ := at_.seen_load
    refine ⟨total, fun n made => ?_⟩
    obtain ⟨_, _, made⟩ := Option.bind_eq_some_iff.mp made
    have fits := decodeBuffer_fits made
    omega
  · intro req' reordered modality
    rw [validateAndClassify_iff, validateAndClassify_iff, reordered.sound, mediaParts_load, mediaParts_load,
      ← modality_load, ← modality_load]
    simp only [load, reordered.total]

/-- A user turn with a picture behind a word, and before it. -/
def captioned (swap : Bool) : InboundRequest where
  messages := [⟨"user", .parts (if swap then [imagePart inlinePNG, ⟨partTypeText, "this", none, none, none⟩]
    else [⟨partTypeText, "this", none, none, none⟩, imagePart inlinePNG]), "", [], "", []⟩]

theorem validateAndClassify_meters_captioned :
    Reordered (captioned false).messages (captioned true).messages ∧
      (captioned true).validateAndClassify ⟨1, 8⟩ = .ok .multimodal := by
  have swapped : Reordered (captioned false).messages (captioned true).messages :=
    ⟨_, .cons (.inr ⟨_, _, rfl, .swap _ _ _, rfl⟩) .nil, .refl _⟩
  exact ⟨swapped, ((validateAndClassify_meters (captioned false) ⟨1, 8⟩).2.2 _ swapped _).mp (by decide +kernel)⟩

/-- A limit below zero does not keep out a request without media. -/
theorem text_passes_any_limit : ¬∀ (req : InboundRequest) (limits : MediaLimits) (modality : Modality),
    req.validateAndClassify limits = .ok modality ↔ (∀ message ∈ req.messages, Sound message) ∧
      (mediaParts req.messages : ℤ) ≤ limits.maxParts ∧
      (overParts inlineLength req.messages : ℤ) ≤ limits.maxDecodedBytes ∧ modality = classOf req.messages := by
  intro always
  have passes : ({ messages := [⟨"user", .string "hi", "", [], "", []⟩] } : InboundRequest).validateAndClassify
      ⟨-1, 0⟩ = .ok .text := by decide +kernel
  obtain ⟨_, few, _⟩ := (always _ _ _).mp passes
  revert few
  decide +kernel

end AnselmGateway.MediaMeter
