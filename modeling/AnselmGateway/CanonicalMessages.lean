import AnselmGateway.MediaMeter

/-! What the canonical form of a request keeps. Only arrays of text are rewritten, into the
one text they spell, and no later check can tell. -/
namespace AnselmGateway.CanonicalMessages
open Foundation ChatContent ForwardedMedia MediaMeter

/-- An array of parts that are all text, or of none. -/
def TextOnly (content : Content) : Prop :=
  ∃ parts, content = .parts parts ∧ ∀ part ∈ parts, part.type = partTypeText

/-- The texts of an array, one behind the other. -/
def spelled (content : Content) : String := String.join (content.partsList.map ContentPart.text)

/-- What a message becomes: nothing but its content changes, and that only where it is an
array of text. -/
structure Canonical (message message' : Message) : Prop where
  others : { message' with content := message.content } = message
  collapsed : TextOnly message.content → message'.content = .string (spelled message.content)
  kept : ¬TextOnly message.content → message'.content = message.content

theorem canonicalMessage_canonical (message : Message) : Canonical message (canonicalMessage message) := by
  unfold canonicalMessage
  split
  · rename_i parts content
    split
    · rename_i text
      have only : TextOnly message.content := ⟨parts, content, by simpa using text⟩
      refine ⟨rfl, fun _ => ?_, fun mixed => absurd only mixed⟩
      rw [spelled, content]
      rfl
    · rename_i mixed
      refine ⟨rfl, fun only => ?_, fun _ => rfl⟩
      obtain ⟨parts', same, text⟩ := only
      rw [content] at same
      cases same
      exact absurd (by simpa using text) mixed
  · rename_i noParts
    refine ⟨rfl, fun only => ?_, fun _ => rfl⟩
    obtain ⟨parts, content, _⟩ := only
    exact absurd content (noParts parts)

/-- Canonical content has no array of text. -/
theorem Canonical.settled {message message' : Message} (canonical : Canonical message message') :
    ¬TextOnly message'.content := by
  by_cases only : TextOnly message.content
  · rw [canonical.collapsed only]
    rintro ⟨_, same, _⟩
    cases same
  · rwa [canonical.kept only]

/-- What has no array of text is its own canonical form. -/
theorem canonicalMessage_settled {message : Message} (settled : ¬TextOnly message.content) :
    canonicalMessage message = message := by
  have canonical := canonicalMessage_canonical message
  have others := canonical.others
  rwa [← canonical.kept settled] at others

theorem canonicalMessage_idem (message : Message) :
    canonicalMessage (canonicalMessage message) = canonicalMessage message :=
  canonicalMessage_settled (canonicalMessage_canonical message).settled

/-- A media part stays where it stands. -/
theorem Canonical.media {message message' : Message} {part : ContentPart} {j : ℕ}
    (canonical : Canonical message message') (here : message.content.partsList[j]? = some part)
    (media : part.type ≠ partTypeText) : message'.content.partsList[j]? = some part := by
  have mixed : ¬TextOnly message.content := by
    rintro ⟨parts, content, text⟩
    rw [content] at here
    exact media (text part (List.mem_of_getElem? here))
  rwa [canonical.kept mixed]

/-! ## The same result -/

/-- Nothing that text does not count for is lost. -/
theorem sum_canonicalMessage {count : ContentPart → ℕ} (silent : ∀ part, part.type = partTypeText → count part = 0)
    (message : Message) : ((canonicalMessage message).content.partsList.map count).sum =
      (message.content.partsList.map count).sum := by
  have canonical := canonicalMessage_canonical message
  by_cases only : TextOnly message.content
  · rw [canonical.collapsed only]
    obtain ⟨parts, content, text⟩ := only
    rw [content]
    refine (List.sum_eq_zero fun n member => ?_).symm
    obtain ⟨part, mem, rfl⟩ := List.mem_map.mp member
    exact silent part (text part mem)
  · rw [canonical.kept only]

theorem overParts_canonical {count : ContentPart → ℕ} (silent : ∀ part, part.type = partTypeText → count part = 0)
    (messages : List Message) : overParts count (messages.map canonicalMessage) = overParts count messages := by
  simp only [overParts, List.map_map, Function.comp_def, sum_canonicalMessage silent]

theorem load_canonical (messages : List Message) : load (messages.map canonicalMessage) = load messages := by
  have silent (part : ContentPart) (text : part.type = partTypeText) :
      visualCount part = 0 ∧ audioCount part = 0 ∧ inlineLength part = 0 := by
    have whole := partLoad_text text
    exact ⟨congrArg Prod.fst whole, congrArg (fun load => load.2.1) whole, congrArg (fun load => load.2.2) whole⟩
  simp only [load, overParts_canonical fun part text => (silent part text).1,
    overParts_canonical fun part text => (silent part text).2.1,
    overParts_canonical fun part text => (silent part text).2.2]

/-- A message that may stand in a request may stand there in its canonical form. -/
theorem sound_canonical {message : Message} (sound : Sound message) : Sound (canonicalMessage message) := by
  obtain ⟨proper, parts⟩ := sound
  have canonical := canonicalMessage_canonical message
  by_cases only : TextOnly message.content
  · have content := canonical.collapsed only
    refine ⟨⟨?_, ?_, ?_⟩, ?_⟩
    · have role := congrArg Message.role canonical.others
      dsimp only at role
      rw [role]
      exact proper.role
    · have role := congrArg Message.role canonical.others
      have answers := congrArg Message.toolCallID canonical.others
      dsimp only at role answers
      rw [role, answers]
      exact proper.answers
    · rw [content]
      simp
    · rw [content]
      intro part mem
      cases mem
  · rw [canonicalMessage_settled only]
    exact ⟨proper, parts⟩

/-- The canonical form of an accepted request: which messages there are, what their fields
are, and that checking it again tells the same. -/
theorem sanitize_keeps {req : InboundRequest} {limits : MediaLimits} {modality : Modality} (maxTok : Option ℤ)
    (accepted : req.validateAndClassify limits = .ok modality) :
    (sanitize req maxTok).tools = req.tools ∧ (sanitize req maxTok).toolChoice = req.toolChoice ∧
    List.Forall₂ Canonical req.messages (sanitize req maxTok).messages ∧
    (∀ (i j : ℕ) (message message' : Message) (part : ContentPart), req.messages[i]? = some message →
      (sanitize req maxTok).messages[i]? = some message' → message.content.partsList[j]? = some part →
      part.type ≠ partTypeText → message'.content.partsList[j]? = some part) ∧
    sanitize { req with messages := (sanitize req maxTok).messages } maxTok = sanitize req maxTok ∧
    InboundRequest.validateAndClassify limits { req with messages := (sanitize req maxTok).messages } =
      .ok modality := by
  refine ⟨rfl, rfl, ?_, ?_, ?_, ?_⟩
  · rw [sanitize, List.forall₂_map_right_iff, List.forall₂_same]
    exact fun message _ => canonicalMessage_canonical message
  · intro i j message message' part here here' stands media
    simp only [sanitize, List.getElem?_map, here, Option.map_some, Option.some.injEq] at here'
    rw [← here']
    exact (canonicalMessage_canonical message).media stands media
  · simp only [sanitize, List.map_map, Function.comp_def, canonicalMessage_idem]
  · rw [validateAndClassify_iff] at accepted ⊢
    rw [mediaParts_load, ← modality_load] at accepted ⊢
    have same := load_canonical req.messages
    simp only [load, Prod.mk.injEq] at same
    obtain ⟨visual, audio, inline⟩ := same
    simp only [sanitize, load_canonical, visual, audio, inline]
    refine ⟨?_, accepted.2⟩
    rw [List.forall_mem_map]
    exact fun message listed => sound_canonical (accepted.1 message listed)

/-- An instruction in two pieces, and a picture behind a word. -/
def instructed : InboundRequest where
  messages := ⟨"system", .parts [⟨partTypeText, "be", none, none, none⟩, ⟨partTypeText, " brief", none, none, none⟩],
    "", [], "", []⟩ :: (captioned false).messages

theorem sanitize_keeps_instructed : (sanitize instructed none).messages =
      ⟨"system", .string "be brief", "", [], "", []⟩ :: (captioned false).messages ∧
    InboundRequest.validateAndClassify ⟨1, 8⟩ { instructed with messages := (sanitize instructed none).messages } =
      .ok .multimodal := by
  have accepted : instructed.validateAndClassify ⟨1, 8⟩ = .ok .multimodal := by decide +kernel
  exact ⟨by decide +kernel, (sanitize_keeps none accepted).2.2.2.2.2⟩

end AnselmGateway.CanonicalMessages
