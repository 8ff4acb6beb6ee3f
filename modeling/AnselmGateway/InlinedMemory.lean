import AnselmGateway.ForwardedMedia
import AnselmGateway.Foundation.Arena

/-! How lease references are replaced in memory. A request is read through slices and
pointers that others may share, so the replacement builds new arrays and new payloads, and
what it was given reads as before. -/
namespace AnselmGateway.InlinedMemory
open Foundation ChatContent ForwardedMedia

/-! ## Requests in memory -/

/-- A `ContentPart`: its payloads are behind pointers. -/
structure PartCell where
  type : String
  text : String
  imageURL : Option ℕ
  videoURL : Option ℕ
  inputAudio : Option ℕ

/-- A `Content`: its parts are behind a slice. -/
inductive ContentCell where
  | missing
  | null
  | string (text : String)
  | parts (parts : Slice)

/-- A `Message`. -/
structure MessageCell where
  role : String
  content : ContentCell
  name : String
  toolCalls : Bytes
  toolCallID : String
  reasoningContent : Bytes

/-- An `InboundRequest`. -/
structure RequestCell where
  model : String := ""
  messages : Slice
  stream : Bool
  temperature : Option UInt64 := none
  maxTokens : Option ℤ
  n : Option ℤ := none
  tools : Bytes
  toolChoice : Bytes

structure Memory where
  messages : List (List MessageCell)
  parts : List (List PartCell)
  images : List ImageURL
  videos : List VideoURL
  audios : List InputAudio

section Read
variable (m : Memory)

def readPart (cell : PartCell) : Option ContentPart := do
  let image ← Arena.deref m.images cell.imageURL
  let video ← Arena.deref m.videos cell.videoURL
  let audio ← Arena.deref m.audios cell.inputAudio
  return ⟨cell.type, cell.text, image, video, audio⟩

def readContent : ContentCell → Option Content
  | .missing => some .missing
  | .null => some .null
  | .string text => some (.string text)
  | .parts parts => do
    let cells ← Arena.view m.parts parts
    let list ← cells.mapM (readPart m)
    return .parts list

def readMessage (cell : MessageCell) : Option Message := do
  let content ← readContent m cell.content
  return ⟨cell.role, content, cell.name, cell.toolCalls, cell.toolCallID, cell.reasoningContent⟩

/-- The request a cell stands for, if all it leads to is there. -/
def readRequest (req : RequestCell) : Option InboundRequest := do
  let cells ← Arena.view m.messages req.messages
  let messages ← cells.mapM (readMessage m)
  return ⟨req.model, messages, req.stream, req.temperature, req.maxTokens, req.n, req.tools, req.toolChoice⟩

end Read

/-! ## The replacement -/

section Inline
variable (inline : Inline)

/-- One part of the rewritten array: a reference gets a payload of its own. -/
def inlinePart (rewritten : Slice) (state : Memory × Bool) (pi : ℕ) : Option (Memory × Bool) := do
  let m := state.1
  let cells ← Arena.view m.parts rewritten
  let cell ← cells[pi]?
  if cell.type = partTypeImageURL then
    match cell.imageURL with
    | none => return state
    | some pointer =>
      let image ← m.images[pointer]?
      match inline.get? image.url with
      | none => return state
      | some data =>
        let clone : ImageURL := { image with url := dataURI data.mimeType data.base64 }
        let cell := { cell with imageURL := some m.images.length }
        return ({ m with
          images := m.images ++ [clone]
          parts := Arena.store m.parts rewritten pi cell }, true)
  else if cell.type = partTypeVideoURL then
    match cell.videoURL with
    | none => return state
    | some pointer =>
      let video ← m.videos[pointer]?
      match inline.get? video.url with
      | none => return state
      | some data =>
        let clone : VideoURL := { video with url := dataURI data.mimeType data.base64 }
        let cell := { cell with videoURL := some m.videos.length }
        return ({ m with
          videos := m.videos ++ [clone]
          parts := Arena.store m.parts rewritten pi cell }, true)
  else return state

/-- One message of the new array: the copy of its parts is rewritten, and, where that
changed something, copied once more into the content. -/
def inlineMessage (messages : Slice) (state : Memory × Bool) (mi : ℕ) : Option (Memory × Bool) := do
  let m := state.1
  let cells ← Arena.view m.messages messages
  let message ← cells[mi]?
  match message.content with
  | .parts held =>
    let (parts, arrays) ← Arena.clone m.parts held
    let (rewritten, arrays) ← Arena.clone arrays parts
    let (m, changed) ← (List.range rewritten.length).foldlM (inlinePart inline rewritten)
      ({ m with parts := arrays }, false)
    if changed then
      let (stored, arrays) ← Arena.clone m.parts rewritten
      let message := { message with content := .parts stored }
      return ({ m with parts := arrays, messages := Arena.store m.messages messages mi message }, true)
    else return (m, state.2)
  | _ => return state

/-- `WithInlinedMediaLeases`. -/
def withInlinedMediaLeases (m : Memory) (req : RequestCell) : Option (RequestCell × Memory) := do
  if inline.isEmpty then return (req, m)
  else
    let (messages, arrays) ← Arena.clone m.messages req.messages
    let (m, changedAny) ← (List.range messages.length).foldlM (inlineMessage inline messages)
      ({ m with messages := arrays }, false)
    if changedAny then return ({ req with messages := messages }, m) else return (req, m)

end Inline

/-! ## What memory keeps -/

/-- Everything that was there still is. -/
structure Grown (m m' : Memory) : Prop where
  messages : m.messages <+: m'.messages
  parts : m.parts <+: m'.parts
  images : m.images <+: m'.images
  videos : m.videos <+: m'.videos
  audios : m.audios <+: m'.audios

variable {m m' : Memory}

theorem readPart_grown {cell : PartCell} {part : ContentPart} (images : m.images <+: m'.images)
    (videos : m.videos <+: m'.videos) (audios : m.audios <+: m'.audios) (reads : readPart m cell = some part) :
    readPart m' cell = some part := by
  simp only [readPart, Option.bind_eq_bind, Option.bind_eq_some_iff, Option.pure_def] at reads ⊢
  obtain ⟨image, led, video, led', audio, led'', same⟩ := reads
  exact ⟨image, Arena.deref_extend images led, video, Arena.deref_extend videos led', audio,
    Arena.deref_extend audios led'', same⟩

/-- A list of cells that all read goes on reading as it did. -/
theorem map_grown {read read' : α → Option β} {cells : List α} {items : List β}
    (grown : ∀ cell item, read cell = some item → read' cell = some item)
    (reads : cells.map read = items.map some) : cells.map read' = items.map some := by
  induction cells generalizing items with
  | nil => exact reads
  | cons cell rest ih =>
    cases items with
    | nil => cases reads
    | cons item others =>
      rw [List.map_cons, List.map_cons, List.cons.injEq] at reads ⊢
      exact ⟨grown _ _ reads.1, ih reads.2⟩

theorem readContent_grown {cell : ContentCell} {content : Content} (grown : Grown m m')
    (reads : readContent m cell = some content) : readContent m' cell = some content := by
  cases cell with
  | parts held =>
    simp only [readContent, Option.bind_eq_bind, Option.bind_eq_some_iff, Option.pure_def] at reads ⊢
    obtain ⟨cells, shown, list, read, same⟩ := reads
    refine ⟨cells, Arena.view_extend grown.parts shown, list, ?_, same⟩
    rw [mapM_some_iff] at read ⊢
    exact map_grown (fun _ _ => readPart_grown grown.images grown.videos grown.audios) read
  | _ => exact reads

theorem readMessage_grown {cell : MessageCell} {message : Message} (grown : Grown m m')
    (reads : readMessage m cell = some message) : readMessage m' cell = some message := by
  simp only [readMessage, Option.bind_eq_bind, Option.bind_eq_some_iff, Option.pure_def] at reads ⊢
  obtain ⟨content, read, same⟩ := reads
  exact ⟨content, readContent_grown grown read, same⟩

/-- A request reads the same when memory grew. -/
theorem readRequest_grown {cell : RequestCell} {req : InboundRequest} (grown : Grown m m')
    (reads : readRequest m cell = some req) : readRequest m' cell = some req := by
  simp only [readRequest, Option.bind_eq_bind, Option.bind_eq_some_iff, Option.pure_def] at reads ⊢
  obtain ⟨cells, shown, messages, read, same⟩ := reads
  refine ⟨cells, Arena.view_extend grown.messages shown, messages, ?_, same⟩
  rw [mapM_some_iff] at read ⊢
  exact map_grown (fun _ _ => readMessage_grown grown) read

/-! ## The parts of one message -/

section Parts
variable {inline : Inline} {base : Memory} {rewritten : Slice} {original : List ContentPart}

/-- What the loop over parts keeps: the array under work reads as the parts so far, what
was there before it is untouched, and unless something changed the parts are as they were. -/
structure Rewriting (base : Memory) (rewritten : Slice) (original parts : List ContentPart)
    (state : Memory × Bool) : Prop where
  grown : Grown base state.1
  messages : state.1.messages = base.messages
  new : base.parts.length ≤ rewritten.array
  same : state.2 = false → parts = original
  shown : ∃ cells, Arena.view state.1.parts rewritten = some cells ∧
    cells.map (readPart state.1) = parts.map some

theorem getElem?_of_map {read : α → Option β} {cells : List α} {items : List β} {i : ℕ} {item : β}
    (reads : cells.map read = items.map some) (here : items[i]? = some item) :
    ∃ cell, cells[i]? = some cell ∧ read cell = some item := by
  have at_ := congrArg (·[i]?) reads
  simp only [List.getElem?_map, here, Option.map_some] at at_
  obtain ⟨cell, is, read⟩ := Option.map_eq_some_iff.mp at_
  exact ⟨cell, is, read⟩

/-- Storing a cell that reads as the rewritten part in memory that grew for it. -/
theorem rewriting_store {state : Memory × Bool} {parts : List ContentPart} {pi : ℕ} {part part' : ContentPart}
    {cell : PartCell} {grownTo : Memory} (keeps : Rewriting base rewritten original parts state)
    (here : parts[pi]? = some part) (images : state.1.images <+: grownTo.images)
    (videos : state.1.videos <+: grownTo.videos) (audios : state.1.audios <+: grownTo.audios)
    (messages : grownTo.messages = state.1.messages)
    (arrays : grownTo.parts = Arena.store state.1.parts rewritten pi cell)
    (reads : readPart grownTo cell = some part') :
    Rewriting base rewritten original (parts.set pi part') (grownTo, true) := by
  obtain ⟨cells, shown, read⟩ := keeps.shown
  obtain ⟨old, inside, _⟩ := getElem?_of_map read here
  have bound : pi < rewritten.length := by
    rw [← Arena.view_length shown]
    exact (List.getElem?_eq_some_iff.mp inside).1
  refine ⟨⟨?_, ?_, keeps.grown.images.trans images, keeps.grown.videos.trans videos,
    keeps.grown.audios.trans audios⟩, ?_, keeps.new, nofun, cells.set pi cell, ?_, ?_⟩
  · rw [messages]
    exact keeps.grown.messages
  · rw [arrays]
    exact Arena.store_extend keeps.grown.parts keeps.new _ _
  · rw [messages, keeps.messages]
  · rw [arrays]
    exact Arena.view_store shown bound cell
  · rw [List.map_set, List.map_set, map_grown (fun _ _ => readPart_grown images videos audios) read, reads]

theorem set_same {xs : List α} {i : ℕ} {x : α} (here : xs[i]? = some x) : xs.set i x = xs := by
  obtain ⟨bound, rfl⟩ := List.getElem?_eq_some_iff.mp here
  exact List.set_getElem_self bound

theorem deref_some {cells : List α} {pointer : ℕ} {found : Option α}
    (led : Arena.deref cells (some pointer) = some found) : ∃ cell, cells[pointer]? = some cell ∧ found = some cell := by
  obtain ⟨cell, is, rfl⟩ := Option.map_eq_some_iff.mp led
  exact ⟨cell, is, rfl⟩

theorem deref_fresh (cells : List α) (cell : α) :
    Arena.deref (cells ++ [cell]) (some cells.length) = some (some cell) := by
  simp [Arena.deref]

/-- One step rewrites one part. -/
theorem inlinePart_step {state : Memory × Bool} {parts : List ContentPart} {pi : ℕ} {part : ContentPart}
    (keeps : Rewriting base rewritten original parts state) (here : parts[pi]? = some part) :
    ∃ state', inlinePart inline rewritten state pi = some state' ∧
      Rewriting base rewritten original (parts.set pi (part.withInlined inline)) state' := by
  have stays (same : part.withInlined inline = part) :
      Rewriting base rewritten original (parts.set pi (part.withInlined inline)) state := by
    rwa [same, set_same here]
  obtain ⟨cells, shown, read⟩ := keeps.shown
  obtain ⟨cell, inside, reads⟩ := getElem?_of_map read here
  have fields := reads
  simp only [readPart, Option.bind_eq_bind, Option.bind_eq_some_iff, Option.pure_def, Option.some.injEq] at fields
  obtain ⟨image, led, video, led', audio, led'', rfl⟩ := fields
  simp only [inlinePart, shown, inside, Option.bind_eq_bind, Option.bind_some]
  split
  · rename_i isImage
    cases pointed : cell.imageURL with
    | none =>
      rw [pointed] at led
      cases led
      refine ⟨state, rfl, stays ?_⟩
      simp [ContentPart.withInlined, isImage]
    | some pointer =>
      rw [pointed] at led
      obtain ⟨found, at_, rfl⟩ := deref_some led
      simp only [at_, Option.bind_some]
      cases data : inline.get? found.url with
      | none =>
        refine ⟨state, rfl, stays ?_⟩
        simp [ContentPart.withInlined, isImage, inlinedURL, data]
      | some lease =>
        refine ⟨_, rfl, rewriting_store keeps here (List.prefix_append _ _) (List.prefix_refl _)
          (List.prefix_refl _) rfl rfl ?_⟩
        simp [readPart, deref_fresh, led', led'', ContentPart.withInlined, isImage, inlinedURL, data]
  · rename_i notImage
    split
    · rename_i isVideo
      have other : partTypeVideoURL ≠ partTypeImageURL := by decide
      cases pointed : cell.videoURL with
      | none =>
        rw [pointed] at led'
        cases led'
        refine ⟨state, rfl, stays ?_⟩
        simp [ContentPart.withInlined, other, isVideo]
      | some pointer =>
        rw [pointed] at led'
        obtain ⟨found, at_, rfl⟩ := deref_some led'
        simp only [at_, Option.bind_some]
        cases data : inline.get? found.url with
        | none =>
          refine ⟨state, rfl, stays ?_⟩
          simp [ContentPart.withInlined, other, isVideo, inlinedURL, data]
        | some lease =>
          refine ⟨_, rfl, rewriting_store keeps here (List.prefix_refl _) (List.prefix_append _ _)
            (List.prefix_refl _) rfl rfl ?_⟩
          simp [readPart, deref_fresh, led, led'', ContentPart.withInlined, other, isVideo, inlinedURL, data]
    · rename_i notVideo
      refine ⟨state, rfl, stays ?_⟩
      simp [ContentPart.withInlined, notImage, notVideo]

end Parts

/-! ## The messages -/

section Messages
variable {inline : Inline} {base : Memory} {messages : Slice} {original : List Message}

/-- A message with its references replaced. -/
def inlined (inline : Inline) (message : Message) : Message :=
  { message with content := message.content.withInlined inline }

/-- What the loop over messages keeps. -/
structure Inlining (base : Memory) (messages : Slice) (original list : List Message)
    (state : Memory × Bool) : Prop where
  grown : Grown base state.1
  new : base.messages.length ≤ messages.array
  same : state.2 = false → list = original
  shown : ∃ cells, Arena.view state.1.messages messages = some cells ∧
    cells.map (readMessage state.1) = list.map some

theorem Grown.trans {m m' m'' : Memory} (first : Grown m m') (second : Grown m' m'') : Grown m m'' :=
  ⟨first.messages.trans second.messages, first.parts.trans second.parts, first.images.trans second.images,
    first.videos.trans second.videos, first.audios.trans second.audios⟩

/-- The loop over the parts of one message. -/
theorem inlineParts_run {m : Memory} {cells : List PartCell} {list : List ContentPart}
    (reads : cells.map (readPart m) = list.map some) :
    ∃ m' changed cells', (List.range (Arena.fresh (m.parts ++ [cells]) cells).length).foldlM
        (inlinePart inline (Arena.fresh (m.parts ++ [cells]) cells))
        ({ m with parts := m.parts ++ [cells] ++ [cells] }, false) = some (m', changed) ∧
      Grown m m' ∧ m'.messages = m.messages ∧
      (changed = false → list.map (ContentPart.withInlined inline) = list) ∧
      Arena.view m'.parts (Arena.fresh (m.parts ++ [cells]) cells) = some cells' ∧
      cells'.map (readPart m') = (list.map (ContentPart.withInlined inline)).map some := by
  have start : Rewriting { m with parts := m.parts ++ [cells] } (Arena.fresh (m.parts ++ [cells]) cells) list list
      ({ m with parts := m.parts ++ [cells] ++ [cells] }, false) := by
    refine ⟨⟨List.prefix_refl _, List.prefix_append _ _, List.prefix_refl _, List.prefix_refl _,
      List.prefix_refl _⟩, rfl, Nat.le_refl _, fun _ => rfl, cells, Arena.view_fresh _ _, ?_⟩
    exact map_grown (fun _ _ => readPart_grown (List.prefix_refl _) (List.prefix_refl _) (List.prefix_refl _)) reads
  obtain ⟨⟨m', changed⟩, ran, keeps⟩ := rewrite_loop (fun _ _ _ _ keeps here => inlinePart_step keeps here) start
  obtain ⟨cells', shown, read⟩ := keeps.shown
  have length : (Arena.fresh (m.parts ++ [cells]) cells).length = list.length := by
    have lengths := congrArg List.length reads
    rw [List.length_map, List.length_map] at lengths
    exact lengths
  rw [length]
  have added : Grown m { m with parts := m.parts ++ [cells] } :=
    ⟨List.prefix_refl _, List.prefix_append _ _, List.prefix_refl _, List.prefix_refl _, List.prefix_refl _⟩
  exact ⟨m', changed, cells', ran, added.trans keeps.grown, keeps.messages, keeps.same, shown, read⟩

/-- A content that has parts is behind a slice that shows them. -/
theorem readContent_parts {m : Memory} {held : Slice} {content : Content}
    (reads : readContent m (.parts held) = some content) : ∃ cells list, Arena.view m.parts held = some cells ∧
      cells.map (readPart m) = list.map some ∧ content = .parts list := by
  simp only [readContent, Option.bind_eq_bind, Option.bind_eq_some_iff, Option.pure_def, Option.some.injEq] at reads
  obtain ⟨cells, shown, list, read, same⟩ := reads
  exact ⟨cells, list, shown, mapM_some_iff.mp read, same.symm⟩

/-- Storing a message that reads as the rewritten one in memory that grew for it. -/
theorem inlining_store {state : Memory × Bool} {list : List Message} {mi : ℕ} {message message' : Message}
    {cell : MessageCell} {grownTo : Memory} (keeps : Inlining base messages original list state)
    (here : list[mi]? = some message) (grown : Grown state.1 grownTo)
    (same : grownTo.messages = state.1.messages) (reads : readMessage grownTo cell = some message') :
    Inlining base messages original (list.set mi message')
      ({ grownTo with messages := Arena.store grownTo.messages messages mi cell }, true) := by
  obtain ⟨cells, shown, read⟩ := keeps.shown
  obtain ⟨old, inside, _⟩ := getElem?_of_map read here
  have bound : mi < messages.length := by
    rw [← Arena.view_length shown]
    exact (List.getElem?_eq_some_iff.mp inside).1
  have whole := keeps.grown.trans grown
  refine ⟨⟨?_, whole.parts, whole.images, whole.videos, whole.audios⟩, keeps.new, nofun, cells.set mi cell, ?_, ?_⟩
  · exact Arena.store_extend whole.messages keeps.new _ _
  · dsimp only
    rw [same]
    exact Arena.view_store shown bound cell
  · -- The array of messages is not read through a message.
    change (cells.set mi cell).map (readMessage grownTo) = _
    rw [List.map_set, List.map_set, map_grown (fun _ _ => readMessage_grown grown) read, reads]

/-- One step rewrites one message. -/
theorem inlineMessage_step {state : Memory × Bool} {list : List Message} {mi : ℕ} {message : Message}
    (keeps : Inlining base messages original list state) (here : list[mi]? = some message) :
    ∃ state', inlineMessage inline messages state mi = some state' ∧
      Inlining base messages original (list.set mi (inlined inline message)) state' := by
  obtain ⟨m, changedAny⟩ := state
  obtain ⟨cells, shown, read⟩ := keeps.shown
  obtain ⟨cell, inside, reads⟩ := getElem?_of_map read here
  have fields := reads
  simp only [readMessage, Option.bind_eq_bind, Option.bind_eq_some_iff, Option.pure_def, Option.some.injEq] at fields
  obtain ⟨content, held, rfl⟩ := fields
  -- Where the content stays, the message does.
  have stays {m' : Memory} (grown : Grown m m') (same : m'.messages = m.messages)
      (unchanged : content.withInlined inline = content) : Inlining base messages original
        (list.set mi (inlined inline ⟨cell.role, content, cell.name, cell.toolCalls, cell.toolCallID,
          cell.reasoningContent⟩)) (m', changedAny) := by
    rw [inlined, unchanged, set_same here]
    refine ⟨keeps.grown.trans grown, keeps.new, keeps.same, cells, ?_, ?_⟩
    · rw [same]
      exact shown
    · exact map_grown (fun _ _ => readMessage_grown grown) read
  have refl : Grown m m :=
    ⟨List.prefix_refl _, List.prefix_refl _, List.prefix_refl _, List.prefix_refl _, List.prefix_refl _⟩
  simp only [inlineMessage, shown, inside, Option.bind_eq_bind, Option.bind_some]
  split
  · rename_i slice isParts
    rw [isParts] at held
    obtain ⟨partCells, parts, shownParts, readParts, rfl⟩ := readContent_parts held
    obtain ⟨m', changed, cells', ran, grown, sameMessages, unchanged, shown', read'⟩ :=
      @inlineParts_run inline _ _ _ readParts
    simp only [Arena.clone_some shownParts, Arena.clone_some (Arena.view_fresh m.parts partCells), Option.bind_some]
    rw [ran]
    simp only [Option.bind_some]
    cases changed with
    | false =>
      refine ⟨_, rfl, stays grown sameMessages ?_⟩
      rw [Content.withInlined, unchanged rfl]
    | true =>
      simp only [if_true, Arena.clone_some shown', Option.bind_some]
      have added : Grown m' { m' with parts := m'.parts ++ [cells'] } :=
        ⟨List.prefix_refl _, List.prefix_append _ _, List.prefix_refl _, List.prefix_refl _, List.prefix_refl _⟩
      have stored : cells'.map (readPart { m' with parts := m'.parts ++ [cells'] }) =
          (parts.map (ContentPart.withInlined inline)).map some :=
        map_grown (fun _ _ => readPart_grown added.images added.videos added.audios) read'
      refine ⟨_, rfl, inlining_store keeps here (grown.trans added) sameMessages ?_⟩
      simp only [readMessage, readContent, Arena.view_fresh, mapM_some_iff.mpr stored, Option.bind_eq_bind,
        Option.bind_some, Option.pure_def]
      rfl
  · rename_i noParts
    refine ⟨_, rfl, stays refl rfl ?_⟩
    cases content with
    | parts parts =>
      cases is : cell.content with
      | parts slice => exact absurd is (noParts slice)
      | _ =>
        rw [is] at held
        cases held
    | _ => rfl

end Messages

/-- What is read from memory afterwards is the request with its references replaced, and
all that was there before is still there. -/
theorem withInlinedMediaLeases_run {m : Memory} {cell : RequestCell} {req : InboundRequest} (inline : Inline)
    (reads : readRequest m cell = some req) :
    ∃ cell' m', withInlinedMediaLeases inline m cell = some (cell', m') ∧ Grown m m' ∧
      readRequest m' cell' = some (req.withInlinedMediaLeases inline) := by
  have fields := reads
  simp only [readRequest, Option.bind_eq_bind, Option.bind_eq_some_iff, Option.pure_def, Option.some.injEq] at fields
  obtain ⟨cells, shown, list, read, rfl⟩ := fields
  have maps := mapM_some_iff.mp read
  unfold withInlinedMediaLeases
  cases inline with
  | nil =>
    refine ⟨cell, m, rfl, ⟨List.prefix_refl _, List.prefix_refl _, List.prefix_refl _, List.prefix_refl _,
      List.prefix_refl _⟩, ?_⟩
    rw [withInlinedMediaLeases_nil]
    exact reads
  | cons entry rest =>
    have start : Inlining m (Arena.fresh m.messages cells) list list
        ({ m with messages := m.messages ++ [cells] }, false) := by
      have added : Grown m { m with messages := m.messages ++ [cells] } :=
        ⟨List.prefix_append _ _, List.prefix_refl _, List.prefix_refl _, List.prefix_refl _, List.prefix_refl _⟩
      exact ⟨added, Nat.le_refl _, fun _ => rfl, cells, Arena.view_fresh _ _,
        map_grown (fun _ _ => readMessage_grown added) maps⟩
    obtain ⟨⟨m', changedAny⟩, ran, keeps⟩ := rewrite_loop
      (fun _ _ _ _ keeps here => @inlineMessage_step (entry :: rest) _ _ _ _ _ _ _ keeps here) start
    have length : (Arena.fresh m.messages cells).length = list.length := by
      have lengths := congrArg List.length maps
      rw [List.length_map, List.length_map] at lengths
      exact lengths
    simp only [List.isEmpty_cons, Bool.false_eq_true, if_false, Arena.clone_some shown, Option.bind_eq_bind,
      Option.bind_some, length]
    rw [ran]
    simp only [Option.bind_some]
    cases changedAny with
    | false =>
      refine ⟨cell, m', rfl, keeps.grown, ?_⟩
      have unchanged : list.map (inlined (entry :: rest)) = list := keeps.same rfl
      rw [readRequest_grown keeps.grown reads, InboundRequest.withInlinedMediaLeases]
      exact congrArg some (congrArg (fun messages => (⟨_, messages, _, _, _, _, _, _⟩ : InboundRequest)) unchanged.symm)
    | true =>
      obtain ⟨cells', shown', read'⟩ := keeps.shown
      refine ⟨_, m', rfl, keeps.grown, ?_⟩
      simp only [readRequest, shown', mapM_some_iff.mpr read', Option.bind_eq_bind, Option.bind_some, Option.pure_def]
      rfl

/-! ## All and only the references -/

/-- A part with another address, and nothing else of it changed. -/
def withURL (url : Bytes) (part : ContentPart) : ContentPart :=
  { part with
    imageURL := if part.type = partTypeImageURL then part.imageURL.map fun image => { image with url := url }
      else part.imageURL
    videoURL := if part.type = partTypeVideoURL then part.videoURL.map fun video => { video with url := url }
      else part.videoURL }

/-- A reference carries the content of its own lease, anything else is as it was. -/
def Replaced (inline : Inline) (part part' : ContentPart) : Prop :=
  match part.leaseRef with
  | none => part' = part
  | some ref => ∃ lease, inline.get? ref.raw = some lease ∧
    part' = withURL (dataURI lease.mimeType lease.base64) part

/-- The parts of a message are replaced in their places, the rest of it is as it was. -/
def ReplacedMessage (inline : Inline) (message message' : Message) : Prop :=
  { message' with content := message.content } = message ∧ match message.content with
    | .parts parts => ∃ parts', message'.content = .parts parts' ∧ List.Forall₂ (Replaced inline) parts parts'
    | content => message'.content = content

section Replaced
variable {inline : Inline}

theorem get?_reference (references : ∀ entry ∈ inline, (parseMediaLeaseRef entry.1).isSome = true) {url : Bytes}
    (plain : parseMediaLeaseRef url = none) : inline.get? url = none := by
  cases found : inline.get? url with
  | none => rfl
  | some lease =>
    obtain ⟨entry, is, _⟩ := Option.map_eq_some_iff.mp found
    have key : entry.1 = url := by simpa using List.find?_some is
    have parses := references entry (List.mem_of_find?_eq_some is)
    rw [key, plain] at parses
    cases parses

theorem replaced_withInlined (references : ∀ entry ∈ inline, (parseMediaLeaseRef entry.1).isSome = true)
    {part : ContentPart} (covered : ∀ ref, part.leaseRef = some ref → (inline.get? ref.raw).isSome = true) :
    Replaced inline part (part.withInlined inline) := by
  unfold Replaced
  split
  · rename_i none_
    have kept (url : Bytes) (address : part.mediaURL = some url) : inlinedURL inline url = url := by
      rw [ContentPart.leaseRef, address, Option.bind_some] at none_
      rw [inlinedURL, get?_reference references none_]
    unfold ContentPart.mediaURL at kept
    unfold ContentPart.withInlined
    obtain ⟨type, text, image, video, audio⟩ := part
    dsimp only at kept ⊢
    split
    · rename_i isImage
      cases image with
      | none => rfl
      | some image => simp [kept image.url (by simp [isImage])]
    · rename_i notImage
      split
      · rename_i isVideo
        cases video with
        | none => rfl
        | some video => simp [kept video.url (by simp [isVideo, partTypeVideoURL, partTypeImageURL])]
      · rfl
  · rename_i ref is
    obtain ⟨lease, found⟩ := Option.isSome_iff_exists.mp (covered ref is)
    refine ⟨lease, found, ?_⟩
    obtain ⟨url, address, parsed⟩ := Option.bind_eq_some_iff.mp is
    have becomes : inlinedURL inline url = dataURI lease.mimeType lease.base64 := by
      rw [parse_raw parsed] at found
      rw [inlinedURL, found]
    unfold ContentPart.mediaURL at address
    unfold ContentPart.withInlined withURL
    obtain ⟨type, text, image, video, audio⟩ := part
    dsimp only at address ⊢
    split
    · rename_i isImage
      rw [if_pos isImage] at address
      obtain ⟨found, rfl, rfl⟩ := Option.map_eq_some_iff.mp address
      simp [isImage, becomes, partTypeVideoURL, partTypeImageURL]
    · rename_i notImage
      rw [if_neg notImage] at address
      split
      · rename_i isVideo
        rw [if_pos isVideo] at address
        obtain ⟨found, rfl, rfl⟩ := Option.map_eq_some_iff.mp address
        simp [isVideo, becomes, partTypeVideoURL]
      · rename_i notVideo
        rw [if_neg notVideo] at address

/-- What was replaced is no reference any more. -/
theorem Replaced.leaseRef {part part' : ContentPart} (replaced : Replaced inline part part') :
    part'.leaseRef = none := by
  unfold Replaced at replaced
  split at replaced
  · rename_i none_
    rw [replaced, none_]
  · rename_i ref is
    obtain ⟨lease, _, rfl⟩ := replaced
    obtain ⟨url, address, _⟩ := Option.bind_eq_some_iff.mp is
    have now : (withURL (dataURI lease.mimeType lease.base64) part).mediaURL =
        some (dataURI lease.mimeType lease.base64) := by
      unfold ContentPart.mediaURL at address
      unfold ContentPart.mediaURL withURL
      obtain ⟨type, text, image, video, audio⟩ := part
      dsimp only at address ⊢
      split
      · rename_i isImage
        rw [if_pos isImage] at address
        obtain ⟨found, rfl, _⟩ := Option.map_eq_some_iff.mp address
        rfl
      · rename_i notImage
        rw [if_neg notImage] at address
        split
        · rename_i isVideo
          rw [if_pos isVideo] at address
          obtain ⟨found, rfl, _⟩ := Option.map_eq_some_iff.mp address
          rfl
        · rename_i notVideo
          rw [if_neg notVideo] at address
          cases address
    rw [ContentPart.leaseRef, now, Option.bind_some, parse_dataURI]

end Replaced

/-- In memory all references of a request are replaced and nothing else is, and the request
that was given reads as before. -/
theorem withInlinedMediaLeases_replaces {m : Memory} {cell : RequestCell} {req : InboundRequest} {inline : Inline}
    (reads : readRequest m cell = some req)
    (references : ∀ entry ∈ inline, (parseMediaLeaseRef entry.1).isSome = true)
    (covers : ∀ ref ∈ req.mediaLeaseRefs, (inline.get? ref.raw).isSome = true) :
    ∃ cell' m' req', withInlinedMediaLeases inline m cell = some (cell', m') ∧
      readRequest m' cell' = some req' ∧ req'.mediaLeaseRefs = [] ∧
      { req' with messages := req.messages } = req ∧
      List.Forall₂ (ReplacedMessage inline) req.messages req'.messages ∧
      Grown m m' ∧ readRequest m' cell = some req := by
  obtain ⟨cell', m', ran, grown, reads'⟩ := withInlinedMediaLeases_run inline reads
  have each : ∀ message ∈ req.messages, ∀ part ∈ message.content.partsList,
      Replaced inline part (part.withInlined inline) := by
    intro message listed part mem
    exact replaced_withInlined references fun ref is => covers ref (mem_mediaLeaseRefs.mpr ⟨message, listed, part, mem, is⟩)
  refine ⟨cell', m', _, ran, reads', ?_, rfl, ?_, grown, readRequest_grown grown reads⟩
  · rw [List.eq_nil_iff_forall_not_mem]
    intro ref mem
    obtain ⟨message, listed, part, mem, is⟩ := mem_mediaLeaseRefs.mp mem
    obtain ⟨source, held, rfl⟩ := List.mem_map.mp listed
    rw [partsList_withInlined] at mem
    obtain ⟨old, inside, rfl⟩ := List.mem_map.mp mem
    rw [(each source held old inside).leaseRef] at is
    cases is
  · rw [InboundRequest.withInlinedMediaLeases, List.forall₂_map_right_iff, List.forall₂_same]
    intro message listed
    refine ⟨rfl, ?_⟩
    have here := each message listed
    cases is : message.content with
    | parts parts =>
      rw [is] at here
      refine ⟨parts.map (ContentPart.withInlined inline), rfl, ?_⟩
      rw [List.forall₂_map_right_iff, List.forall₂_same]
      exact here
    | _ => rfl

/-- Two parts of one turn that share an image, which is a reference. -/
def shared : Memory where
  messages := [[⟨"user", .parts ⟨0, 0, 2⟩, "", [], "", []⟩]]
  parts := [[⟨partTypeImageURL, "", some 0, none, none⟩, ⟨partTypeImageURL, "", some 0, none, none⟩]]
  images := [⟨utf8 leasePath, ""⟩]
  videos := []
  audios := []

def sharedRequest : RequestCell := ⟨"", ⟨0, 0, 1⟩, false, none, none, none, [], []⟩

def pngInline : Inline := [(utf8 leasePath, ⟨"image/png", utf8 "iVBORw0KGgo="⟩)]

theorem withInlinedMediaLeases_replaces_shared :
    ∃ cell' m' req', withInlinedMediaLeases pngInline shared sharedRequest = some (cell', m') ∧
      readRequest m' cell' = some req' ∧ req'.mediaLeaseRefs = [] ∧
      { req' with messages := (asking [leasePath, leasePath]).messages } = asking [leasePath, leasePath] ∧
      List.Forall₂ (ReplacedMessage pngInline) (asking [leasePath, leasePath]).messages req'.messages ∧
      Grown shared m' ∧ readRequest m' sharedRequest = some (asking [leasePath, leasePath]) :=
  withInlinedMediaLeases_replaces (by decide) (by decide) (by decide +kernel)

end AnselmGateway.InlinedMemory
