import AnselmGateway.APIError
import AnselmGateway.Foundation.Bytes
import AnselmGateway.Foundation.Run

/-! Speech synthesis over the duplex socket, `internal/infra/upstream/ttsgen.go`: one session
from the dial to the answer, with what passed over the connection kept in order. The socket
library, the URL parser and the JSON decoder answer from outside. -/
namespace AnselmGateway.SpeechSynthesis
open Foundation

/-- `maxAudioBytes`. -/
def maxAudioBytes : ℕ := 33554432

/-- `TTSGen`, without its dialer and its timeout. -/
structure TTSGen where
  base : String
  apiKey : String
  deriving DecidableEq

/-- A value of the payload maps. -/
inductive Setting where
  | text (value : String)
  | number (value : ℤ)
  deriving DecidableEq

/-- `wsFrame`, as the gateway sends it. -/
structure WsFrame where
  action : String
  taskID : String
  streaming : String
  taskGroup : String := ""
  task : String := ""
  function : String := ""
  model : String := ""
  parameters : List (String × Setting) := []
  input : List (String × Setting) := []
  deriving DecidableEq

/-- `runTaskFrame`. -/
def runTaskFrame (taskID model voice : String) : WsFrame where
  action := "run-task"
  taskID := taskID
  streaming := "duplex"
  taskGroup := "audio"
  task := "tts"
  function := "SpeechSynthesizer"
  model := model
  parameters := [("text_type", .text "PlainText"), ("voice", .text voice), ("format", .text "wav"),
    ("sample_rate", .number 24000)]

/-- `continueTaskFrame`. -/
def continueTaskFrame (taskID text : String) : WsFrame where
  action := "continue-task"
  taskID := taskID
  streaming := "duplex"
  input := [("text", .text text)]

/-- `finishTaskFrame`. -/
def finishTaskFrame (taskID : String) : WsFrame where
  action := "finish-task"
  taskID := taskID
  streaming := "duplex"

/-- `inferenceWSURL`, over the scheme and host `url.Parse` finds, if it finds any. -/
def inferenceWSURL (parsed : Option (String × String)) : Option String :=
  match parsed with
  | none => none
  | some (scheme, host) =>
    if host = "" then none
    else some ((if scheme = "http" then "ws" else "wss") ++ "://" ++ host ++ "/api-ws/v1/inference")

/-! ## A session -/

/-- A message of the provider; a text is what it decodes to, the event of its header. -/
inductive Message where
  | binary (data : Bytes)
  | text (event : Option String)
  deriving DecidableEq

/-- What passes over the connection: a frame handed to it, whether or not its write fails, and
a message read from it. -/
inductive Passed where
  | sent (frame : WsFrame)
  | received (message : Message)
  deriving DecidableEq

/-- `DialContext`: a connection, or an error with the status of the response that came with it. -/
inductive Dial where
  | connected
  | failed (status : Option ℤ) (deadlineExceeded : Bool)
  deriving DecidableEq

/-- Which of the three writes of a session go through. -/
structure Writes where
  run : Bool
  text : Bool
  finish : Bool
  deriving DecidableEq

/-- The arguments of `GenerateSpeech`, and the id it draws. -/
structure Utterance where
  taskID : String
  model : String
  text : String
  voice : String

/-- What the provider, the network and the standard library do to one session. The stream of
messages ends with a read that fails. -/
structure Outside where
  parsed : Option (String × String)
  dial : Dial
  writes : Writes
  messages : List Message

/-- How a session ends: whether the dialer was called, what passed, and what is returned. -/
structure Ended where
  dialed : Bool
  passed : List Passed
  result : Except APIError Bytes
  unbilled : Bool

/-- The read loop between two messages. -/
structure Loop where
  audio : Bytes
  started : Bool
  passed : List Passed

def Loop.fail (l : Loop) (unbilled : Bool) (error : APIError) : Ended := ⟨true, l.passed, .error error, unbilled⟩

def Loop.send (l : Loop) (frame : WsFrame) : Loop := { l with passed := l.passed ++ [.sent frame] }

/-- The first `task-started`: the text and the end of the task go out. -/
def Loop.start (u : Utterance) (writes : Writes) (l : Loop) : Loop ⊕ Ended :=
  let l := { l with started := true }.send (continueTaskFrame u.taskID u.text)
  if !writes.text then .inr (l.fail false .upstreamError)
  else
    let l := l.send (finishTaskFrame u.taskID)
    if !writes.finish then .inr (l.fail false .upstreamError) else .inl l

/-- One round of the read loop. -/
def Loop.turn (u : Utterance) (writes : Writes) (l : Loop) (message : Message) : Loop ⊕ Ended :=
  let l := { l with passed := l.passed ++ [.received message] }
  match message with
  | .binary data =>
    if l.audio.length + data.length > maxAudioBytes then .inr (l.fail false .upstreamError)
    else .inl { l with audio := l.audio ++ data }
  | .text none => .inl l
  | .text (some event) =>
    if event = "task-started" then
      if l.started then .inl l else l.start u writes
    else if event = "task-failed" then .inr (l.fail (decide (l.audio.length = 0)) .upstreamRejected)
    else if event = "task-finished" then
      if l.audio.length = 0 then .inr (l.fail false .upstreamError)
      else .inr ⟨true, l.passed, .ok l.audio, false⟩
    else .inl l

/-- The read loop. -/
def Loop.run (u : Utterance) (writes : Writes) : Loop → List Message → Ended
  | l, [] => l.fail false .upstreamError
  | l, message :: rest =>
    match l.turn u writes message with
    | .inl l => l.run u writes rest
    | .inr ended => ended

/-- A `4xx`. -/
def refuses (status : ℤ) : Bool := decide (400 ≤ status) && decide (status < 500)

/-- `GenerateSpeech`. -/
def generateSpeech (g : Option TTSGen) (u : Utterance) (out : Outside) : Ended :=
  match g with
  | none => ⟨false, [], .error .ttsUnavailable, true⟩
  | some g =>
    if g.base = "" ∨ g.apiKey = "" then ⟨false, [], .error .ttsUnavailable, true⟩
    else
      match inferenceWSURL out.parsed with
      | none => ⟨false, [], .error .internal, true⟩
      | some _ =>
        match out.dial with
        | .failed status deadlineExceeded =>
          if (status.map refuses).getD false then ⟨true, [], .error .upstreamRejected, true⟩
          else if deadlineExceeded then ⟨true, [], .error .upstreamTimeout, false⟩
          else ⟨true, [], .error .upstreamError, false⟩
        | .connected =>
          let l : Loop := Loop.send ⟨[], false, []⟩ (runTaskFrame u.taskID u.model u.voice)
          if !out.writes.run then l.fail false .upstreamError else l.run u out.writes out.messages

/-! ## What passed -/

/-- The audio received, in order. -/
def audioOf (passed : List Passed) : Bytes :=
  passed.flatMap fun
    | .received (.binary data) => data
    | _ => []

/-- The frames of one action that were sent. -/
def sentOf (action : String) (passed : List Passed) : List WsFrame :=
  passed.filterMap fun
    | .sent frame => if frame.action = action then some frame else none
    | .received _ => none

/-- `task-started`, received. -/
def taskStarted : Passed := .received (.text (some "task-started"))

/-- Nothing but the opening is sent before the task has started. -/
def StartedFirst (passed : List Passed) : Prop :=
  ∀ before frame behind, passed = before ++ .sent frame :: behind → frame.action ≠ "run-task" → taskStarted ∈ before

theorem startedFirst_concat {passed : List Passed} {next : Passed} (ordered : StartedFirst passed)
    (behind : ∀ frame, next = .sent frame → frame.action ≠ "run-task" → taskStarted ∈ passed) :
    StartedFirst (passed ++ [next]) := by
  intro before frame rest same other
  rcases List.eq_nil_or_concat rest with rfl | ⟨front, last, rfl⟩
  · obtain ⟨rfl, final⟩ := List.append_inj' same rfl
    exact behind frame (List.singleton_inj.mp final) other
  · rw [List.concat_eq_append, ← List.cons_append, ← List.append_assoc] at same
    exact ordered before frame front (List.append_inj' same rfl).1 other

theorem startedFirst_received {passed : List Passed} (ordered : StartedFirst passed) (message : Message) :
    StartedFirst (passed ++ [.received message]) :=
  startedFirst_concat ordered nofun

@[simp] theorem audioOf_append (passed later : List Passed) :
    audioOf (passed ++ later) = audioOf passed ++ audioOf later := List.flatMap_append

@[simp] theorem sentOf_append (action : String) (passed later : List Passed) :
    sentOf action (passed ++ later) = sentOf action passed ++ sentOf action later := List.filterMap_append

@[simp] theorem audioOf_nil : audioOf [] = [] := rfl

@[simp] theorem sentOf_nil (action : String) : sentOf action [] = [] := rfl

@[simp] theorem audioOf_sent (frame : WsFrame) (later : List Passed) :
    audioOf (.sent frame :: later) = audioOf later := rfl

@[simp] theorem audioOf_binary (data : Bytes) (later : List Passed) :
    audioOf (.received (.binary data) :: later) = data ++ audioOf later := rfl

@[simp] theorem audioOf_text (event : Option String) (later : List Passed) :
    audioOf (.received (.text event) :: later) = audioOf later := rfl

@[simp] theorem sentOf_received (action : String) (message : Message) (later : List Passed) :
    sentOf action (.received message :: later) = sentOf action later := rfl

@[simp] theorem sentOf_sent (action : String) (frame : WsFrame) (later : List Passed) :
    sentOf action (.sent frame :: later) =
      if frame.action = action then frame :: sentOf action later else sentOf action later := by
  by_cases same : frame.action = action <;> simp [sentOf, same]

/-! ## The loop -/

/-- What the loop holds, told by what passed. -/
structure Told (u : Utterance) (l : Loop) : Prop where
  audio : l.audio = audioOf l.passed
  within : l.audio.length ≤ maxAudioBytes
  text : sentOf "continue-task" l.passed = if l.started then [continueTaskFrame u.taskID u.text] else []
  finish : sentOf "finish-task" l.passed = if l.started then [finishTaskFrame u.taskID] else []
  ordered : StartedFirst l.passed
  started : l.started = true → taskStarted ∈ l.passed

/-- What holds of a session that has ended. -/
structure Sound (u : Utterance) (e : Ended) : Prop where
  text : sentOf "continue-task" e.passed = [] ∨
    sentOf "continue-task" e.passed = [continueTaskFrame u.taskID u.text]
  finish : sentOf "finish-task" e.passed = [] ∨ sentOf "finish-task" e.passed = [finishTaskFrame u.taskID]
  ordered : StartedFirst e.passed
  answered : ∀ audio, e.result = .ok audio →
    e.passed.getLast? = some (.received (.text (some "task-finished"))) ∧
      audio = audioOf e.passed ∧ audio ≠ [] ∧ audio.length ≤ maxAudioBytes
  unbilled : e.unbilled = true →
    e.passed.getLast? = some (.received (.text (some "task-failed"))) ∧ audioOf e.passed = []

variable {u : Utterance} {writes : Writes} {l next : Loop} {message : Message} {e : Ended}

/-- A session that fails with the charge kept. -/
theorem sound_fail {error : APIError}
    (text : sentOf "continue-task" l.passed = [] ∨
      sentOf "continue-task" l.passed = [continueTaskFrame u.taskID u.text])
    (finish : sentOf "finish-task" l.passed = [] ∨ sentOf "finish-task" l.passed = [finishTaskFrame u.taskID])
    (ordered : StartedFirst l.passed) : Sound u (l.fail false error) :=
  ⟨text, finish, ordered, nofun, nofun⟩

theorem Told.text_sent (told : Told u l) : sentOf "continue-task" l.passed = [] ∨
    sentOf "continue-task" l.passed = [continueTaskFrame u.taskID u.text] := by
  rw [told.text]
  cases l.started
  · exact .inl rfl
  · exact .inr rfl

theorem Told.finish_sent (told : Told u l) : sentOf "finish-task" l.passed = [] ∨
    sentOf "finish-task" l.passed = [finishTaskFrame u.taskID] := by
  rw [told.finish]
  cases l.started
  · exact .inl rfl
  · exact .inr rfl

theorem Told.fail (told : Told u l) (error : APIError) : Sound u (l.fail false error) :=
  sound_fail told.text_sent told.finish_sent told.ordered

/-- A message that is not audio is only recorded. -/
theorem Told.received (told : Told u l) (event : Option String) :
    Told u { l with passed := l.passed ++ [.received (.text event)] } where
  audio := by simpa using told.audio
  within := told.within
  text := by simpa using told.text
  finish := by simpa using told.finish
  ordered := startedFirst_received told.ordered _
  started started := List.mem_append_left _ (told.started started)

/-- The text and the end of the task go out once, behind the event that asks for them. -/
theorem Told.start (told : Told u l) (fresh : l.started = false) (event : taskStarted ∈ l.passed) :
    (∀ next, l.start u writes = .inl next → Told u next) ∧ ∀ e, l.start u writes = .inr e → Sound u e := by
  have noText : sentOf "continue-task" l.passed = [] := told.text.trans (if_neg (by simp [fresh]))
  have noFinish : sentOf "finish-task" l.passed = [] := told.finish.trans (if_neg (by simp [fresh]))
  have ordered : StartedFirst (l.passed ++ [.sent (continueTaskFrame u.taskID u.text)]) :=
    startedFirst_concat told.ordered fun _ _ _ => event
  have ordered' : StartedFirst (l.passed ++ [.sent (continueTaskFrame u.taskID u.text)] ++
      [.sent (finishTaskFrame u.taskID)]) :=
    startedFirst_concat ordered fun _ _ _ => List.mem_append_left _ event
  unfold Loop.start Loop.send
  dsimp only
  constructor
  · intro next ran
    split at ran
    · cases ran
    · split at ran
      · cases ran
      · cases ran
        refine ⟨?_, told.within, ?_, ?_, ordered', fun _ => ?_⟩
        · simpa using told.audio
        · simp [noText, continueTaskFrame, finishTaskFrame]
        · simp [noFinish, continueTaskFrame, finishTaskFrame]
        · exact List.mem_append_left _ (List.mem_append_left _ event)
  · intro e ran
    split at ran
    · cases ran
      refine sound_fail (.inr ?_) (.inl ?_) ordered
      · simp [noText, continueTaskFrame]
      · simp [noFinish, continueTaskFrame]
    · split at ran
      · cases ran
        refine sound_fail (.inr ?_) (.inr ?_) ordered'
        · simp [noText, continueTaskFrame, finishTaskFrame]
        · simp [noFinish, continueTaskFrame, finishTaskFrame]
      · cases ran

/-- One message. -/
theorem Told.turn (told : Told u l) (message : Message) :
    (∀ next, l.turn u writes message = .inl next → Told u next) ∧
      ∀ e, l.turn u writes message = .inr e → Sound u e := by
  cases message with
  | binary data =>
    simp only [Loop.turn]
    split
    · rename_i past
      refine ⟨nofun, fun e ran => ?_⟩
      cases ran
      refine sound_fail ?_ ?_ (startedFirst_received told.ordered _)
      · simpa using told.text_sent
      · simpa using told.finish_sent
    · rename_i fits
      refine ⟨fun next ran => ?_, nofun⟩
      cases ran
      refine ⟨?_, ?_, ?_, ?_, startedFirst_received told.ordered _, fun started => ?_⟩
      · simp [told.audio]
      · simpa using fits
      · simpa using told.text
      · simpa using told.finish
      · exact List.mem_append_left _ (told.started started)
  | text event =>
    have received := told.received event
    cases event with
    | none =>
      refine ⟨fun next ran => ?_, nofun⟩
      cases ran
      exact received
    | some event =>
      simp only [Loop.turn]
      split
      · rename_i started
        split
        · refine ⟨fun next ran => ?_, nofun⟩
          cases ran
          exact received
        · rename_i fresh
          refine received.start (by simpa using fresh) ?_
          rw [started]
          exact List.mem_append_right _ (List.mem_singleton_self _)
      · split
        · rename_i failed
          refine ⟨nofun, fun e ran => ?_⟩
          cases ran
          refine ⟨received.text_sent, received.finish_sent, received.ordered, nofun, fun silent => ?_⟩
          refine ⟨by simp [Loop.fail, failed], ?_⟩
          have heard := received.audio
          rw [List.length_eq_zero_iff.mp (of_decide_eq_true silent)] at heard
          exact heard.symm
        · split
          · rename_i finished
            split
            · refine ⟨nofun, fun e ran => ?_⟩
              cases ran
              exact received.fail _
            · rename_i some_
              refine ⟨nofun, fun e ran => ?_⟩
              cases ran
              refine ⟨received.text_sent, received.finish_sent, received.ordered, fun audio same => ?_, nofun⟩
              cases same
              exact ⟨by simp [finished], received.audio, fun empty => some_ (by rw [empty]; rfl), told.within⟩
          · refine ⟨fun next ran => ?_, nofun⟩
            cases ran
            exact received

/-- Any run of messages. -/
theorem Told.run (told : Told u l) (messages : List Message) : Sound u (l.run u writes messages) := by
  induction messages generalizing l with
  | nil => exact told.fail _
  | cons message rest ih =>
    obtain ⟨onward, ended⟩ := @Told.turn _ writes _ told message
    rw [Loop.run]
    split
    · rename_i next ran
      exact ih (onward next ran)
    · rename_i e ran
      exact ended e ran

/-! ## Sessions -/

theorem told_opening (u : Utterance) :
    Told u (Loop.send ⟨[], false, []⟩ (runTaskFrame u.taskID u.model u.voice)) where
  audio := rfl
  within := Nat.zero_le _
  text := rfl
  finish := rfl
  ordered := startedFirst_concat (fun _ _ _ same => absurd (congrArg List.length same) (by simp)) fun frame same other => by
    cases same
    exact absurd rfl other
  started := nofun

/-- A session either stops before its connection, or is sound. -/
theorem generateSpeech_cases (g : Option TTSGen) (u : Utterance) (out : Outside) :
    ((generateSpeech g u out).passed = [] ∧ (∀ audio, (generateSpeech g u out).result ≠ .ok audio) ∧
      ((generateSpeech g u out).unbilled = true → (generateSpeech g u out).dialed = false ∨
        ∃ status deadlineExceeded, out.dial = .failed (some status) deadlineExceeded ∧ refuses status = true)) ∨
    Sound u (generateSpeech g u out) := by
  unfold generateSpeech
  split
  · exact .inl ⟨rfl, nofun, fun _ => .inl rfl⟩
  · split
    · exact .inl ⟨rfl, nofun, fun _ => .inl rfl⟩
    · split
      · exact .inl ⟨rfl, nofun, fun _ => .inl rfl⟩
      · split
        · rename_i status deadlineExceeded dial
          split
          · rename_i refused
            refine .inl ⟨rfl, nofun, fun _ => .inr ?_⟩
            cases status with
            | none => cases refused
            | some status => exact ⟨status, deadlineExceeded, dial, refused⟩
          · split
            · exact .inl ⟨rfl, nofun, nofun⟩
            · exact .inl ⟨rfl, nofun, nofun⟩
        · split
          · exact .inr ((told_opening u).fail _)
          · exact .inr ((told_opening u).run out.messages)

/-- Whatever the provider sends and wherever the connection fails: the text goes out at most
once and behind the start of the task, audio is what was received up to the end of the task,
and only a session that brought none of it is reported unbilled. -/
theorem generateSpeech_sound (g : Option TTSGen) (u : Utterance) (out : Outside) :
    ((sentOf "continue-task" (generateSpeech g u out).passed).length ≤ 1 ∧
      (sentOf "finish-task" (generateSpeech g u out).passed).length ≤ 1 ∧
      (∀ frame ∈ sentOf "continue-task" (generateSpeech g u out).passed, frame = continueTaskFrame u.taskID u.text) ∧
      StartedFirst (generateSpeech g u out).passed) ∧
    (∀ audio, (generateSpeech g u out).result = .ok audio →
      (generateSpeech g u out).passed.getLast? = some (.received (.text (some "task-finished"))) ∧
        audio = audioOf (generateSpeech g u out).passed ∧ audio ≠ [] ∧ audio.length ≤ maxAudioBytes) ∧
    ((generateSpeech g u out).unbilled = true →
      ((generateSpeech g u out).dialed = false ∧ (generateSpeech g u out).passed = []) ∨
        (∃ status deadlineExceeded, out.dial = .failed (some status) deadlineExceeded ∧ refuses status = true) ∨
        ((generateSpeech g u out).passed.getLast? = some (.received (.text (some "task-failed"))) ∧
          audioOf (generateSpeech g u out).passed = [])) ∧
    (audioOf (generateSpeech g u out).passed ≠ [] → (generateSpeech g u out).unbilled = false) := by
  rcases generateSpeech_cases g u out with ⟨none_, failed, refused⟩ | sound
  · rw [none_]
    refine ⟨⟨Nat.zero_le _, Nat.zero_le _, nofun, ?_⟩, fun audio same => absurd same (failed audio), fun unbilled => ?_,
      fun some_ => absurd rfl some_⟩
    · intro before frame behind same
      exact absurd (congrArg List.length same) (by simp)
    · rcases refused unbilled with unsent | turnedAway
      · exact .inl ⟨unsent, rfl⟩
      · exact .inr (.inl turnedAway)
  · refine ⟨⟨?_, ?_, ?_, sound.ordered⟩, sound.answered, fun unbilled => .inr (.inr (sound.unbilled unbilled)),
      fun some_ => ?_⟩
    · rcases sound.text with none_ | one <;> simp [*]
    · rcases sound.finish with none_ | one <;> simp [*]
    · rcases sound.text with none_ | one <;> simp [*]
    · cases unbilled : (generateSpeech g u out).unbilled with
      | false => rfl
      | true => exact absurd (sound.unbilled unbilled).2 some_

def sampleUtterance : Utterance := ⟨"task", "qwen-audio-3.0-tts-flash", "hello", "longanhuan_v3.6"⟩

/-- The start comes twice, and audio in two pieces. -/
def sampleOutside : Outside where
  parsed := some ("https", "dashscope.example")
  dial := .connected
  writes := ⟨true, true, true⟩
  messages := [.text (some "task-started"), .binary [82, 73], .text none, .text (some "task-started"),
    .binary [70, 70], .text (some "task-finished")]

theorem generateSpeech_sound_finished :
    (generateSpeech (some ⟨"https://dashscope.example", "key"⟩) sampleUtterance sampleOutside).result =
        .ok [82, 73, 70, 70] ∧
      [82, 73, 70, 70] = audioOf (generateSpeech (some ⟨"https://dashscope.example", "key"⟩) sampleUtterance
        sampleOutside).passed ∧
      (generateSpeech (some ⟨"https://dashscope.example", "key"⟩) sampleUtterance sampleOutside).unbilled = false := by
  obtain ⟨_, answered, _, charged⟩ :=
    generateSpeech_sound (some ⟨"https://dashscope.example", "key"⟩) sampleUtterance sampleOutside
  have result : (generateSpeech (some ⟨"https://dashscope.example", "key"⟩) sampleUtterance sampleOutside).result =
      .ok [82, 73, 70, 70] := by rfl
  exact ⟨result, (answered _ result).2.1, charged (by decide)⟩

end AnselmGateway.SpeechSynthesis
