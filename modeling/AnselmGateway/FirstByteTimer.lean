import AnselmGateway.Foundation.Run
import AnselmGateway.Upstream

/-! The race inside `tryOnce`: the attempt waits for the network and then disarms the
first-byte timer, the timer fires in a goroutine of its own, and the caller may go away
at any moment. Both sides take the one armed flag by a compare-and-swap, and each of
their steps may come between any two of the other. -/
namespace AnselmGateway.FirstByteTimer
open Foundation Billing Upstream

/-! ## The race -/

/-- The function of `AfterFunc`, step by step. -/
inductive Timer where
  | pending
  /-- It won the armed flag. -/
  | claimed
  /-- It has set `timedOut`. -/
  | marked
  /-- It has called `cancelUp`. -/
  | finished
  /-- It found the flag taken. -/
  | lost
  deriving DecidableEq

/-- What the attempt has got when it comes to disarm the timer. -/
inductive Got where
  | unbuilt
  | sendError (err : SendError)
  | refused (resp : Response)
  | peekError (err : NetError)
  | firstByte

/-- The attempt, step by step. -/
inductive Attempt where
  | sending
  | peeking
  | disarming (got : Got)
  | releasing (got : Got) (won : Bool)
  | classifying (got : Got) (won : Bool)
  | handedOff
  | failed (got : Got) (won : Bool) (o : Outcome)

structure Race where
  armed : Bool
  timedOut : Bool
  /-- `ctx` of the caller is done. -/
  parentDone : Bool
  /-- `cancelUp` was called by the timer. -/
  timerCanceled : Bool
  /-- `cancelUp` was called by the attempt. -/
  selfCanceled : Bool
  timer : Timer
  attempt : Attempt

inductive Action where
  | timer
  | parent
  /-- `c.http.Do` returns. -/
  | respond
  /-- `Peek` returns. -/
  | peek (result : Except NetError Unit)
  | attempt

/-- The network error an attempt failed with. -/
def Got.netError : Got → Option NetError
  | .sendError (.network err) | .peekError err => some err
  | _ => none

/-- What `Peek` returned, if it was asked. -/
def Got.peek : Got → Except NetError Unit
  | .peekError err => .error err
  | _ => .ok ()

section Race
variable (env : Environment) (t : Transport) (built : Bool) (leg : Leg)

/-- What the attempt has got once `c.http.Do` is back; a 2xx is peeked first. -/
def afterSend : Attempt :=
  match (t.roundTrip env leg).1 with
  | .error err => .disarming (.sendError err)
  | .ok resp =>
    if resp.statusCode < 200 ∨ resp.statusCode ≥ 300 then .disarming (.refused resp) else .peeking

/-- The outcome of an attempt that hands nothing off. -/
def classify (parentDone timedOut : Bool) : Got → Outcome
  | .unbuilt => resolve .upstream
  | .sendError err => resolve (classifyConnectErr err parentDone timedOut)
  | .refused resp =>
    let cls := classifyStatus resp.statusCode
    if cls = .upstreamRejected then resolveRejected (rejectionReason env resp.body) else resolve cls
  | .peekError err => resolve (classifyPeekErr err parentDone timedOut)
  | .firstByte => resolve .timeout

/-- The attempt of the sequential `tryOnce` that gets the same and reads the flags so. -/
def sequential (got : Got) (won parentDone timedOut : Bool) : Try :=
  ⟨built, leg, parentDone, timedOut, got.peek, won⟩

def start : Race where
  armed := true
  timedOut := false
  parentDone := false
  timerCanceled := false
  selfCanceled := false
  timer := .pending
  attempt := if built then .sending else .disarming .unbuilt

/-- The timer's next step. -/
def fire (s : Race) : Race :=
  match s.timer with
  | .pending =>
    if s.armed then { s with armed := false, timer := .claimed } else { s with timer := .lost }
  | .claimed => { s with timedOut := true, timer := .marked }
  | .marked => { s with timerCanceled := true, timer := .finished }
  | .finished | .lost => s

/-- The attempt's next own step. Nothing is made of `Stop`: the function may have been
started already. -/
def proceed (s : Race) : Race :=
  match s.attempt with
  | .disarming got => { s with armed := false, attempt := .releasing got s.armed }
  | .releasing .firstByte true => { s with attempt := .handedOff }
  | .releasing got won => { s with selfCanceled := true, attempt := .classifying got won }
  | .classifying got won =>
    { s with attempt := .failed got won (classify env s.parentDone s.timedOut got) }
  | .sending | .peeking | .handedOff | .failed _ _ _ => s

def respond (s : Race) : Race :=
  match s.attempt with
  | .sending => { s with attempt := afterSend env t leg }
  | _ => s

/-- What the attempt has got once `Peek` is back. -/
def afterPeek : Except NetError Unit → Got
  | .error err => .peekError err
  | .ok () => .firstByte

def peek (result : Except NetError Unit) (s : Race) : Race :=
  match s.attempt with
  | .peeking => { s with attempt := .disarming (afterPeek result) }
  | _ => s

def step (s : Race) : Action → Race
  | .timer => fire s
  | .parent => { s with parentDone := true }
  | .respond => respond env t leg s
  | .peek result => peek result s
  | .attempt => proceed env s

/-- What is relied on of the network: it reports a canceled context only once somebody
has canceled it. -/
def Plausible (s : Race) : Action → Prop
  | .respond => ∀ err, (t.roundTrip env leg).1 = .error (.network err) → err.canceled = true →
    s.parentDone = true ∨ s.timerCanceled = true
  | .peek (.error err) => err.canceled = true → s.parentDone = true ∨ s.timerCanceled = true
  | _ => True

/-! ## The invariant -/

/-- The attempt got what the network sent. -/
def Matches : Got → Prop
  | .unbuilt => built = false
  | .sendError err => built = true ∧ (t.roundTrip env leg).1 = .error err
  | .refused resp => built = true ∧ (t.roundTrip env leg).1 = .ok resp ∧
    (resp.statusCode < 200 ∨ resp.statusCode ≥ 300)
  | .peekError _ | .firstByte => built = true ∧ ∃ resp, (t.roundTrip env leg).1 = .ok resp ∧
    ¬(resp.statusCode < 200 ∨ resp.statusCode ≥ 300)

/-- Whether the timer took the flag. -/
def Timer.won : Timer → Bool
  | .pending | .lost => false
  | .claimed | .marked | .finished => true

/-- An error of a canceled context has its cause. -/
def Caused (got : Got) (s : Race) : Prop :=
  ∀ err, got.netError = some err → err.canceled = true →
    s.parentDone = true ∨ s.timerCanceled = true

/-- What holds of the attempt at each of its steps. -/
def At (s : Race) : Attempt → Prop
  | .sending => built = true ∧ s.armed = !s.timer.won ∧ s.selfCanceled = false
  | .peeking => s.armed = !s.timer.won ∧ s.selfCanceled = false ∧ built = true ∧
    ∃ resp, (t.roundTrip env leg).1 = .ok resp ∧
      ¬(resp.statusCode < 200 ∨ resp.statusCode ≥ 300)
  | .disarming got => s.armed = !s.timer.won ∧ s.selfCanceled = false ∧
    Matches env t built leg got ∧ Caused got s
  | .releasing got won => s.armed = false ∧ won = !s.timer.won ∧ s.selfCanceled = false ∧
    Matches env t built leg got ∧ Caused got s
  | .classifying got won => s.armed = false ∧ won = !s.timer.won ∧ s.selfCanceled = true ∧
    Matches env t built leg got ∧ Caused got s ∧ (got = .firstByte → won = false)
  | .handedOff => s.armed = false ∧ s.timer.won = false ∧ s.selfCanceled = false ∧
    Matches env t built leg .firstByte
  | .failed got won o => s.armed = false ∧ won = !s.timer.won ∧ s.selfCanceled = true ∧
    Matches env t built leg got ∧ (got = .firstByte → won = false) ∧
    ∃ parentDone timedOut, o = classify env parentDone timedOut got ∧
      (parentDone = true → s.parentDone = true) ∧ (timedOut = true → s.timer.won = true) ∧
      ∀ err, got.netError = some err → err.canceled = true → parentDone = true ∨ timedOut = true

/-- The timer cancels only after it has said so, and only if it took the flag. -/
structure Sound (s : Race) : Prop where
  marks : s.timedOut = true ↔ s.timer = .marked ∨ s.timer = .finished
  cancels : s.timerCanceled = true ↔ s.timer = .finished
  attempt : At env t built leg s s.attempt

variable {env t built leg} {s s' : Race}

theorem sound_start : Sound env t built leg (start built) := by
  refine ⟨by simp [start], by simp [start], ?_⟩
  unfold start
  cases built with
  | true => exact ⟨rfl, rfl, rfl⟩
  | false => exact ⟨rfl, rfl, rfl, nofun⟩

/-- A canceled context was marked before, if it was the timer. -/
theorem Sound.marked (sound : Sound env t built leg s) (canceled : s.timerCanceled = true) :
    s.timedOut = true :=
  sound.marks.mpr (.inr (sound.cancels.mp canceled))

theorem Sound.timer_won (sound : Sound env t built leg s) (marked : s.timedOut = true) :
    s.timer.won = true := by
  rcases sound.marks.mp marked with same | same <;> rw [same] <;> rfl

/-- What holds of the attempt is kept by others who take the flag fairly and whose
cancellations stay. -/
theorem At.others {attempt : Attempt} (at_ : At env t built leg s attempt)
    (armed : s.armed = !s.timer.won → s'.armed = !s'.timer.won)
    (disarmed : s.armed = false → s'.armed = false ∧ s'.timer.won = s.timer.won)
    (self : s'.selfCanceled = s.selfCanceled)
    (parent : s.parentDone = true → s'.parentDone = true)
    (canceled : s.timerCanceled = true → s'.timerCanceled = true) :
    At env t built leg s' attempt := by
  have caused {got : Got} (before : Caused got s) : Caused got s' := fun err failed done =>
    (before err failed done).imp parent canceled
  cases attempt with
  | sending => exact ⟨at_.1, armed at_.2.1, self.trans at_.2.2⟩
  | peeking => exact ⟨armed at_.1, self.trans at_.2.1, at_.2.2⟩
  | disarming got => exact ⟨armed at_.1, self.trans at_.2.1, at_.2.2.1, caused at_.2.2.2⟩
  | releasing got won =>
    obtain ⟨taken, flag, before, same, cause⟩ := at_
    obtain ⟨taken', flag'⟩ := disarmed taken
    exact ⟨taken', by rw [flag', flag], self.trans before, same, caused cause⟩
  | classifying got won =>
    obtain ⟨taken, flag, before, same, cause, byte⟩ := at_
    obtain ⟨taken', flag'⟩ := disarmed taken
    exact ⟨taken', by rw [flag', flag], self.trans before, same, caused cause, byte⟩
  | handedOff =>
    obtain ⟨taken, flag, before, same⟩ := at_
    obtain ⟨taken', flag'⟩ := disarmed taken
    exact ⟨taken', flag'.trans flag, self.trans before, same⟩
  | failed got won o =>
    obtain ⟨taken, flag, before, same, byte, done, timedOut, outcome, parentDone, timerWon, cause⟩ :=
      at_
    obtain ⟨taken', flag'⟩ := disarmed taken
    exact ⟨taken', by rw [flag', flag], self.trans before, same, byte, done, timedOut, outcome,
      fun read => parent (parentDone read), fun read => flag'.trans (timerWon read), cause⟩

theorem sound_fire (sound : Sound env t built leg s) : Sound env t built leg (fire s) := by
  unfold fire
  cases timer : s.timer with
  | pending =>
    dsimp only
    have unmarked : s.timedOut = false := by
      have marks := sound.marks
      simp only [timer, reduceCtorEq, or_self, iff_false, Bool.not_eq_true] at marks
      exact marks
    have uncanceled : s.timerCanceled = false := by
      have cancels := sound.cancels
      simp only [timer, reduceCtorEq, iff_false, Bool.not_eq_true] at cancels
      exact cancels
    split
    · rename_i armed
      refine ⟨by simp [unmarked], by simp [uncanceled], ?_⟩
      refine sound.attempt.others (fun _ => rfl) (fun taken => ?_) rfl id id
      rw [taken] at armed
      cases armed
    · rename_i taken
      refine ⟨by simp [unmarked], by simp [uncanceled], ?_⟩
      refine sound.attempt.others (fun fair => ?_) (fun taken => ⟨taken, ?_⟩) rfl id id
      · rw [timer] at fair
        exact absurd fair taken
      · rw [timer]
        rfl
  | claimed =>
    have uncanceled : s.timerCanceled = false := by
      have cancels := sound.cancels
      simp only [timer, reduceCtorEq, iff_false, Bool.not_eq_true] at cancels
      exact cancels
    refine ⟨by simp, by simp [uncanceled], ?_⟩
    refine sound.attempt.others (fun fair => ?_) (fun taken => ⟨taken, ?_⟩) rfl id id
    · rw [timer] at fair
      exact fair
    · rw [timer]
      rfl
  | marked =>
    have marked : s.timedOut = true := sound.marks.mpr (.inl timer)
    refine ⟨by simp [marked], by simp, ?_⟩
    refine sound.attempt.others (fun fair => ?_) (fun taken => ⟨taken, ?_⟩) rfl id fun _ => rfl
    · rw [timer] at fair
      exact fair
    · rw [timer]
      rfl
  | finished => exact sound
  | lost => exact sound

theorem sound_proceed (sound : Sound env t built leg s) : Sound env t built leg (proceed env s) := by
  have at_ := sound.attempt
  unfold proceed
  split
  · rename_i got attempt
    rw [attempt] at at_
    obtain ⟨armed, self, same, cause⟩ := at_
    exact ⟨sound.marks, sound.cancels, rfl, armed, self, same, cause⟩
  · rename_i attempt
    rw [attempt] at at_
    obtain ⟨taken, flag, self, same, _⟩ := at_
    exact ⟨sound.marks, sound.cancels, taken, by simpa using flag, self, same⟩
  · rename_i got won other attempt
    rw [attempt] at at_
    obtain ⟨taken, flag, _, same, cause⟩ := at_
    refine ⟨sound.marks, sound.cancels, taken, flag, rfl, same, cause, ?_⟩
    rintro rfl
    cases won with
    | true => exact absurd rfl (other rfl)
    | false => rfl
  · rename_i got won attempt
    rw [attempt] at at_
    obtain ⟨taken, flag, self, same, cause, byte⟩ := at_
    refine ⟨sound.marks, sound.cancels, taken, flag, self, same, byte, s.parentDone, s.timedOut,
      rfl, id, sound.timer_won, fun err failed canceled => ?_⟩
    exact (cause err failed canceled).imp id sound.marked
  · exact sound
  · exact sound
  · exact sound
  · exact sound

theorem sound_step (action : Action) (credible : Plausible env t leg s action)
    (sound : Sound env t built leg s) : Sound env t built leg (step env t leg s action) := by
  have at_ := sound.attempt
  cases action with
  | timer => exact sound_fire sound
  | attempt => exact sound_proceed sound
  | parent =>
    refine ⟨sound.marks, sound.cancels, ?_⟩
    exact at_.others id (fun taken => ⟨taken, rfl⟩) rfl (fun _ => rfl) id
  | respond =>
    change Sound env t built leg (respond env t leg s)
    unfold respond
    split
    · rename_i attempt
      rw [attempt] at at_
      obtain ⟨made, armed, self⟩ := at_
      refine ⟨sound.marks, sound.cancels, ?_⟩
      change At env t built leg _ (afterSend env t leg)
      unfold afterSend
      split
      · rename_i err returned
        refine ⟨armed, self, ⟨made, returned⟩, fun err' failed canceled => ?_⟩
        cases err with
        | network cause =>
          cases failed
          exact credible _ returned canceled
        | allKeysGated => cases failed
        | noUsableAPIKey => cases failed
        | keyOpen => cases failed
      · rename_i resp returned
        split
        · rename_i refused
          exact ⟨armed, self, ⟨made, returned, refused⟩, nofun⟩
        · rename_i fine
          exact ⟨armed, self, made, resp, returned, fine⟩
    · exact sound
  | peek result =>
    change Sound env t built leg (peek result s)
    unfold peek
    split
    · rename_i attempt
      rw [attempt] at at_
      obtain ⟨armed, self, made, resp, returned, fine⟩ := at_
      cases result with
      | error err =>
        refine ⟨sound.marks, sound.cancels, armed, self, ⟨made, resp, returned, fine⟩, ?_⟩
        intro err' failed canceled
        cases failed
        exact credible canceled
      | ok value =>
        exact ⟨sound.marks, sound.cancels, armed, self, ⟨made, resp, returned, fine⟩, nofun⟩
    · exact sound

/-! ## Runs -/

theorem sound_run {schedule : List Action}
    (credible : AllAlong (step env t leg) (Plausible env t leg) (start built) schedule) :
    Sound env t built leg (runSteps (step env t leg) (start built) schedule) :=
  runSteps_invariant_along (fun _ action => sound_step action) sound_start credible

/-- `tryOnce` makes of the flags the attempt read, of what it got and of who took the flag what the
race made of them. -/
theorem tryOnce_sequential {got : Got} {won parentDone timedOut : Bool}
    (same : Matches env t built leg got) (byte : got = .firstByte → won = false) :
    (tryOnce env t (sequential built leg got won parentDone timedOut)).1 =
      classify env parentDone timedOut got := by
  cases got with
  | unbuilt => simp [sequential, tryOnce, show built = false from same, classify]
  | sendError err =>
    obtain ⟨made, returned⟩ := same
    rcases ran : t.roundTrip env leg with ⟨result, after⟩
    rw [ran] at returned
    simp only at returned
    simp [sequential, tryOnce, made, ran, returned, classify]
  | refused resp =>
    obtain ⟨made, returned, refused⟩ := same
    rcases ran : t.roundTrip env leg with ⟨result, after⟩
    rw [ran] at returned
    simp only at returned
    simp only [sequential, tryOnce, made, Bool.not_true, Bool.false_eq_true, if_false, ran, returned,
      if_pos refused, classify]
    split <;> rfl
  | peekError err =>
    obtain ⟨made, resp, returned, fine⟩ := same
    rcases ran : t.roundTrip env leg with ⟨result, after⟩
    rw [ran] at returned
    simp only at returned
    simp only [sequential, Got.peek, tryOnce, made, Bool.not_true, Bool.false_eq_true, if_false, ran,
      returned, if_neg fine, classify]
  | firstByte =>
    obtain ⟨made, resp, returned, fine⟩ := same
    rcases ran : t.roundTrip env leg with ⟨result, after⟩
    rw [ran] at returned
    simp only at returned
    simp only [sequential, Got.peek, tryOnce, made, Bool.not_true, Bool.false_eq_true, if_false, ran,
      returned, if_neg fine, byte rfl, Bool.not_false, if_true, classify]

theorem tryOnce_handedOff (same : Matches env t built leg .firstByte) (parentDone timedOut : Bool) :
    (tryOnce env t (sequential built leg .firstByte true parentDone timedOut)).1.faultClass = .ok := by
  obtain ⟨made, resp, returned, fine⟩ := same
  rcases ran : t.roundTrip env leg with ⟨result, after⟩
  rw [ran] at returned
  simp only at returned
  simp only [sequential, Got.peek, tryOnce, made, Bool.not_true, Bool.false_eq_true, if_false, ran,
    returned, if_neg fine]

/-- Once handed off, a stream stays so, and neither side cancels it. -/
theorem handedOff_step (action : Action) (off : s.attempt = .handedOff) (taken : s.armed = false)
    (lost : s.timer = .pending ∨ s.timer = .lost) :
    (step env t leg s action).attempt = .handedOff ∧ (step env t leg s action).armed = false ∧
      ((step env t leg s action).timer = .pending ∨ (step env t leg s action).timer = .lost) ∧
      (step env t leg s action).timerCanceled = s.timerCanceled ∧
      (step env t leg s action).selfCanceled = s.selfCanceled := by
  cases action with
  | timer =>
    change (fire s).attempt = _ ∧ _
    rcases lost with same | same
    · simp [step, fire, same, taken, off]
    · simp [step, fire, same, taken, off]
  | parent => exact ⟨off, taken, lost, rfl, rfl⟩
  | respond => simp [step, respond, off, taken, lost]
  | peek result => simp [step, peek, off, taken, lost]
  | attempt => simp [step, proceed, off, taken, lost]

variable (env t built leg) in
/-- How an attempt ends in the race. -/
structure Ended (s : Race) : Prop where
  /-- A stream is handed off only where the timer has not taken the flag and `tryOnce` succeeds,
  whatever the other flags; then nobody but the caller cancels what it reads from, however the race
  goes on. -/
  handedOff : s.attempt = .handedOff → s.timer.won = false ∧
    (∀ parentDone timedOut,
      (tryOnce env t (sequential built leg .firstByte true parentDone timedOut)).1.faultClass = .ok) ∧
      ∀ later, (runSteps (step env t leg) s later).attempt = .handedOff ∧
        (runSteps (step env t leg) s later).timerCanceled = false ∧
        (runSteps (step env t leg) s later).selfCanceled = false
  /-- Otherwise what it read from is released, and the outcome is that of `tryOnce` for what the
  attempt got, for who took the flag, and for flags that are set only if the caller is gone and the
  timer has won. -/
  failed : ∀ got won o, s.attempt = .failed got won o →
    s.selfCanceled = true ∧ s.armed = false ∧ won = !s.timer.won ∧
      ∃ parentDone timedOut, (parentDone = true → s.parentDone = true) ∧
        (timedOut = true → s.timer.won = true) ∧
        (tryOnce env t (sequential built leg got won parentDone timedOut)).1 = o
  /-- A first byte is lost only to the timer, and is a timeout that may have been charged. -/
  firstByte : ∀ won o, s.attempt = .failed .firstByte won o →
    s.timer.won = true ∧ o = resolve .timeout ∧ o.exposure = .chargePossible
  /-- Where the network reports a canceled context, the timer is blamed if the caller
  stayed, and the caller if the timer came too late. -/
  blamed : ∀ got won o err, s.attempt = .failed got won o → got.netError = some err →
    err.canceled = true → (s.parentDone = false → o = resolve .timeout) ∧
      (s.timer.won = false → o = resolve .clientCancel)

variable (env t built leg)

/-- **The first-byte race.** In every interleaving of the timer's and the attempt's steps,
the caller's cancellation and the network's answers, the attempt ends as the sequential
`tryOnce` does for what happened: no stream that is handed off is ever canceled by the timer,
everything else is released, a first byte the timer came before is a timeout, and a cancellation is
blamed on the one who caused it. -/
theorem first_byte_race (schedule : List Action)
    (credible : AllAlong (step env t leg) (Plausible env t leg) (start built) schedule) :
    Ended env t built leg (runSteps (step env t leg) (start built) schedule) := by
  have sound := sound_run credible
  generalize runSteps (step env t leg) (start built) schedule = s at sound
  have at_ := sound.attempt
  refine ⟨fun off => ?_, fun got won o attempt => ?_, fun won o attempt => ?_,
    fun got won o err attempt failed canceled => ?_⟩
  · rw [off] at at_
    obtain ⟨taken, notWon, self, same⟩ := at_
    have lost : s.timer = .pending ∨ s.timer = .lost := by
      cases timer : s.timer <;> simp [timer, Timer.won] at notWon ⊢
    have uncanceled : s.timerCanceled = false := by
      by_contra done
      have finished := sound.cancels.mp (by simpa using done)
      simp [finished] at lost
    refine ⟨notWon, tryOnce_handedOff same, fun later => ?_⟩
    clear sound
    induction later generalizing s with
    | nil => exact ⟨off, uncanceled, self⟩
    | cons action rest ih =>
      obtain ⟨off', taken', lost', timer', self'⟩ := handedOff_step action off taken lost
      have notWon' : (step env t leg s action).timer.won = false := by
        rcases lost' with same | same <;> rw [same] <;> rfl
      exact ih _ off' taken' notWon' (self'.trans self) lost' (timer'.trans uncanceled)
  · rw [attempt] at at_
    obtain ⟨taken, flag, self, same, byte, parentDone, timedOut, rfl, parent, timer, _⟩ := at_
    exact ⟨self, taken, flag, parentDone, timedOut, parent, timer, tryOnce_sequential same byte⟩
  · rw [attempt] at at_
    obtain ⟨_, flag, _, _, byte, _, _, rfl, _⟩ := at_
    rw [byte rfl] at flag
    exact ⟨by simpa using flag.symm, rfl, rfl⟩
  · rw [attempt] at at_
    obtain ⟨_, _, _, _, _, parentDone, timedOut, rfl, parent, timer, cause⟩ := at_
    have classified : classify env parentDone timedOut got =
        resolve (classifyPeekErr err parentDone timedOut) := by
      cases got with
      | sendError other => cases other <;> cases failed; rfl
      | peekError other => cases failed; rfl
      | unbuilt | refused | firstByte => cases failed
    rw [classified]
    rcases cause err failed canceled with gone | late
    · refine ⟨fun stayed => ?_, fun tooLate => ?_⟩
      · rw [parent gone] at stayed
        cases stayed
      · have unmarked : timedOut = false := by
          by_contra marked
          rw [timer (by simpa using marked)] at tooLate
          cases tooLate
        simp [classifyPeekErr, gone, unmarked, canceled]
    · refine ⟨fun _ => by simp [classifyPeekErr, late], fun tooLate => ?_⟩
      rw [timer late] at tooLate
      cases tooLate

end Race

/-! ## The gap behind `Peek` -/

section Sample

def sampleEnvironment : Environment := ⟨fun _ => none, id, fun _ => none, fun _ => none⟩

/-- One key, and a provider that answers 200. -/
def sampleTransport : Transport := ⟨[⟨0, 0⟩], 0⟩

def sampleLeg : Leg := ⟨0, fun _ => false, false, .ok ⟨200, "", []⟩⟩

/-- The timer takes the flag after the first byte is there and before the attempt
disarms it. -/
def gapSchedule : List Action :=
  [.respond, .peek (.ok ()), .timer, .attempt, .attempt, .timer, .attempt, .timer]

theorem first_byte_race_gap : Ended sampleEnvironment sampleTransport true sampleLeg
    (runSteps (step sampleEnvironment sampleTransport sampleLeg) (start true) gapSchedule) := by
  apply first_byte_race
  refine ⟨fun err returned => ?_, trivial, trivial, trivial, trivial, trivial, trivial, trivial, trivial⟩
  cases returned

/-- The byte is not handed off: the attempt is a timeout that may have been charged. -/
example : (runSteps (step sampleEnvironment sampleTransport sampleLeg) (start true)
    gapSchedule).attempt = .failed .firstByte false (resolve .timeout) := rfl

end Sample
end AnselmGateway.FirstByteTimer
