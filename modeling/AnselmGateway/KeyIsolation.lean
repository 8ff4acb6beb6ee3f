import AnselmGateway.Foundation.Run
import AnselmGateway.Upstream

/-! The key pool with many calls in flight. `RoundTrip` reads its clock and takes its
place from the cursor, looks at one key after another, sends with the first that is fit
and pauses that key when the provider's answer says so; between any two of these steps
other calls do theirs. -/
namespace AnselmGateway.KeyIsolation
open Foundation Billing Upstream

/-! ## Calls in flight -/

/-- A pause a provider's answer has put on a key. -/
structure Hit where
  id : ℕ
  until_ : ℤ
  deriving DecidableEq

inductive Phase where
  /-- At its `i`-th key from its place on. -/
  | looking (start : UInt64) (i : ℕ)
  /-- Sending with the key of this id. -/
  | sent (id : ℕ)
  | answered (id : ℕ) (base : Except NetError Response)
  | ended (err : SendError)

/-- A `RoundTrip`, with the pauses that were known when it began. -/
structure Trip where
  now : ℤ
  phase : Phase
  before : List Hit

structure Pool where
  transport : Transport
  trips : List Trip
  hits : List Hit

/-- One step of one call. A call is named by its place among those that have begun. -/
inductive Event where
  | begin (now : ℤ)
  | look (index : ℕ) (isOpen : ℕ → Bool)
  /-- The key's breaker does not let the call through. -/
  | refuse (index : ℕ)
  | answer (index : ℕ) (base : Except NetError Response)

section Pool
variable (env : Environment)

/-- How long an answer pauses its key, if it does. -/
def pauseOf (r : Response) (now : ℤ) : Option ℤ :=
  if r.statusCode = 401 ∨ r.statusCode = 403 then some (now + 10 * minute)
  else if r.statusCode = 429 then
    let d := parseRetryAfter env r.retryAfter now
    if d > 5 * second then some (now + d) else none
  else none

/-- The key a call looks at. -/
def keyAt (t : Transport) (start : UInt64) (i : ℕ) : Option KeyState :=
  t.keys[((start + UInt64.ofNat i) % UInt64.ofNat t.keys.length).toNat]?

/-- One turn of the loop in `pickKey`. -/
def lookAt (t : Transport) (isOpen : ℕ → Bool) (now : ℤ) (start : UInt64) (i : ℕ) : Phase :=
  let next := if i + 1 < t.keys.length then .looking start (i + 1) else .ended .allKeysGated
  match keyAt t start i with
  | none => next
  | some key => if decide (now < key.cooldownUntil) || isOpen key.id then next else .sent key.id

/-- What an answer adds to the pauses. -/
def hitOf (id : ℕ) (now : ℤ) : Except NetError Response → List Hit
  | .error _ => []
  | .ok r => ((pauseOf env r now).map (Hit.mk id)).toList

def onTrip (index : ℕ) (act : Trip → Pool → Pool) (s : Pool) : Pool :=
  match s.trips[index]? with
  | none => s
  | some trip => act trip s

def Pool.move (index : ℕ) (trip : Trip) (phase : Phase) (s : Pool) : Pool :=
  { s with trips := s.trips.set index { trip with phase := phase } }

def look (isOpen : ℕ → Bool) (index : ℕ) (trip : Trip) (s : Pool) : Pool :=
  match trip.phase with
  | .looking start i => s.move index trip (lookAt s.transport isOpen trip.now start i)
  | _ => s

def refuse (index : ℕ) (trip : Trip) (s : Pool) : Pool :=
  match trip.phase with
  | .sent _ => s.move index trip (.ended .keyOpen)
  | _ => s

def answer (base : Except NetError Response) (index : ℕ) (trip : Trip) (s : Pool) : Pool :=
  match trip.phase with
  | .sent id =>
    let transport := match base with
      | .error _ => s.transport
      | .ok r => s.transport.accountLevelFault env id r trip.now
    { s.move index trip (.answered id base) with
      transport := transport, hits := s.hits ++ hitOf env id trip.now base }
  | _ => s

def enter (now : ℤ) (s : Pool) : Pool :=
  if s.transport.keys = [] then
    { s with trips := s.trips ++ [⟨now, .ended .noUsableAPIKey, s.hits⟩] }
  else
    { s with
      transport := { s.transport with rr := s.transport.rr + 1 }
      trips := s.trips ++ [⟨now, .looking s.transport.rr 0, s.hits⟩] }

def step (s : Pool) : Event → Pool
  | .begin now => enter now s
  | .look index isOpen => onTrip index (look isOpen index) s
  | .refuse index => onTrip index (refuse index) s
  | .answer index base => onTrip index (answer env base index) s

def run (s : Pool) (events : List Event) : Pool := runSteps (step env) s events

/-! ## The pauses of a key -/

/-- How long a key is paused after these hits. -/
def pausedUntil (hits : List Hit) (id : ℕ) (until_ : ℤ) : ℤ :=
  hits.foldl (fun until_ hit => if hit.id = id then max until_ hit.until_ else until_) until_

/-- A key as its hits have left it. -/
def cooledBy (hits : List Hit) (key : KeyState) : KeyState :=
  { key with cooldownUntil := pausedUntil hits key.id key.cooldownUntil }

/-- The key a call has sent with. -/
def Phase.key : Phase → Option ℕ
  | .sent id | .answered id _ => some id
  | .looking _ _ | .ended _ => none

/-- What holds of the pool however its calls interleave. -/
structure Isolated (t : Transport) (s : Pool) : Prop where
  /-- Every key is paused until the latest that it started with or an answer said. -/
  keys : s.transport.keys = t.keys.map (cooledBy s.hits)
  known : ∀ trip ∈ s.trips, trip.before <+: s.hits
  /-- No call has sent with a key that was paused past the call's own clock when it began. -/
  fit : ∀ trip ∈ s.trips, ∀ id, trip.phase.key = some id →
    (∃ key ∈ t.keys, key.id = id ∧ key.cooldownUntil ≤ trip.now) ∧
      ∀ hit ∈ trip.before, hit.id = id → hit.until_ ≤ trip.now
  /-- Every pause is one that an answer under that very key called for. -/
  caused : ∀ hit ∈ s.hits, ∃ trip ∈ s.trips, ∃ r,
    trip.phase = .answered hit.id (.ok r) ∧ pauseOf env r trip.now = some hit.until_

section Steps
variable {env} {t : Transport} {s : Pool} {index : ℕ} {trip : Trip}

theorem Isolated.move (isolated : Isolated env t s) (found : s.trips[index]? = some trip)
    {phase : Phase} (unsettled : ∀ id r, trip.phase ≠ .answered id (.ok r))
    (fit : ∀ id, phase.key = some id →
      (∃ key ∈ t.keys, key.id = id ∧ key.cooldownUntil ≤ trip.now) ∧
        ∀ hit ∈ trip.before, hit.id = id → hit.until_ ≤ trip.now) :
    Isolated env t (s.move index trip phase) where
  keys := isolated.keys
  known other member := by
    rcases List.mem_or_eq_of_mem_set member with before | rfl
    · exact isolated.known other before
    · exact isolated.known trip (List.mem_of_getElem? found)
  fit other member id sent := by
    rcases List.mem_or_eq_of_mem_set member with before | rfl
    · exact isolated.fit other before id sent
    · exact fit id sent
  caused hit member := by
    obtain ⟨other, before, r, answered, pause⟩ := isolated.caused hit member
    refine ⟨other, ?_, r, answered, pause⟩
    obtain ⟨j, found'⟩ := List.mem_iff_getElem?.mp before
    have apart : index ≠ j := by
      rintro rfl
      rw [found] at found'
      cases found'
      exact unsettled _ _ answered
    apply List.mem_of_getElem?
    rw [Pool.move, List.getElem?_set_ne apart]
    exact found'

end Steps

/-- What `RoundTrip` returns, once it does. -/
def Phase.result : Phase → Option (Except SendError Response)
  | .ended err => some (.error err)
  | .answered _ (.error err) => some (.error (.network err))
  | .answered _ (.ok r) => some (.ok r)
  | .looking _ _ | .sent _ => none

/-- The keys a call has yet to look at, from its `i`-th on. -/
def ahead (t : Transport) (start : UInt64) (i : ℕ) : List KeyState :=
  (List.range' i (t.keys.length - i)).filterMap (keyAt t start)

/-- Where a selection ends. -/
def selected : Option KeyState → Phase
  | none => .ended .allKeysGated
  | some key => .sent key.id

section Alone
variable (t : Transport) (trips : List Trip) (hits before : List Hit) (now : ℤ) (isOpen : ℕ → Bool)

/-- A call whose selection is over looks at no further key. -/
theorem looks_over {phase : Phase} (settled : ∀ start i, phase ≠ .looking start i) (n : ℕ) :
    run env ⟨t, trips ++ [⟨now, phase, before⟩], hits⟩
        (List.replicate n (.look trips.length isOpen)) =
      ⟨t, trips ++ [⟨now, phase, before⟩], hits⟩ := by
  induction n with
  | zero => rfl
  | succ n ih =>
    have same : step env ⟨t, trips ++ [⟨now, phase, before⟩], hits⟩ (.look trips.length isOpen) =
        ⟨t, trips ++ [⟨now, phase, before⟩], hits⟩ := by
      change onTrip trips.length (look isOpen trips.length) _ = _
      unfold onTrip look
      simp only [List.getElem?_concat_length]
    rw [List.replicate_succ, run, runSteps_cons, same]
    exact ih

/-- The turns a call has left look at the keys ahead of it, up to the first that is fit. -/
theorem looks_select (start : UInt64) (i n : ℕ) (inside : i < t.keys.length)
    (enough : t.keys.length - i ≤ n) :
    run env ⟨t, trips ++ [⟨now, .looking start i, before⟩], hits⟩
        (List.replicate n (.look trips.length isOpen)) =
      ⟨t, trips ++ [⟨now, selected ((ahead t start i).find? fun key =>
        !(decide (now < key.cooldownUntil) || isOpen key.id)), before⟩], hits⟩ := by
  induction n generalizing i with
  | zero => omega
  | succ n ih =>
    have stepped : step env ⟨t, trips ++ [⟨now, .looking start i, before⟩], hits⟩
        (.look trips.length isOpen) =
          ⟨t, trips ++ [⟨now, lookAt t isOpen now start i, before⟩], hits⟩ := by
      change onTrip trips.length (look isOpen trips.length) _ = _
      simp [onTrip, look, Pool.move]
    rw [List.replicate_succ, run, runSteps_cons, stepped]
    have split : ahead t start i = (keyAt t start i).toList ++ ahead t start (i + 1) := by
      have more : t.keys.length - i = (t.keys.length - (i + 1)) + 1 := by omega
      unfold ahead
      rw [more, List.range'_succ, List.filterMap_cons]
      cases keyAt t start i <;> rfl
    -- A key that is passed leaves the next one, if there is a next one.
    have passes : run env ⟨t, trips ++ [⟨now, if i + 1 < t.keys.length then .looking start (i + 1)
          else .ended .allKeysGated, before⟩], hits⟩
          (List.replicate n (.look trips.length isOpen)) =
        ⟨t, trips ++ [⟨now, selected ((ahead t start (i + 1)).find? fun key =>
          !(decide (now < key.cooldownUntil) || isOpen key.id)), before⟩], hits⟩ := by
      by_cases more : i + 1 < t.keys.length
      · rw [if_pos more]
        exact ih (i + 1) more (by omega)
      · have none_ : ahead t start (i + 1) = [] := by
          unfold ahead
          rw [show t.keys.length - (i + 1) = 0 by omega]
          rfl
        rw [if_neg more, none_]
        exact looks_over env t trips hits before now isOpen (by simp) n
    rw [split]
    cases at_ : keyAt t start i with
    | none =>
      simp only [lookAt, at_]
      exact passes
    | some key =>
      simp only [lookAt, at_, Option.toList_some, List.singleton_append, List.find?_cons]
      cases gated : decide (now < key.cooldownUntil) || isOpen key.id with
      | true => exact passes
      | false => exact looks_over env t trips hits before now isOpen (by simp) n

end Alone

/-- The steps of one call, with nobody else's between them. -/
def alone (index n : ℕ) (leg : Leg) : List Event :=
  .begin leg.now :: (List.replicate n (.look index leg.isOpen) ++
    [if leg.refuses then .refuse index else .answer index leg.base])

theorem pickKey_ahead (t : Transport) (some_ : t.keys ≠ []) (now : ℤ) (isOpen : ℕ → Bool) :
    t.pickKey now isOpen = ((ahead t t.rr 0).find? fun key =>
      !(decide (now < key.cooldownUntil) || isOpen key.id), { t with rr := t.rr + 1 }) := by
  have nonempty : t.keys.length ≠ 0 := mt List.length_eq_zero_iff.mp some_
  unfold Transport.pickKey
  rw [if_neg nonempty]
  simp only [ahead, Nat.sub_zero, List.range_eq_range']
  rfl

/-- A call that nobody interrupts is the `roundTrip` of the sequential model. -/
theorem alone_roundTrip (s : Pool) (leg : Leg) :
    (run env s (alone s.trips.length s.transport.keys.length leg)).transport =
        (s.transport.roundTrip env leg).2 ∧
      ((run env s (alone s.trips.length s.transport.keys.length leg)).trips[s.trips.length]?.bind
        fun trip => trip.phase.result) = some (s.transport.roundTrip env leg).1 := by
  obtain ⟨t, trips, hits⟩ := s
  simp only [alone, run, runSteps_cons, runSteps_append, runSteps_nil]
  by_cases empty : t.keys = []
  · have entered : step env ⟨t, trips, hits⟩ (.begin leg.now) =
        ⟨t, trips ++ [⟨leg.now, .ended .noUsableAPIKey, hits⟩], hits⟩ := if_pos empty
    have ended (start : UInt64) (i : ℕ) : Phase.ended .noUsableAPIKey ≠ .looking start i := nofun
    have looked := looks_over env t trips hits hits leg.now leg.isOpen ended t.keys.length
    rw [run] at looked
    rw [entered, looked]
    unfold Transport.roundTrip
    rw [if_pos empty]
    cases leg.refuses <;> simp [step, onTrip, refuse, answer, Phase.result]
  · have entered : step env ⟨t, trips, hits⟩ (.begin leg.now) =
        ⟨{ t with rr := t.rr + 1 }, trips ++ [⟨leg.now, .looking t.rr 0, hits⟩], hits⟩ := if_neg empty
    have inside : 0 < t.keys.length := List.length_pos_iff.mpr empty
    have looked := looks_select env { t with rr := t.rr + 1 } trips hits hits leg.now leg.isOpen
      t.rr 0 t.keys.length inside (Nat.sub_le _ _)
    rw [run] at looked
    rw [entered, looked]
    unfold Transport.roundTrip
    rw [if_neg empty, pickKey_ahead t empty]
    have same : ahead { t with rr := t.rr + 1 } t.rr 0 = ahead t t.rr 0 := rfl
    rw [same]
    cases (ahead t t.rr 0).find? fun key =>
        !(decide (leg.now < key.cooldownUntil) || leg.isOpen key.id) with
    | none => cases leg.refuses <;> simp [step, onTrip, refuse, answer, selected, Phase.result]
    | some key =>
      cases refuses : leg.refuses with
      | true => simp [step, onTrip, refuse, selected, Phase.result, Pool.move]
      | false =>
        cases base : leg.base <;>
          simp [step, onTrip, answer, selected, Phase.result, Pool.move]

end Pool
end AnselmGateway.KeyIsolation
