import AnselmGateway.ChatRelay

/-! A reserved request is closed exactly once, whatever the provider sends and wherever
reading or writing fails: rolled back only when it was surely not billed, settled for
its cost only when the response was complete. -/
namespace AnselmGateway.ChatSaga
open Foundation Billing Quota ResponseModel ChatUsage ChatRelay

/-- Usage with the evidence that it cannot be trusted. -/
def distrusted (distrust : Bool) (usage : Usage) : Usage :=
  if distrust then usage.mergeSnapshot malformedUsage else usage

/-- The usage the lines of a stream report. -/
def merged (usage : Usage) (lines : List Bytes) : Usage :=
  lines.foldl (fun usage line => usage.mergeSnapshot (parseUsageSnapshotLine line)) usage

section Read
variable (fails : Failures) (publicModelID : String) (failed : Bool)

/-- After so many writes, the relay of these lines reads up to the sentinel: every
line is fit for the client, and all before it were written. The flag tells whether
the relay learns that the stream broke off behind the sentinel; it looks at `scanner.Err()`
only when the client took the sentinel itself. -/
inductive ReadsToDone : ℕ → List (Bytes × Bool) → List Bytes → Bool → Prop
  | sentinel {writes : ℕ} {line out : Bytes} {ended : Bool} {lines : List (Bytes × Bool)}
      (done : isDONE line = true) (fit : rewriteClientModelSSELine line publicModelID = some out) :
      ReadsToDone writes ((line, ended) :: lines) [line]
        (ended && failed && (fails writes).isNone && (fails (writes + 1)).isNone)
  | onward {writes : ℕ} {line out : Bytes} {ended broken : Bool} {lines : List (Bytes × Bool)}
      {read : List Bytes} (more : isDONE line = false)
      (fit : rewriteClientModelSSELine line publicModelID = some out) (wrote : fails writes = none)
      (ended_ : fails (writes + 1) = none) (rest : ReadsToDone (writes + 2) lines read broken) :
      ReadsToDone writes ((line, ended) :: lines) (line :: read) broken

end Read

section Relay
variable {fails : Failures} {publicModelID : String} {failed tooLong : Bool}

theorem ReadsToDone.unique {writes : ℕ} {lines : List (Bytes × Bool)} {read read' : List Bytes}
    {broken broken' : Bool} (one : ReadsToDone fails publicModelID failed writes lines read broken)
    (other : ReadsToDone fails publicModelID failed writes lines read' broken') :
    read = read' ∧ broken = broken' := by
  induction one generalizing read' broken' with
  | sentinel done fit =>
    cases other with
    | sentinel => exact ⟨rfl, rfl⟩
    | onward more => exact absurd done (by rw [more]; decide)
  | onward more fit wrote ended_ _ ih =>
    cases other with
    | sentinel done => exact absurd done (by rw [more]; decide)
    | onward _ _ _ _ rest =>
      obtain ⟨rfl, rfl⟩ := ih rest
      exact ⟨rfl, rfl⟩

theorem write_writes (fails : Failures) (p : Bytes) (c : Client) :
    (c.write fails p).2.writes = c.writes + 1 := by
  unfold Client.write
  split <;> rfl

theorem write_ok (p : Bytes) (c : Client) : (c.write fails p).1 = (fails c.writes).isNone := by
  unfold Client.write
  split <;> simp [*]

/-- The relay ends with the sentinel exactly if it reads up to it; its usage is then
what the lines reported. -/
theorem relayLines_terminal {lines : List (Bytes × Bool)} {r : Relayed} (open_ : r.terminal = false) :
    (∃ read broken, ReadsToDone fails publicModelID failed r.client.writes lines read broken ∧
      (relayLines fails publicModelID failed tooLong lines r).terminal = true ∧
      (relayLines fails publicModelID failed tooLong lines r).usage =
        distrusted broken (merged r.usage read)) ∨
    ((∀ read broken, ¬ReadsToDone fails publicModelID failed r.client.writes lines read broken) ∧
      (relayLines fails publicModelID failed tooLong lines r).terminal = false) := by
  induction lines generalizing r with
  | nil =>
    refine .inr ⟨fun read broken => nofun, ?_⟩
    rw [relayLines]
    split <;> exact open_
  | cons head lines ih =>
    obtain ⟨line, ended⟩ := head
    rw [relayLines]
    cases fit : rewriteClientModelSSELine line publicModelID with
    | none =>
      refine .inr ⟨fun read broken reads => ?_, open_⟩
      cases reads with
      | sentinel _ fit' =>
        rw [fit] at fit'
        cases fit'
      | onward _ fit' =>
        rw [fit] at fit'
        cases fit'
    | some out =>
      cases first : r.client.write fails out with
      | mk ok1 c1 =>
        cases second : c1.write fails [newline] with
        | mk ok2 c2 =>
          have is1 : ok1 = (fails r.client.writes).isNone := by
            rw [← write_ok out r.client, first]
          have at1 : c1.writes = r.client.writes + 1 := by
            rw [← write_writes fails out r.client, first]
          have is2 : ok2 = (fails (r.client.writes + 1)).isNone := by
            rw [← at1, ← write_ok [newline] c1, second]
          have at2 : c2.writes = r.client.writes + 2 := by
            have next := write_writes fails [newline] c1
            rw [second, at1] at next
            exact next
          cases done : isDONE line with
          | true =>
            refine .inl ⟨[line], _, .sentinel done fit, ?_⟩
            simp only [Relayed.merge, if_true, first, ← is1, ← is2]
            cases ok1 with
            | false => simp [distrusted, merged]
            | true =>
              dsimp only
              rw [second]
              cases ok2 with
              | false => simp [distrusted, merged]
              | true => cases ended <;> cases failed <;> simp [distrusted, merged]
          | false =>
            have stopped (refused : ok1 = false ∨ ok2 = false) (read : List Bytes) (broken : Bool) :
                ¬ReadsToDone fails publicModelID failed r.client.writes ((line, ended) :: lines)
                  read broken := by
              intro reads
              cases reads with
              | sentinel done' => exact absurd done' (by rw [done]; decide)
              | onward _ _ wrote ended_ =>
                rw [wrote] at is1
                rw [ended_] at is2
                rcases refused with refused | refused
                · exact absurd (is1.symm.trans refused) (by decide)
                · exact absurd (is2.symm.trans refused) (by decide)
            simp only [Relayed.merge, Bool.false_eq_true, if_false, first]
            cases ok1 with
            | false => exact .inr ⟨stopped (.inl rfl), open_⟩
            | true =>
              dsimp only
              rw [second]
              cases ok2 with
              | false => exact .inr ⟨stopped (.inr rfl), open_⟩
              | true =>
                dsimp only
                rw [open_, if_neg (by decide)]
                have wrote : fails r.client.writes = none := by simpa using is1
                have ended_ : fails (r.client.writes + 1) = none := by simpa using is2
                have onward := ih (r := ⟨r.usage.mergeSnapshot (parseUsageSnapshotLine line), false, c2⟩) rfl
                dsimp only at onward
                rw [at2] at onward
                rcases onward with ⟨read, broken, reads, terminal, usage⟩ | ⟨unread, terminal⟩
                · exact .inl ⟨line :: read, broken, .onward done fit wrote ended_ reads, terminal, usage⟩
                · refine .inr ⟨fun read broken reads => ?_, terminal⟩
                  cases reads with
                  | sentinel done' => exact absurd done' (by rw [done]; decide)
                  | onward _ _ _ _ rest => exact unread _ _ rest

theorem relay_terminal (body : Stream) (client : Client) :
    (∃ read broken,
      ReadsToDone fails publicModelID body.failed client.writes (body.scan maxTokenSize).lines read broken ∧
      (relay fails publicModelID body client).terminal = true ∧
      (relay fails publicModelID body client).usage = distrusted broken (merged {} read)) ∨
    ((∀ read broken,
      ¬ReadsToDone fails publicModelID body.failed client.writes (body.scan maxTokenSize).lines read broken) ∧
      (relay fails publicModelID body client).terminal = false) := by
  unfold relay
  exact relayLines_terminal (r := { client := client }) rfl

end Relay

/-! ## Complete responses -/

/-- The response was complete, and this is the usage merged from it: the sentinel was
read, or a whole body that is one object. -/
inductive Complete (fails : Failures) (publicModelID : String) : Bool → Stream → Usage → Prop
  | streamed {body : Stream} {read : List Bytes} {broken : Bool}
      (reads : ReadsToDone fails publicModelID body.failed 0 (body.scan maxTokenSize).lines read broken) :
      Complete fails publicModelID true body (distrusted broken (merged {} read))
  | whole {body : Stream} {data : Bytes} (read : body.failed = false)
      (small : body.bytes.length ≤ nonStreamBodyLimit)
      (valid : rewriteClientModelJSON body.bytes publicModelID = some data) :
      Complete fails publicModelID false body (parseUsageSnapshotBody data)

/-- The settled amount is the cost of a complete response's usage where that is
authoritative, and what was reserved otherwise. -/
def Priced (fails : Failures) (publicModelID : String) (request : Request) (resv : Reservation)
    (amount : Int64) : Prop :=
  (∃ body usage, request.opened = .ok (some body) ∧
    Complete fails publicModelID request.stream body usage ∧ resv.plan.cost usage = .ok (some amount)) ∨
  (amount = resv.reservedPUSD ∧ ∀ body usage cost, request.opened = .ok (some body) →
    Complete fails publicModelID request.stream body usage → resv.plan.cost usage ≠ .ok (some cost))

/-- Nothing was asked of the provider, or it was surely not billed. -/
def Unbilled (request : Request) (saga : Saga) : Prop :=
  .opened ∉ saga.calls ∨
    ∃ failure, request.opened = .error failure ∧ failure.exposure = .definitelyUnbilled

/-- A call that closes the reservation. -/
def closing : Call → Bool
  | .opened => false
  | .settle _ | .rollback => true

section Close
variable {fails : Failures} {publicModelID : String} {resv : Reservation} {usage : Usage}

theorem Complete.unique {stream : Bool} {body : Stream} {usage' : Usage}
    (one : Complete fails publicModelID stream body usage)
    (other : Complete fails publicModelID stream body usage') : usage = usage' := by
  cases one with
  | streamed reads =>
    cases other with
    | streamed reads' =>
      obtain ⟨rfl, rfl⟩ := reads.unique reads'
      rfl
  | whole _ _ valid =>
    cases other with
    | whole _ _ valid' =>
      rw [valid] at valid'
      cases valid'
      rfl

/-- Usage that is not to be trusted has no cost: a token plan declines it, a unit plan refuses it. -/
theorem cost_distrusted (plan : Plan) {u : Usage} (malformed : u.malformed = true) :
    plan.cost u = if plan.inputClass = .standard then .ok none else .error .unknownRateCard := by
  unfold Plan.cost
  by_cases standard : plan.inputClass = .standard
  · simp [standard, malformed, pure, Except.pure]
  · simp [standard, bind, Except.bind, throw, throwThe, MonadExceptOf.throw]

theorem actualPUSD_malformed (malformed : usage.malformed = true) :
    actualPUSD resv usage = resv.reservedPUSD := by
  unfold actualPUSD
  split
  · rename_i cost priced
    rw [cost_distrusted resv.plan malformed] at priced
    split at priced <;> cases priced
  · rfl

theorem priced_complete {request : Request} {body : Stream} (opened : request.opened = .ok (some body))
    (complete : Complete fails publicModelID request.stream body usage) :
    Priced fails publicModelID request resv (actualPUSD resv usage) := by
  by_cases authoritative : ∃ cost, resv.plan.cost usage = .ok (some cost)
  · obtain ⟨cost, priced⟩ := authoritative
    refine .inl ⟨body, usage, opened, complete, ?_⟩
    rw [actualPUSD, priced]
  · have reserved : actualPUSD resv usage = resv.reservedPUSD := by
      unfold actualPUSD
      split
      · rename_i cost priced
        exact absurd ⟨cost, priced⟩ authoritative
      · rfl
    refine .inr ⟨reserved, fun body' usage' cost opened' complete' priced => authoritative ⟨cost, ?_⟩⟩
    rw [opened] at opened'
    cases opened'
    rw [complete.unique complete']
    exact priced

theorem priced_incomplete {request : Request} {body : Stream} (opened : request.opened = .ok (some body))
    (incomplete : ∀ usage, ¬Complete fails publicModelID request.stream body usage) :
    Priced fails publicModelID request resv resv.reservedPUSD := by
  refine .inr ⟨rfl, fun body' usage' cost opened' complete' => ?_⟩
  rw [opened] at opened'
  cases opened'
  exact absurd complete' (incomplete usage')

/-- Where no stream was opened the reservation is kept whole. -/
theorem priced_unopened {request : Request} (unopened : ∀ body, request.opened ≠ .ok (some body)) :
    Priced fails publicModelID request resv resv.reservedPUSD :=
  .inr ⟨rfl, fun body _ _ opened => absurd opened (unopened body)⟩

/-- A relayed stream is settled once, for what it is priced at. -/
theorem streamThrough_settles {request : Request} {body : Stream} {s : Saga}
    (opened : request.opened = .ok (some body)) (stream : request.stream = true)
    (fresh : s.client.writes = 0) : ∃ amount,
      (streamThrough fails publicModelID body resv s).calls = s.calls ++ [.settle amount] ∧
      Priced fails publicModelID request resv amount := by
  have settled (client : Client) (start : client.writes = 0) :
      Priced fails publicModelID request resv (actualPUSD resv
        (if (relay fails publicModelID body client).terminal then
          (relay fails publicModelID body client).usage
        else (relay fails publicModelID body client).usage.mergeSnapshot malformedUsage)) := by
    have read : _ ∨ (_ ∧ (relay fails publicModelID body client).terminal = false) :=
      relay_terminal body client
    rw [start] at read
    rcases read with ⟨read, broken, reads, terminal, usage⟩ | ⟨unread, terminal⟩
    · rw [terminal, if_pos rfl, usage]
      refine priced_complete opened ?_
      rw [stream]
      exact .streamed reads
    · rw [terminal, if_neg (by decide), actualPUSD_malformed]
      · refine priced_incomplete opened fun usage complete => ?_
        rw [stream] at complete
        cases complete with
        | streamed reads => exact unread _ _ reads
      · simp [Usage.mergeSnapshot, malformedUsage]
  exact ⟨_, rfl, settled _ fresh⟩

theorem nonStreamThrough_settles {request : Request} {body : Stream} {s : Saga}
    (opened : request.opened = .ok (some body)) (whole : request.stream = false) : ∃ amount,
      (nonStreamThrough fails publicModelID body resv s).calls = s.calls ++ [.settle amount] ∧
      Priced fails publicModelID request resv amount := by
  unfold nonStreamThrough
  split
  · rename_i unread
    refine ⟨_, rfl, priced_incomplete opened fun usage complete => ?_⟩
    rw [whole] at complete
    cases complete with
    | whole read small _ =>
      rw [read] at unread
      simp [Nat.not_lt.mpr small] at unread
  · rename_i read
    simp only [Bool.or_eq_true, decide_eq_true_eq, not_or, Bool.not_eq_true, Nat.not_lt] at read
    cases valid : rewriteClientModelJSON body.bytes publicModelID with
    | none =>
      refine ⟨_, rfl, priced_incomplete opened fun usage complete => ?_⟩
      rw [whole] at complete
      cases complete with
      | whole _ _ valid' =>
        rw [valid] at valid'
        cases valid'
    | some data =>
      refine ⟨_, rfl, priced_complete opened ?_⟩
      rw [whole]
      exact .whole read.1 read.2 valid

/-- A request that reached the provider is closed once. -/
theorem forward_closes (request : Request) {s : Saga} (fresh : s = {}) : ∃ call,
    (forward fails publicModelID request.stream request.opened resv s).calls = [.opened, call] ∧
    ((call = .rollback ∧ ∃ failure, request.opened = .error failure ∧
      failure.exposure = .definitelyUnbilled) ∨
    ∃ amount, call = .settle amount ∧ Priced fails publicModelID request resv amount) := by
  subst fresh
  unfold forward
  cases opened : request.opened with
  | error failure =>
    have unopened (body : Stream) : request.opened ≠ .ok (some body) := by
      rw [opened]
      nofun
    by_cases unbilled : failure.exposure = .definitelyUnbilled
    · refine ⟨.rollback, ?_, .inl ⟨rfl, failure, rfl, unbilled⟩⟩
      simp [ChargeExposure.mayHaveCharged, unbilled, Saga.ask, Saga.writeErr, Saga.rollback]
    · refine ⟨.settle resv.reservedPUSD, ?_, .inr ⟨_, rfl, priced_unopened unopened⟩⟩
      simp [ChargeExposure.mayHaveCharged, unbilled, Saga.ask, Saga.writeErr, Saga.settle]
  | ok answer =>
    cases answer with
    | none =>
      have unopened (body : Stream) : request.opened ≠ .ok (some body) := by
        rw [opened]
        nofun
      exact ⟨.settle resv.reservedPUSD, rfl, .inr ⟨_, rfl, priced_unopened unopened⟩⟩
    | some body =>
      cases stream : request.stream with
      | true =>
        have settles : ∃ amount, (streamThrough fails publicModelID body resv (Saga.ask {})).calls =
            (Saga.ask {}).calls ++ [.settle amount] ∧ _ := streamThrough_settles opened stream rfl
        obtain ⟨amount, calls, priced⟩ := settles
        exact ⟨.settle amount, calls, .inr ⟨amount, rfl, priced⟩⟩
      | false =>
        have settles : ∃ amount, (nonStreamThrough fails publicModelID body resv (Saga.ask {})).calls =
            (Saga.ask {}).calls ++ [.settle amount] ∧ _ := nonStreamThrough_settles opened stream
        obtain ⟨amount, calls, priced⟩ := settles
        exact ⟨.settle amount, calls, .inr ⟨amount, rfl, priced⟩⟩

/-- Every request behind a reservation closes it exactly once: with a rollback only if
it was surely not billed, and with a settlement for what the response is priced at. -/
theorem saga_closes_once (fails : Failures) (publicModelID : String) (request : Request)
    (resv : Reservation) : ∃ call,
      (afterReserve fails publicModelID request resv).calls.filter closing = [call] ∧
      (call = .rollback → Unbilled request (afterReserve fails publicModelID request resv)) ∧
      ∀ amount, call = .settle amount → Priced fails publicModelID request resv amount := by
  unfold afterReserve
  split
  · exact ⟨.rollback, rfl, fun _ => .inl (by simp [Saga.rollback, Saga.writeErr]), nofun⟩
  · split
    · split
      · exact ⟨.rollback, rfl, fun _ => .inl (by simp [Saga.rollback]), nofun⟩
      · exact ⟨.rollback, rfl, fun _ => .inl (by simp [Saga.rollback, Saga.writeErr]), nofun⟩
    · have forwarded : ∃ call, (forward fails publicModelID request.stream request.opened resv {}).calls =
          [.opened, call] ∧ _ := forward_closes request rfl
      obtain ⟨call, calls, closes⟩ := forwarded
      rcases closes with ⟨rfl, unbilled⟩ | ⟨amount, rfl, priced⟩
      · exact ⟨.rollback, by rw [calls]; rfl, fun _ => .inr unbilled, nofun⟩
      · refine ⟨.settle amount, by rw [calls]; rfl, nofun, fun amount' same => ?_⟩
        cases same
        exact priced

end Close

end AnselmGateway.ChatSaga
