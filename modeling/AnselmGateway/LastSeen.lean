import AnselmGateway.Foundation.Dict
import AnselmGateway.RateLimit

/-! The last-seen throttle of `internal/app/install`: one stamp for each install, swept of
what has lapsed when there are many. -/
namespace AnselmGateway.LastSeen
open Foundation RateLimit

/-- `LastSeenRefreshInterval`. -/
def lastSeenRefreshInterval : ℤ := 10 * minute

/-- `lastSeenMapPruneAt`. -/
def lastSeenMapPruneAt : ℕ := 4096

variable {κ : Type}

/-- The sweep inside `shouldRefresh`. -/
def prune (now : ℤ) (lastSeen : Dict κ ℤ) : Dict κ ℤ :=
  if lastSeen.entries.length ≥ lastSeenMapPruneAt then
    Dict.deleteWhere lastSeen fun _ stamp => decide (sub now stamp ≥ lastSeenRefreshInterval)
  else lastSeen

/-- One call: an install and the clock. -/
structure Call (κ : Type) where
  id : κ
  now : ℤ
  deriving DecidableEq, Repr

variable [DecidableEq κ]

/-- `shouldRefresh`. -/
def shouldRefresh (lastSeen : Dict κ ℤ) (call : Call κ) : Bool × Dict κ ℤ :=
  if (lastSeen.lookup call.id).any fun last => decide (sub call.now last < lastSeenRefreshInterval) then
    (false, lastSeen)
  else (true, (prune call.now lastSeen).insert call.id call.now)

/-- The call itself, when it is to refresh. -/
def refresh (lastSeen : Dict κ ℤ) (call : Call κ) : Option (Call κ) × Dict κ ℤ :=
  (if (shouldRefresh lastSeen call).1 then some call else none, (shouldRefresh lastSeen call).2)

/-- The stamps a run leaves. -/
def after (calls : List (Call κ)) : Dict κ ℤ :=
  runSteps (fun lastSeen call => (shouldRefresh lastSeen call).2) ∅ calls

/-- The calls of a run that are to refresh. -/
def refreshes (calls : List (Call κ)) : List (Call κ) := accepted refresh ∅ calls

variable {lastSeen : Dict κ ℤ} {id : κ} {stamp now : ℤ} {call : Call κ}

/-! ## One call -/

/-- The interval is far from where a length of time saturates. -/
theorem lapsed_iff (later earlier : ℤ) :
    sub later earlier < lastSeenRefreshInterval ↔ later < earlier + lastSeenRefreshInterval := by
  unfold sub lastSeenRefreshInterval minute maxInt64
  omega

/-- A sweep leaves a stamp that has not lapsed. -/
theorem prune_keeps (held : lastSeen.lookup id = some stamp) (live : now < stamp + lastSeenRefreshInterval) :
    (prune now lastSeen).lookup id = some stamp := by
  unfold prune
  split
  · have short := (lapsed_iff now stamp).mpr live
    rw [Dict.lookup_deleteWhere, held, Option.filter_some, if_pos (by simpa using short)]
  · exact held

/-- A call is to refresh exactly when no stamp of its install is live. -/
theorem shouldRefresh_iff : (shouldRefresh lastSeen call).1 = true ↔
    ∀ last, lastSeen.lookup call.id = some last → last + lastSeenRefreshInterval ≤ call.now := by
  unfold shouldRefresh
  split
  · rename_i recent
    obtain ⟨last, held, live⟩ := (Option.any_eq_true _ _).mp recent
    rw [decide_eq_true_iff, lapsed_iff] at live
    simp only [Bool.false_eq_true, false_iff]
    exact fun all => absurd (all last held) (Int.not_le.mpr live)
  · rename_i stale
    refine ⟨fun _ last held => ?_, fun _ => rfl⟩
    rw [held, Option.any_some, decide_eq_true_iff, lapsed_iff] at stale
    exact Int.not_lt.mp stale

theorem stamps_granted (granted : (shouldRefresh lastSeen call).1 = true) :
    (shouldRefresh lastSeen call).2 = (prune call.now lastSeen).insert call.id call.now := by
  unfold shouldRefresh at granted ⊢
  split
  · rename_i recent
    rw [if_pos recent] at granted
    cases granted
  · rfl

theorem stamps_denied (denied : (shouldRefresh lastSeen call).1 = false) :
    (shouldRefresh lastSeen call).2 = lastSeen := by
  unfold shouldRefresh at denied ⊢
  split
  · rfl
  · rename_i stale
    rw [if_neg stale] at denied
    cases denied

/-- A live stamp is there after a call, and is the same. -/
theorem keeps_live (held : lastSeen.lookup id = some stamp) (live : call.now < stamp + lastSeenRefreshInterval) :
    (shouldRefresh lastSeen call).2.lookup id = some stamp := by
  cases granted : (shouldRefresh lastSeen call).1 with
  | false => rw [stamps_denied granted, held]
  | true =>
    rw [stamps_granted granted, Dict.lookup_insert, prune_keeps held live, if_neg]
    rintro rfl
    exact absurd (shouldRefresh_iff.mp granted stamp held) (Int.not_le.mpr live)

/-! ## A run -/

theorem accepted_granted {rest : List (Call κ)} (granted : (shouldRefresh lastSeen call).1 = true) :
    accepted refresh lastSeen (call :: rest) =
      call :: accepted refresh (shouldRefresh lastSeen call).2 rest := by
  rw [accepted, refresh, granted]
  rfl

theorem accepted_denied {rest : List (Call κ)} (denied : (shouldRefresh lastSeen call).1 = false) :
    accepted refresh lastSeen (call :: rest) = accepted refresh (shouldRefresh lastSeen call).2 rest := by
  rw [accepted, refresh, denied]
  rfl

theorem mem_of_accepted {calls : List (Call κ)} (taken : call ∈ accepted refresh lastSeen calls) :
    call ∈ calls := by
  induction calls generalizing lastSeen with
  | nil => exact absurd taken List.not_mem_nil
  | cons first rest ih =>
    cases granted : (shouldRefresh lastSeen first).1 with
    | false =>
      rw [accepted_denied granted] at taken
      exact List.mem_cons_of_mem _ (ih taken)
    | true =>
      rw [accepted_granted granted] at taken
      rcases List.mem_cons.mp taken with rfl | later
      · exact List.mem_cons_self
      · exact List.mem_cons_of_mem _ (ih later)

/-- From any stamps on, under a clock that does not go back: what is granted keeps its
distance from the stamps there were, and from what is granted later. -/
theorem accepted_spaced {calls : List (Call κ)} (ordered : calls.Pairwise fun a b => a.now ≤ b.now) :
    (∀ call ∈ accepted refresh lastSeen calls, ∀ last, lastSeen.lookup call.id = some last →
      last + lastSeenRefreshInterval ≤ call.now) ∧
    (accepted refresh lastSeen calls).Pairwise fun a b => a.id = b.id → a.now + lastSeenRefreshInterval ≤ b.now := by
  induction calls generalizing lastSeen with
  | nil => exact ⟨nofun, List.Pairwise.nil⟩
  | cons call rest ih =>
    obtain ⟨ahead, later⟩ := List.pairwise_cons.mp ordered
    obtain ⟨kept, spaced⟩ : (∀ other ∈ accepted refresh (shouldRefresh lastSeen call).2 rest, ∀ last,
        (shouldRefresh lastSeen call).2.lookup other.id = some last → last + lastSeenRefreshInterval ≤ other.now) ∧
        _ := ih later
    have live : ∀ other ∈ accepted refresh (shouldRefresh lastSeen call).2 rest, ∀ last,
        lastSeen.lookup other.id = some last → last + lastSeenRefreshInterval ≤ other.now := by
      intro other taken last held
      rcases lt_or_ge call.now (last + lastSeenRefreshInterval) with live | lapsed
      · exact kept other taken last (keeps_live held live)
      · exact lapsed.trans (ahead other (mem_of_accepted taken))
    cases granted : (shouldRefresh lastSeen call).1 with
    | false =>
      rw [accepted_denied granted]
      exact ⟨live, spaced⟩
    | true =>
      rw [accepted_granted granted]
      refine ⟨fun other taken last held => ?_, List.pairwise_cons.mpr ⟨fun other taken same => ?_, spaced⟩⟩
      · rcases List.mem_cons.mp taken with rfl | further
        · exact shouldRefresh_iff.mp granted last held
        · exact live other further last held
      · refine kept other taken call.now ?_
        rw [stamps_granted granted, ← same, Dict.lookup_insert, if_pos rfl]

/-- Two refreshes of one install are at least the interval apart, in any run under a clock
that does not go back; and no call takes a stamp that has not lapsed at it, whatever the run
before. -/
theorem refreshes_throttled (calls : List (Call κ)) (ordered : calls.Pairwise fun a b => a.now ≤ b.now) :
    ((refreshes calls).Pairwise fun a b => a.id = b.id → a.now + lastSeenRefreshInterval ≤ b.now) ∧
    ∀ (earlier : List (Call κ)) (call : Call κ) (id : κ) (stamp : ℤ),
      (after earlier).lookup id = some stamp → sub call.now stamp < lastSeenRefreshInterval →
        (prune call.now (after earlier)).lookup id = some stamp ∧
          (after (earlier ++ [call])).lookup id = some stamp := by
  refine ⟨(accepted_spaced ordered).2, fun earlier call id stamp held short => ?_⟩
  have live := (lapsed_iff call.now stamp).mp short
  refine ⟨prune_keeps held live, ?_⟩
  rw [after, runSteps_append]
  exact keeps_live held live

/-! ## A crowd -/

/-- One call of each of so many installs, at once. -/
def crowd (n : ℕ) : List (Call ℕ) := (List.range n).map fun id => ⟨id, 0⟩

/-- An install that comes for the first time leaves its stamp, and where none has lapsed none is
swept. -/
theorem lookup_newcomer {calls : List (Call κ)} {call : Call κ} (new : (after calls).lookup call.id = none)
    (recent : ∀ id stamp, (after calls).lookup id = some stamp → call.now < stamp + lastSeenRefreshInterval) (id : κ) :
    (after (calls ++ [call])).lookup id = if id = call.id then some call.now else (after calls).lookup id := by
  have granted : (shouldRefresh (after calls) call).1 = true := by
    rw [shouldRefresh_iff]
    intro last held
    rw [new] at held
    cases held
  rw [after, runSteps_append]
  change (shouldRefresh (after calls) call).2.lookup id = _
  rw [stamps_granted granted, Dict.lookup_insert]
  split
  · rfl
  · cases held : (after calls).lookup id with
    | some stamp => exact prune_keeps held (recent id stamp held)
    | none =>
      unfold prune
      split
      · rw [Dict.lookup_deleteWhere, held]
        rfl
      · exact held

theorem lookup_crowd (n id : ℕ) : (after (crowd n)).lookup id = if id < n then some 0 else none := by
  induction n generalizing id with
  | zero => rfl
  | succ n ih =>
    have grown : crowd (n + 1) = crowd n ++ [⟨n, 0⟩] := by
      rw [crowd, List.range_succ, List.map_append]
      rfl
    have recent (id : ℕ) (stamp : ℤ) (held : (after (crowd n)).lookup id = some stamp) :
        (0 : ℤ) < stamp + lastSeenRefreshInterval := by
      rw [ih] at held
      split at held
      · cases held
        decide
      · cases held
    rw [grown, lookup_newcomer (by rw [ih, if_neg (Nat.lt_irrefl n)]) recent, ih]
    dsimp only
    split_ifs <;> first | rfl | omega

/-- The first to come when the map is full and all have lapsed sweeps them all. -/
theorem crowd_swept {n : ℕ} {now : ℤ} (many : lastSeenMapPruneAt ≤ n) (lapsed : lastSeenRefreshInterval ≤ now) (id : ℕ) :
    (prune now (after (crowd n))).lookup id = none := by
  have full : lastSeenMapPruneAt ≤ (after (crowd n)).entries.length := by
    have held := @Dict.length_of_held _ _ _ (after (crowd n)) (List.range n) List.nodup_range fun key member => by
      rw [lookup_crowd, if_pos (List.mem_range.mp member)]
      rfl
    rw [List.length_range] at held
    exact many.trans held
  unfold prune
  rw [if_pos full, Dict.lookup_deleteWhere, lookup_crowd]
  split
  · have gone : ¬sub now 0 < lastSeenRefreshInterval := by
      rw [lapsed_iff]
      omega
    rw [Option.filter_some, if_neg]
    simp only [ge_iff_le, Bool.not_eq_true', decide_eq_false_iff_not, not_not]
    omega
  · rfl

theorem crowd_ordered {n : ℕ} {calls : List (Call ℕ)} (ordered : calls.Pairwise fun a b => a.now ≤ b.now)
    (later : ∀ call ∈ calls, 0 ≤ call.now) : (crowd n ++ calls).Pairwise fun a b => a.now ≤ b.now := by
  have start {call : Call ℕ} (listed : call ∈ crowd n) : call.now = 0 := by
    obtain ⟨_, _, rfl⟩ := List.mem_map.mp listed
    rfl
  refine List.pairwise_append.mpr ⟨?_, ordered, fun a listed b listed' => (start listed).trans_le (later b listed')⟩
  exact List.pairwise_of_forall_mem_list fun a listed b listed' => by rw [start listed, start listed']

/-- As many installs as fill the map, and one of them and another again, nine and ten minutes on:
the last call sweeps the stamps of the crowd. -/
theorem refreshes_throttled_crowd :
    let calls : List (Call ℕ) := crowd lastSeenMapPruneAt ++
      [⟨0, 9 * minute⟩, ⟨lastSeenMapPruneAt, 10 * minute⟩, ⟨0, 10 * minute⟩]
    (∀ id, (prune (10 * minute) (after (crowd lastSeenMapPruneAt))).lookup id = none) ∧
      (refreshes calls).Pairwise fun a b => a.id = b.id → a.now + lastSeenRefreshInterval ≤ b.now :=
  ⟨crowd_swept le_rfl (by decide), (refreshes_throttled _ (crowd_ordered (by decide) (by decide))).1⟩

end AnselmGateway.LastSeen
