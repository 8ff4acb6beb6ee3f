import AnselmGateway.Foundation.Float64
import AnselmGateway.Foundation.RingWindow
import AnselmGateway.Foundation.Run

/-! The sliding-window sampler of `internal/pkg/ratesample`: a ring of counts, one cell a second,
that every observation and every reading moves on. Seconds are Unix seconds. -/
namespace AnselmGateway.RateSample
open Foundation RingWindow

/-- `Sampler`. -/
structure Sampler where
  windowSec : ℕ
  reqs : List ℕ
  errs : List ℕ
  lastSec : ℤ
  deriving DecidableEq

/-- `Snapshot`. -/
structure Snapshot where
  qps : ℚ
  errorRate : ℚ
  windowSec : ℕ
  deriving DecidableEq

/-- `New`, at one clock reading. -/
def new (windowSec nowSec : ℤ) : Sampler :=
  let windowSec := (if windowSec < 1 then 1 else windowSec).toNat
  ⟨windowSec, List.replicate windowSec 0, List.replicate windowSec 0, nowSec⟩

/-- The cell of a second. -/
def Sampler.index (s : Sampler) (sec : ℤ) : ℕ := (sec.tmod s.windowSec).toNat

/-- One round of the loops of `advance`. -/
def Sampler.clear (s : Sampler) (idx : ℕ) : Sampler :=
  { s with reqs := s.reqs.set idx 0, errs := s.errs.set idx 0 }

/-- `advance`. -/
def Sampler.advance (s : Sampler) (nowSec : ℤ) : ℕ × Sampler :=
  let back := decide (nowSec - s.lastSec < 0)
  let delta := if back then 0 else nowSec - s.lastSec
  let nowSec := if back then s.lastSec else nowSec
  let cleared :=
    if delta ≥ s.windowSec then (List.range s.reqs.length).foldl Sampler.clear s
    else (List.range delta.toNat).foldl (fun t i => t.clear (s.index (s.lastSec + (i + 1 : ℕ)))) s
  (s.index nowSec, { cleared with lastSec := nowSec })

/-- `Observe`, at one clock reading. -/
def Sampler.observe (s : Sampler) (nowSec status : ℤ) : Sampler :=
  let (idx, s) := s.advance nowSec
  { s with
    reqs := s.reqs.modify idx (· + 1)
    errs := if status ≥ 500 then s.errs.modify idx (· + 1) else s.errs }

/-- What a snapshot makes of its two totals, in doubles. -/
def rates (windowSec totReq totErr : ℕ) : Snapshot where
  qps := Float64.round (Float64.round totReq / Float64.round windowSec)
  errorRate := Float64.round (Float64.round totErr / Float64.round windowSec)
  windowSec := windowSec

/-- `Snapshot`, at one clock reading. -/
def Sampler.snapshot (s : Sampler) (nowSec : ℤ) : Snapshot × Sampler :=
  let (_, s) := s.advance nowSec
  (rates s.windowSec s.reqs.sum s.errs.sum, s)

/-! ## Runs -/

inductive Call where
  | observe (nowSec status : ℤ)
  | snapshot (nowSec : ℤ)
  deriving DecidableEq

/-- What the clock reads for a call. -/
def Call.second : Call → ℤ
  | .observe nowSec _ => nowSec
  | .snapshot nowSec => nowSec

def step (s : Sampler) : Call → Sampler
  | .observe nowSec status => s.observe nowSec status
  | .snapshot nowSec => (s.snapshot nowSec).2

/-- The sampler a run of calls leaves. -/
def after (windowSec start : ℤ) (calls : List Call) : Sampler := runSteps step (new windowSec start) calls

/-! ## What is counted -/

/-- The largest second seen. -/
def latest (last : ℤ) (calls : List Call) : ℤ := calls.foldl (fun last call => max last call.second) last

/-- The observations of a run, each at the largest second seen when it was made. -/
def observed (last : ℤ) : List Call → List (ℤ × ℤ)
  | [] => []
  | .observe nowSec status :: rest => (max last nowSec, status) :: observed (max last nowSec) rest
  | .snapshot nowSec :: rest => observed (max last nowSec) rest

/-- Those of the window that ends at a second. -/
def inWindow (windowSec : ℕ) (last : ℤ) (seen : List (ℤ × ℤ)) : List (ℤ × ℤ) :=
  seen.filter fun o => decide (last - windowSec < o.1) && decide (o.1 ≤ last)

def isError (o : ℤ × ℤ) : Bool := decide (500 ≤ o.2)

/-- The observations of a run, as its clock reads. -/
def observations (calls : List Call) : List (ℤ × ℤ) :=
  calls.filterMap fun
    | .observe nowSec status => some (nowSec, status)
    | .snapshot _ => none

/-- The clock does not go back from call to call. The order is the one in which the calls take
the lock; each reads the clock before that. -/
def Ordered (calls : List Call) : Prop := (calls.map Call.second).Pairwise (· ≤ ·)

instance : DecidablePred Ordered := fun calls => inferInstanceAs (Decidable ((calls.map Call.second).Pairwise (· ≤ ·)))

variable {s : Sampler} {past seen : List (ℤ × ℤ)} {calls other : List Call}

/-- How many of them are at a second. -/
def countAt (seen : List (ℤ × ℤ)) (tick : ℤ) : ℕ := seen.countP fun o => decide (o.1 = tick)

theorem sum_countAt (first last : ℤ) (seen : List (ℤ × ℤ)) :
    ∑ tick ∈ Finset.Ioc first last, countAt seen tick =
      (seen.filter fun o => decide (first < o.1) && decide (o.1 ≤ last)).length := by
  induction seen with
  | nil => simp [countAt]
  | cons o rest ih =>
    simp only [countAt, List.countP_cons, decide_eq_true_eq, Finset.sum_add_distrib, Finset.sum_ite_eq,
      Finset.mem_Ioc] at ih ⊢
    rw [ih]
    by_cases here : first < o.1 ∧ o.1 ≤ last
    · rw [List.filter_cons_of_pos (by simpa using here), if_pos here, List.length_cons]
    · rw [List.filter_cons_of_neg (by simpa using here), if_neg here, Nat.add_zero]

/-! ## The ring -/

/-- The sampler has counted what was seen so far, and nothing of it is ahead. -/
structure Tracks (seen : List (ℤ × ℤ)) (s : Sampler) : Prop where
  some_ : 0 < s.windowSec
  nonneg : 0 ≤ s.lastSec
  reqs : Holds s.windowSec s.lastSec (countAt seen) s.reqs
  errs : Holds s.windowSec s.lastSec (countAt (seen.filter isError)) s.errs
  past : ∀ o ∈ seen, o.1 ≤ s.lastSec

theorem countAt_ahead {last tick : ℤ} (past : ∀ o ∈ seen, o.1 ≤ last) (ahead : last < tick) :
    countAt seen tick = 0 := by
  rw [countAt, List.countP_eq_zero]
  intro o member
  have := past o member
  simp only [decide_eq_true_eq]
  omega

theorem countAt_concat (o : ℤ × ℤ) (tick : ℤ) :
    countAt (seen ++ [o]) tick = if tick = o.1 then countAt seen tick + 1 else countAt seen tick := by
  rw [countAt, List.countP_append, List.countP_singleton]
  by_cases here : tick = o.1
  · simp [here, countAt]
  · simp [here, Ne.symm here, countAt]

theorem foldl_clear (indices : List ℕ) (s : Sampler) :
    indices.foldl Sampler.clear s = { s with
      reqs := indices.foldl (fun cells index => cells.set index 0) s.reqs
      errs := indices.foldl (fun cells index => cells.set index 0) s.errs } := by
  induction indices generalizing s with
  | nil => rfl
  | cons index rest ih =>
    rw [List.foldl_cons, ih]
    rfl

/-- The cells `advance` steps into are those of the seconds behind the last one. -/
theorem foldl_stepped (nonneg : 0 ≤ s.lastSec) (count : ℕ) :
    (List.range count).foldl (fun t i => t.clear (s.index (s.lastSec + (i + 1 : ℕ)))) s = { s with
      reqs := clearFrom s.windowSec 0 s.lastSec count s.reqs
      errs := clearFrom s.windowSec 0 s.lastSec count s.errs } := by
  have slots : ∀ i : ℕ, s.index (s.lastSec + (i + 1 : ℕ)) = slot s.windowSec (s.lastSec + (i + 1 : ℕ)) := by
    intro i
    rw [Sampler.index, slot, Int.tmod_eq_emod_of_nonneg (by omega)]
  have each := foldl_clear ((List.range count).map fun i => s.index (s.lastSec + (i + 1 : ℕ))) s
  simp only [List.foldl_map] at each
  rw [each]
  simp only [slots, clearFrom]

/-- Moving on keeps what was counted, and goes to the later second. -/
theorem Tracks.advance (tracks : Tracks seen s) (nowSec : ℤ) :
    Tracks seen (s.advance nowSec).2 ∧ (s.advance nowSec).2.lastSec = max s.lastSec nowSec ∧
      (s.advance nowSec).2.windowSec = s.windowSec ∧
      (s.advance nowSec).1 = slot s.windowSec (max s.lastSec nowSec) := by
  obtain ⟨some_, nonneg, reqs, errs, past⟩ := tracks
  have pastErrs : ∀ o ∈ seen.filter isError, o.1 ≤ s.lastSec := fun o member => past o (List.mem_filter.mp member).1
  have later : (if decide (nowSec - s.lastSec < 0) = true then s.lastSec else nowSec) = max s.lastSec nowSec := by
    split <;> rename_i back <;> simp only [decide_eq_true_eq] at back <;> omega
  have delta : (if decide (nowSec - s.lastSec < 0) = true then 0 else nowSec - s.lastSec) =
      max s.lastSec nowSec - s.lastSec := by
    split <;> rename_i back <;> simp only [decide_eq_true_eq] at back <;> omega
  have ahead : s.lastSec ≤ max s.lastSec nowSec := le_max_left _ _
  have here : s.index (max s.lastSec nowSec) = slot s.windowSec (max s.lastSec nowSec) := by
    rw [Sampler.index, slot, Int.tmod_eq_emod_of_nonneg (by omega)]
  unfold Sampler.advance
  dsimp only
  rw [later, delta, here]
  generalize max s.lastSec nowSec = now at ahead
  have pastNow : ∀ o ∈ seen, o.1 ≤ now := fun o member => (past o member).trans ahead
  split
  · -- The whole window has elapsed.
    rename_i far
    have elapsed : s.lastSec + s.windowSec ≤ now := by omega
    have cleared : ∀ cells : List ℕ, cells.length = s.windowSec →
        (List.range s.reqs.length).foldl (fun cells index => cells.set index 0) cells =
          List.replicate s.windowSec 0 := by
      intro cells length
      rw [clear_each (by rw [length, reqs.length]), reqs.length, ← length, List.drop_length, List.append_nil]
    rw [foldl_clear, cleared s.reqs reqs.length, cleared s.errs errs.length]
    refine ⟨⟨some_, nonneg.trans ahead, ?_, ?_, pastNow⟩, rfl, rfl, rfl⟩
    · exact Holds.renew List.length_replicate elapsed (fun _ => countAt_ahead past)
        fun _ => List.eq_of_mem_replicate
    · exact Holds.renew List.length_replicate elapsed (fun _ => countAt_ahead pastErrs)
        fun _ => List.eq_of_mem_replicate
  · rename_i near
    rw [foldl_stepped nonneg]
    refine ⟨⟨some_, nonneg.trans ahead, ?_, ?_, pastNow⟩, rfl, rfl, rfl⟩
    · have few : (now - s.lastSec).toNat < s.windowSec := by omega
      have moved := reqs.clearFrom few fun _ => countAt_ahead past
      rwa [show s.lastSec + (now - s.lastSec).toNat = now by omega] at moved
    · have few : (now - s.lastSec).toNat < s.windowSec := by omega
      have moved := errs.clearFrom few fun _ => countAt_ahead pastErrs
      rwa [show s.lastSec + (now - s.lastSec).toNat = now by omega] at moved

/-- An observation is counted at the later second. -/
theorem Tracks.observe (tracks : Tracks seen s) (nowSec status : ℤ) :
    Tracks (seen ++ [(max s.lastSec nowSec, status)]) (s.observe nowSec status) ∧
      (s.observe nowSec status).lastSec = max s.lastSec nowSec ∧
      (s.observe nowSec status).windowSec = s.windowSec := by
  obtain ⟨moved, last, width, index⟩ := tracks.advance nowSec
  refine ⟨?_, last, width⟩
  obtain ⟨some_, nonneg, reqs, errs, past⟩ := moved
  have written : (s.advance nowSec).1 = slot (s.advance nowSec).2.windowSec (s.advance nowSec).2.lastSec := by
    rw [index, width, last]
  refine ⟨some_, nonneg, ?_, ?_, ?_⟩
  · have counted := @Holds.modify _ _ _ _ _ (· + 1) reqs some_
    rw [← written, last] at counted
    simp only [Sampler.observe, last]
    simpa only [← countAt_concat (max s.lastSec nowSec, status)] using counted
  · have counted := @Holds.modify _ _ _ _ _ (· + 1) errs some_
    rw [← written, last] at counted
    simp only [Sampler.observe, last, List.filter_append]
    by_cases failed : status ≥ 500
    · rw [if_pos failed, List.filter_cons_of_pos (by simpa [isError] using failed), List.filter_nil]
      simpa only [← countAt_concat (max s.lastSec nowSec, status)] using counted
    · rw [if_neg failed, List.filter_cons_of_neg (by simpa [isError] using failed), List.filter_nil, List.append_nil]
      rwa [last] at errs
  · intro o member
    change o.1 ≤ (s.advance nowSec).2.lastSec
    rcases List.mem_append.mp member with earlier | new
    · exact past o earlier
    · obtain rfl := List.mem_singleton.mp new
      rw [last]

theorem tracks_new {windowSec start : ℤ} (nonneg : 0 ≤ start) : Tracks [] (new windowSec start) := by
  have some_ : 0 < (new windowSec start).windowSec := by
    change 0 < (if windowSec < 1 then 1 else windowSec).toNat
    split <;> omega
  have clear : ∀ width : ℕ, Holds width start (countAt []) (List.replicate width 0) := fun width =>
    have behind : start - width + width ≤ start := by omega
    Holds.renew List.length_replicate behind (fun _ _ => rfl) fun _ => List.eq_of_mem_replicate
  exact ⟨some_, nonneg, clear _, clear _, nofun⟩

/-! ## Runs -/

/-- A run counts what it observes. -/
theorem Tracks.run (tracks : Tracks seen s) (calls : List Call) :
    Tracks (seen ++ observed s.lastSec calls) (runSteps step s calls) ∧
      (runSteps step s calls).lastSec = latest s.lastSec calls ∧
      (runSteps step s calls).windowSec = s.windowSec := by
  induction calls generalizing s seen with
  | nil =>
    rw [observed, List.append_nil]
    exact ⟨tracks, rfl, rfl⟩
  | cons call rest ih =>
    cases call with
    | observe nowSec status =>
      obtain ⟨moved, last, width⟩ := tracks.observe nowSec status
      obtain ⟨onward, last', width'⟩ := ih moved
      rw [last] at onward last'
      refine ⟨?_, last', width'.trans width⟩
      rw [List.append_assoc] at onward
      exact onward
    | snapshot nowSec =>
      obtain ⟨moved, last, width, _⟩ := tracks.advance nowSec
      obtain ⟨onward, last', width'⟩ := ih moved
      rw [last] at onward last'
      exact ⟨onward, last', width'.trans width⟩

/-- A snapshot reports the window that ends at the later second. -/
theorem Tracks.snapshot (tracks : Tracks seen s) (nowSec : ℤ) :
    (s.snapshot nowSec).1 = rates s.windowSec (inWindow s.windowSec (max s.lastSec nowSec) seen).length
      ((inWindow s.windowSec (max s.lastSec nowSec) seen).countP isError) := by
  obtain ⟨moved, last, width, _⟩ := tracks.advance nowSec
  have reqs := moved.reqs.sum moved.some_
  have errs := moved.errs.sum moved.some_
  rw [sum_countAt, last, width] at reqs errs
  rw [Sampler.snapshot]
  dsimp only
  rw [reqs, errs, width, List.countP_eq_length_filter, inWindow, List.filter_filter, List.filter_filter]
  simp only [Bool.and_comm]

/-! ## Clocks that do not go back -/

theorem le_latest (last : ℤ) (calls : List Call) : last ≤ latest last calls := by
  induction calls generalizing last with
  | nil => exact le_refl last
  | cons call rest ih => exact (le_max_left _ _).trans (ih (max last call.second))

theorem latest_le {last bound : ℤ} (start : last ≤ bound) (within : ∀ call ∈ calls, call.second ≤ bound) :
    latest last calls ≤ bound := by
  induction calls generalizing last with
  | nil => exact start
  | cons call rest ih =>
    exact ih (max_le start (within call List.mem_cons_self)) fun other member =>
      within other (List.mem_cons_of_mem _ member)

/-- Where the clock does not go back, what is seen does not depend on who looks. -/
theorem observed_of_ordered (ordered : Ordered calls) (last : ℤ) :
    observed last calls = (observations calls).map fun o => (max last o.1, o.2) := by
  induction calls generalizing last with
  | nil => rfl
  | cons call rest ih =>
    obtain ⟨first, others⟩ := List.pairwise_cons.mp ordered
    have later : ∀ o ∈ observations rest, call.second ≤ o.1 := by
      intro o member
      obtain ⟨source, held, made⟩ := List.mem_filterMap.mp member
      have := first source.second (List.mem_map_of_mem held)
      cases source with
      | observe nowSec status =>
        cases made
        exact this
      | snapshot => cases made
    have shifted : (observations rest).map (fun o => (max (max last call.second) o.1, o.2)) =
        (observations rest).map fun o => (max last o.1, o.2) := by
      refine List.map_congr_left fun o member => ?_
      rw [max_assoc, max_eq_right (later o member)]
    cases call with
    | observe nowSec status =>
      rw [observed, ih others]
      exact congrArg ((max last nowSec, status) :: ·) shifted
    | snapshot nowSec =>
      rw [observed, ih others]
      exact shifted

/-- A snapshot counts exactly what was observed in the window that ends with the largest second
seen, and who else takes snapshots does not matter where the clock does not go back. -/
theorem snapshot_exact {start : ℤ} (nonneg : 0 ≤ start) (windowSec : ℤ) :
    (∀ (calls : List Call) (nowSec : ℤ),
      ((after windowSec start calls).snapshot nowSec).1 =
        rates (max 1 windowSec).toNat
          (inWindow (max 1 windowSec).toNat (max (latest start calls) nowSec) (observed start calls)).length
          ((inWindow (max 1 windowSec).toNat (max (latest start calls) nowSec) (observed start calls)).countP
            isError)) ∧
    ∀ (calls other : List Call) (nowSec : ℤ), Ordered (calls ++ [.snapshot nowSec]) →
      Ordered (other ++ [.snapshot nowSec]) → observations calls = observations other →
      ((after windowSec start calls).snapshot nowSec).1 = ((after windowSec start other).snapshot nowSec).1 := by
  have width : (new windowSec start).windowSec = (max 1 windowSec).toNat := by
    change (if windowSec < 1 then 1 else windowSec).toNat = _
    split <;> omega
  have exact_ : ∀ (calls : List Call) (nowSec : ℤ), ((after windowSec start calls).snapshot nowSec).1 =
      rates (max 1 windowSec).toNat
        (inWindow (max 1 windowSec).toNat (max (latest start calls) nowSec) (observed start calls)).length
        ((inWindow (max 1 windowSec).toNat (max (latest start calls) nowSec) (observed start calls)).countP
          isError) := by
    intro calls nowSec
    obtain ⟨tracks, last, kept⟩ := (tracks_new nonneg).run calls (s := new windowSec start)
    have reported := tracks.snapshot nowSec
    rw [last, kept, width, List.nil_append] at reported
    exact reported
  refine ⟨exact_, fun calls other nowSec ordered ordered' same => ?_⟩
  have ends : ∀ calls : List Call, Ordered (calls ++ [.snapshot nowSec]) →
      max (latest start calls) nowSec = max start nowSec := by
    intro calls ordered
    rw [Ordered, List.map_append] at ordered
    have within : ∀ call ∈ calls, call.second ≤ nowSec := fun call member =>
      (List.pairwise_append.mp ordered).2.2 call.second (List.mem_map_of_mem member) nowSec
        (List.mem_singleton_self _)
    have upper : latest start calls ≤ max start nowSec :=
      latest_le (le_max_left _ _) fun call member => (within call member).trans (le_max_right _ _)
    have lower := le_latest start calls
    omega
  have front : ∀ calls : List Call, Ordered (calls ++ [.snapshot nowSec]) → Ordered calls := by
    intro calls ordered
    rw [Ordered, List.map_append] at ordered
    exact (List.pairwise_append.mp ordered).1
  rw [exact_ calls nowSec, exact_ other nowSec, ends calls ordered, ends other ordered',
    observed_of_ordered (front calls ordered), observed_of_ordered (front other ordered'), same]

/-- The clock stands still, jumps past the window and goes back; a poller looks in between. -/
theorem snapshot_exact_jumps :
    ((after 3 10 [.observe 10 200, .observe 10 503, .observe 30 500, .observe 28 200]).snapshot 31).1 = rates 3 2 1 ∧
      ((after 3 10 [.observe 10 200, .snapshot 11, .observe 12 500]).snapshot 12).1 =
        ((after 3 10 [.observe 10 200, .observe 12 500]).snapshot 12).1 := by
  obtain ⟨exact_, alone⟩ := @snapshot_exact 10 (by decide) 3
  exact ⟨exact_ [.observe 10 200, .observe 10 503, .observe 30 500, .observe 28 200] 31,
    alone [.observe 10 200, .snapshot 11, .observe 12 500] [.observe 10 200, .observe 12 500] 12 (by decide)
      (by decide) (by decide)⟩

end AnselmGateway.RateSample
