import Mathlib.Data.List.Induction
import AnselmGateway.Foundation.Run
import AnselmGateway.NonceCacheSemantics

/-! The contract of the replay-once set over whole histories, in both modes: what it holds
agrees with itself and fits, what was admitted stays known for its lifetime where the set
fails closed, and where it evicts, only what was used longest ago gives way. -/
namespace AnselmGateway.ReplayContract
open Foundation NonceCache NonceCacheSemantics
variable {κ : Type} [DecidableEq κ] {c : Cache κ} {now : ℤ} {challenge : κ}

/-! ## One use -/

/-- A use leaves some of the others where they are, and may put its own entry in front. -/
theorem useOnce_shape (agree : Coherent c) (roomy : 0 < c.max) (now : ℤ) (challenge : κ) :
    ∃ kept : List (Entry κ), kept.Sublist c.ll ∧ (∀ e ∈ kept, e.challenge ≠ challenge) ∧
      ((c.useOnce now challenge).2.ll = kept ∨
        ∃ e : Entry κ, e.challenge = challenge ∧ (c.useOnce now challenge).2.ll = kept ++ [e]) := by
  by_cases known : ∃ e ∈ c.ll, e.challenge = challenge
  · obtain ⟨e, held, rfl⟩ := known
    refine ⟨c.ll.filter fun other => other.challenge ≠ e.challenge, List.filter_sublist, ?_, .inr ?_⟩
    · intro other member
      simpa using (List.mem_filter.mp member).2
    · rw [(useOnce_known agree held now).1]
      split
      · exact ⟨e, rfl, rfl⟩
      · exact ⟨⟨e.challenge, now + c.ttl⟩, rfl, rfl⟩
  · have fresh : ∀ e ∈ c.ll, e.challenge ≠ challenge := fun e held named => known ⟨e, held, named⟩
    rw [useOnce_unknown agree fresh]
    cases mode : c.failClosed with
    | true =>
      obtain ⟨_, kept, sublist, _, _, ll, _⟩ := admit_failClosed agree mode fresh now
      refine ⟨kept, sublist, fun e member => fresh e (sublist.subset member), ?_⟩
      rw [ll]
      split
      · exact .inr ⟨_, rfl, rfl⟩
      · exact .inl rfl
    | false =>
      obtain ⟨_, ll, _⟩ := admit_lru agree mode fresh now
      have sublist : ((c.ll.dropWhile fun e => !Live now e).drop
          ((c.ll.dropWhile fun e => !Live now e).length + 1 - c.max)).Sublist c.ll :=
        (List.drop_sublist _ _).trans (List.dropWhile_suffix _).sublist
      refine ⟨_, sublist, fun e member => fresh e (sublist.subset member),
        .inr ⟨⟨challenge, now + c.ttl⟩, rfl, ?_⟩⟩
      rw [ll, List.drop_append_of_le_length (by omega)]

/-- What fits goes on fitting. -/
theorem useOnce_fits (agree : Coherent c) (fits : c.ll.length ≤ c.max) (now : ℤ) (challenge : κ) :
    (c.useOnce now challenge).2.ll.length ≤ c.max := by
  by_cases known : ∃ e ∈ c.ll, e.challenge = challenge
  · obtain ⟨e, held, rfl⟩ := known
    have fewer : (c.ll.filter fun other => other.challenge ≠ e.challenge).length < c.ll.length :=
      List.length_filter_lt_length_iff_exists.mpr ⟨e, held, by simp⟩
    rw [(useOnce_known agree held now).1]
    split
    · rw [Cache.moveToFront, List.length_append, List.length_singleton]
      omega
    · rw [Cache.moveToFront, List.length_append, List.length_singleton]
      dsimp only
      omega
  · have fresh : ∀ e ∈ c.ll, e.challenge ≠ challenge := fun e held named => known ⟨e, held, named⟩
    rw [useOnce_unknown agree fresh]
    cases mode : c.failClosed with
    | true =>
      obtain ⟨_, kept, sublist, _, _, ll, _⟩ := admit_failClosed agree mode fresh now
      have length := sublist.length_le
      rw [ll]
      split
      · rename_i room
        rw [List.length_append, List.length_singleton]
        omega
      · omega
    | false =>
      rw [(admit_lru agree mode fresh now).2.1, List.length_drop, List.length_append, List.length_singleton]
      omega

/-- Where the set evicts, a live entry that is gone after a use was at the back before
it. -/
theorem useOnce_evicted (agree : Coherent c) (lru : c.failClosed = false) (roomy : 0 < c.max)
    (fits : c.ll.length ≤ c.max) {e : Entry κ} (held : e ∈ c.ll) (alive : Live now e = true)
    (gone : e ∉ (c.useOnce now challenge).2.ll) : ∃ rest, c.ll = e :: rest := by
  have unknown : ∀ other ∈ c.ll, other.challenge ≠ challenge := by
    rintro other stored rfl
    have used := (useOnce_known agree stored now).1
    by_cases same : e.challenge = other.challenge
    · obtain rfl := agree.entry_unique held stored same
      rw [used, if_pos alive] at gone
      exact gone (List.mem_append_right _ (List.mem_singleton_self _))
    · have still : e ∈ c.ll.filter fun entry => entry.challenge ≠ other.challenge :=
        List.mem_filter.mpr ⟨held, by simpa using same⟩
      rw [used] at gone
      split at gone
      · exact gone (List.mem_append_left _ still)
      · exact gone (List.mem_append_left _ still)
  obtain ⟨_, ll, _⟩ := admit_lru agree lru unknown now
  rw [useOnce_unknown agree unknown, ll, List.drop_append_of_le_length (by omega)] at gone
  have swept : (c.ll.dropWhile fun e => !Live now e) <:+ c.ll := List.dropWhile_suffix _
  have length := swept.length_le
  have member : e ∈ c.ll.dropWhile fun e => !Live now e := mem_dropWhile_of_live held alive
  -- Nothing was swept, or there would have been room.
  have full : c.ll.length ≤ (c.ll.dropWhile fun e => !Live now e).length := by
    by_contra swept
    rw [show (c.ll.dropWhile fun e => !Live now e).length + 1 - c.max = 0 by omega, List.drop_zero] at gone
    exact gone (List.mem_append_left _ member)
  have whole := swept.eq_of_length_le full
  rw [whole] at gone member
  cases back : c.ll with
  | nil =>
    rw [back] at held
    cases held
  | cons first rest =>
    have one : c.ll.length + 1 - c.max ≤ 1 := by omega
    rw [back] at held
    rcases List.mem_cons.mp held with rfl | inside
    · exact ⟨rest, rfl⟩
    · refine absurd (List.mem_append_left _ ?_) gone
      rw [back] at one ⊢
      rcases Nat.le_one_iff_eq_zero_or_eq_one.mp one with zero | is
      · rw [zero]
        exact List.mem_cons_of_mem _ inside
      · rw [is]
        exact inside

/-- Where the set fails closed, a refusal is of a live entry or for want of room among
live ones. -/
theorem useOnce_saturated (agree : Coherent c) (closed : c.failClosed = true)
    (fits : c.ll.length ≤ c.max) (refused : (c.useOnce now challenge).1 = false) :
    (∃ e ∈ c.ll, e.challenge = challenge ∧ Live now e = true) ∨ c.ll.countP (Live now) = c.max := by
  by_cases known : ∃ e ∈ c.ll, e.challenge = challenge
  · obtain ⟨e, held, rfl⟩ := known
    cases alive : Live now e with
    | true => exact .inl ⟨e, held, rfl, alive⟩
    | false =>
      rw [(useOnce_known agree held now).1, if_neg (by simp [alive])] at refused
      cases refused
  · have fresh : ∀ e ∈ c.ll, e.challenge ≠ challenge := fun e held named => known ⟨e, held, named⟩
    obtain ⟨_, kept, sublist, _, verdict, _, living⟩ := admit_failClosed agree closed fresh now
    rw [useOnce_unknown agree fresh, verdict] at refused
    have full : c.max ≤ kept.length := Nat.not_lt.mp (of_decide_eq_false refused)
    have all : kept.countP (Live now) = kept.length := List.countP_eq_length.mpr (living full)
    have within := sublist.countP_le (p := Live now)
    have short := List.countP_le_length (p := Live now) (l := c.ll)
    exact .inr (by omega)

/-- Where the set evicts, a challenge without a live entry is admitted. -/
theorem useOnce_admits (agree : Coherent c) (lru : c.failClosed = false)
    (stale : ∀ e ∈ c.ll, e.challenge = challenge → Live now e = false) :
    (c.useOnce now challenge).1 = true := by
  cases verdict : (c.useOnce now challenge).1 with
  | true => rfl
  | false =>
    obtain ⟨e, held, named, alive, _⟩ := useOnce_refused agree lru verdict
    rw [stale e held named] at alive
    cases alive

/-! ## A whole history -/

/-- The set that a history of uses leaves, each at its clock reading. -/
def after (start : Cache κ) (history : List (ℤ × κ)) : Cache κ :=
  runSteps (fun c call => (c.useOnce call.1 call.2).2) start history

/-- The second challenge was used since the last use of the first. -/
def UsedSince (history : List (ℤ × κ)) (first second : κ) : Prop :=
  ∃ earlier later, history = earlier ++ later ∧ second ∈ later.map Prod.snd ∧
    first ∉ later.map Prod.snd

variable {start : Cache κ} {history : List (ℤ × κ)}

theorem after_snoc (call : ℤ × κ) :
    after start (history ++ [call]) = ((after start history).useOnce call.1 call.2).2 := by
  rw [after, runSteps_append]
  rfl

omit [DecidableEq κ] in
theorem UsedSince.snoc {first second : κ} (since : UsedSince history first second) {call : ℤ × κ}
    (other : first ≠ call.2) : UsedSince (history ++ [call]) first second := by
  obtain ⟨earlier, later, rfl, used, unused⟩ := since
  refine ⟨earlier, later ++ [call], List.append_assoc _ _ _, ?_, ?_⟩
  · rw [List.map_append]
    exact List.mem_append_left _ used
  · rw [List.map_append, List.mem_append, not_or]
    exact ⟨unused, fun last => other (List.mem_singleton.mp last)⟩

omit [DecidableEq κ] in
theorem usedSince_last {first : κ} {call : ℤ × κ} (other : first ≠ call.2) :
    UsedSince (history ++ [call]) first call.2 :=
  ⟨history, [call], rfl, List.mem_singleton_self _, fun last => other (List.mem_singleton.mp last)⟩

/-- What every history keeps of a set that started empty. -/
structure Kept (start : Cache κ) (history : List (ℤ × κ)) (c : Cache κ) : Prop where
  agree : Coherent c
  fits : c.ll.length ≤ c.max
  settings : c.max = start.max ∧ c.ttl = start.ttl ∧ c.failClosed = start.failClosed
  recency : c.ll.Pairwise fun back front => UsedSince history back.challenge front.challenge

/-- One more use. -/
theorem Kept.useOnce (kept : Kept start history c) (roomy : 0 < start.max) (call : ℤ × κ) :
    Kept start (history ++ [call]) (c.useOnce call.1 call.2).2 := by
  obtain ⟨agree, fits, ⟨max, ttl, mode⟩, recency⟩ := kept
  obtain ⟨sameMax, sameTtl, sameMode⟩ := useOnce_settings c call.1 call.2
  refine ⟨useOnce_coherent agree _ _, ?_, ⟨sameMax.trans max, sameTtl.trans ttl, sameMode.trans mode⟩, ?_⟩
  · rw [sameMax]
    exact useOnce_fits agree fits _ _
  · obtain ⟨left, sublist, others, shape⟩ := useOnce_shape agree (max ▸ roomy) call.1 call.2
    have earlier : left.Pairwise fun back front =>
        UsedSince (history ++ [call]) back.challenge front.challenge :=
      (recency.sublist sublist).imp_of_mem fun held _ since => since.snoc (others _ held)
    rcases shape with ll | ⟨e, named, ll⟩
    · rw [ll]
      exact earlier
    · rw [ll]
      refine List.pairwise_append.mpr ⟨earlier, List.pairwise_singleton _ _, ?_⟩
      intro back held front last
      obtain rfl := List.mem_singleton.mp last
      rw [named]
      exact usedSince_last (others back held)

theorem kept_after (empty : start.ll = []) (agree : Coherent start) (roomy : 0 < start.max)
    (history : List (ℤ × κ)) : Kept start history (after start history) := by
  induction history using List.reverseRecOn with
  | nil =>
    refine ⟨agree, ?_, ⟨rfl, rfl, rfl⟩, ?_⟩
    · change start.ll.length ≤ start.max
      rw [empty]
      exact Nat.zero_le _
    · change start.ll.Pairwise _
      rw [empty]
      exact .nil
  | append_singleton history call ih =>
    rw [after_snoc]
    exact ih.useOnce roomy call

/-- Where the set fails closed, an entry stays until its lifetime has passed. -/
theorem remembered (kept : Kept start history c) (roomy : 0 < start.max)
    (closed : start.failClosed = true) {e : Entry κ} (held : e ∈ c.ll) (later : List (ℤ × κ))
    (alive : ∀ call ∈ later, call.1 < e.expireAt) :
    e ∈ (after c later).ll := by
  induction later generalizing history c with
  | nil => exact held
  | cons call later ih =>
    have here : Live call.1 e = true := decide_eq_true (alive call List.mem_cons_self)
    exact ih (kept.useOnce roomy call)
      (useOnce_keeps_live kept.agree (kept.settings.2.2.trans closed) held here call.2)
      fun other member => alive other (List.mem_cons_of_mem _ member)

/-- What a history of uses with a clock that does not go back makes of a fresh set, and
what the next use then does, in either mode. -/
theorem useOnce_contract {ttl max : ℤ}
    (built : start = newWithMax ttl max ∨ start = newFailClosed ttl max)
    (clock : (history.map Prod.fst ++ [now]).Pairwise (· ≤ ·)) (challenge : κ) :
    (((after start history).ll.map Entry.challenge).Nodup ∧
      (after start history).entries.Perm ((after start history).ll.map Entry.challenge) ∧
      (after start history).ll.length ≤ start.max) ∧
    (start.failClosed = true →
      (∀ earlier later t value, history = earlier ++ (t, value) :: later →
        ((after start earlier).useOnce t value).1 = true → now < t + ttl →
          (⟨value, t + ttl⟩ : Entry κ) ∈ (after start history).ll ∧
          ((after start history).useOnce now value).1 = false) ∧
      (∀ e ∈ (after start history).ll, now < e.expireAt →
        e ∈ ((after start history).useOnce now challenge).2.ll) ∧
      (((after start history).useOnce now challenge).1 = false →
        (∃ e ∈ (after start history).ll, e.challenge = challenge ∧ now < e.expireAt) ∨
          (after start history).ll.countP (Live now) = start.max)) ∧
    (start.failClosed = false →
      ((∀ e ∈ (after start history).ll, e.challenge = challenge → e.expireAt ≤ now) →
        ((after start history).useOnce now challenge).1 = true) ∧
      ∀ e ∈ (after start history).ll, now < e.expireAt →
        e ∉ ((after start history).useOnce now challenge).2.ll →
        ∀ other ∈ (after start history).ll, other ≠ e →
          UsedSince history e.challenge other.challenge) := by
  have fresh : start.ll = [] ∧ Coherent start ∧ 0 < start.max ∧ start.ttl = ttl := by
    have roomy : 0 < if max ≤ 0 then defaultMax else max.toNat := by
      split
      · exact Nat.zero_lt_succ _
      · omega
    rcases built with rfl | rfl
    · exact ⟨rfl, coherent_new ttl max, roomy, rfl⟩
    · exact ⟨rfl, coherent_newFailClosed ttl max, roomy, rfl⟩
  obtain ⟨empty, agree, roomy, lifetime⟩ := fresh
  have kept := kept_after empty agree roomy
  obtain ⟨coherent, fits, ⟨sameMax, _, sameMode⟩, recency⟩ := kept history
  refine ⟨⟨coherent.unique, coherent.mapped, sameMax ▸ fits⟩, fun closed => ?_, fun lru => ?_⟩
  · refine ⟨?_, ?_, ?_⟩
    · rintro earlier later t value rfl admitted young
      have before := kept earlier
      have mode := before.settings.2.2.trans closed
      -- From its admission on, the entry outlives every reading up to this one.
      have stored := (useOnce_admitted before.agree mode admitted).2
      rw [before.settings.2.1, lifetime] at stored
      have alive : ∀ call ∈ later, call.1 < t + ttl := by
        intro call member
        have reading := (List.pairwise_append.mp clock).2.2 call.1
          (List.mem_map_of_mem (List.mem_append_right _ (List.mem_cons_of_mem _ member)))
          now (List.mem_singleton_self _)
        exact reading.trans_lt young
      have still := remembered (before.useOnce roomy (t, value)) roomy closed stored later alive
      have whole : after start (earlier ++ (t, value) :: later) =
          after ((after start earlier).useOnce t value).2 later := by
        rw [after, runSteps_append]
        rfl
      rw [whole] at coherent ⊢
      refine ⟨still, ?_⟩
      rw [useOnce_replayed coherent still (decide_eq_true young)]
    · intro e held alive
      exact useOnce_keeps_live coherent (sameMode.trans closed) held (decide_eq_true alive) challenge
    · intro refused
      rcases useOnce_saturated coherent (sameMode.trans closed) fits refused with ⟨e, held, named, alive⟩ | full
      · exact .inl ⟨e, held, named, of_decide_eq_true alive⟩
      · exact .inr (full.trans sameMax)
  · refine ⟨?_, ?_⟩
    · intro stale
      exact useOnce_admits coherent (sameMode.trans lru) fun e held named =>
        decide_eq_false (not_lt.mpr (stale e held named))
    · intro e held alive gone other stored distinct
      obtain ⟨rest, back⟩ := useOnce_evicted coherent (sameMode.trans lru) (sameMax ▸ roomy) fits held
        (decide_eq_true alive) gone
      rw [back] at recency stored
      rcases List.mem_cons.mp stored with rfl | inside
      · exact absurd rfl distinct
      · exact (List.pairwise_cons.mp recency).1 other inside

/-- A set that fails closed refuses a replay; one that evicts gives up what was used
longest ago. -/
theorem useOnce_contract_runs :
    ((after (newFailClosed 10 2 : Cache ℕ) [(0, 1), (3, 2)]).useOnce 5 1).1 = false ∧
      UsedSince [((0 : ℤ), 1), (1, 2), (2, 1)] 2 1 :=
  ⟨(((useOnce_contract (.inr rfl) (by decide) 1).2.1 rfl).1 [] [(3, 2)] 0 1 rfl (by decide)
      (by decide)).2,
    ((@useOnce_contract ℕ _ 3 (newWithMax 10 2) _ _ _ (.inl rfl) (by decide) 3).2.2 rfl).2
      ⟨2, 11⟩ (by decide) (by decide) (by decide) ⟨1, 10⟩ (by decide) (by decide)⟩

end AnselmGateway.ReplayContract
