import Mathlib.Data.List.Nodup
import Mathlib.Algebra.Order.Ring.Int
import AnselmGateway.Foundation.Recency
import AnselmGateway.NonceCache

/-! What one `UseOnce` does to a cache whose map and list agree: a live entry is
refused and kept, and anything else is admitted under a new lifetime. The three
eviction loops are read as one list operation each. -/
namespace AnselmGateway.NonceCacheSemantics
open Foundation NonceCache
variable {κ : Type} {c : Cache κ} {now : ℤ} {challenge : κ} {e : Entry κ}

/-- The map and the list hold the same keys, each once. -/
structure Coherent (c : Cache κ) : Prop where
  unique : (c.ll.map Entry.challenge).Nodup
  mapped : c.entries.Perm (c.ll.map Entry.challenge)

/-- An entry still counts as a prior use. -/
def Live (now : ℤ) (e : Entry κ) : Bool := decide (now < e.expireAt)

theorem coherent_new (ttl : ℤ) (max : ℤ) : Coherent (newWithMax ttl max : Cache κ) :=
  ⟨List.nodup_nil, .refl _⟩

theorem coherent_newFailClosed (ttl : ℤ) (max : ℤ) : Coherent (newFailClosed ttl max : Cache κ) :=
  ⟨List.nodup_nil, .refl _⟩

/-- The cache is a recency list of its entries under their challenges. -/
theorem coherent_iff : Coherent c ↔ Recency.Agree Entry.challenge c.ll c.entries :=
  ⟨fun agree => ⟨agree.unique, agree.mapped⟩, fun agree => ⟨agree.unique, agree.mapped⟩⟩

theorem Coherent.mem_entries (agree : Coherent c) :
    challenge ∈ c.entries ↔ ∃ e ∈ c.ll, e.challenge = challenge :=
  (coherent_iff.mp agree).mem_keys

/-- One challenge has one entry. -/
theorem Coherent.entry_unique (agree : Coherent c) {first second : Entry κ} (held : first ∈ c.ll)
    (also : second ∈ c.ll) (same : first.challenge = second.challenge) : first = second :=
  List.inj_on_of_nodup_map agree.unique held also same

theorem Coherent.length_entries (agree : Coherent c) : c.entries.length = c.ll.length :=
  (coherent_iff.mp agree).length_keys

variable (c challenge) in
/-- A challenge has an entry or none. -/
theorem entry_or_fresh :
    (∃ e ∈ c.ll, e.challenge = challenge) ∨ ∀ e ∈ c.ll, e.challenge ≠ challenge := by
  by_cases known : ∃ e ∈ c.ll, e.challenge = challenge
  · exact .inl known
  · exact .inr fun e held named => known ⟨e, held, named⟩

variable [DecidableEq κ]

/-! ## The eviction loops -/

/-- The sweep from the back drops the expired entries found there, up to the
first live one. -/
theorem evictExpired_ll (now : ℤ) (agree : Coherent c) :
    (c.evictExpired now).ll = c.ll.dropWhile (fun e => !Live now e) ∧
      Coherent (c.evictExpired now) := by
  obtain ⟨ll, entries, max, ttl, failClosed⟩ := c
  obtain ⟨unique, mapped⟩ := agree
  simp only at unique mapped
  simp only [Cache.evictExpired]
  induction ll generalizing entries with
  | nil => exact ⟨rfl, List.nodup_nil, mapped⟩
  | cons back rest ih =>
    simp only [List.map_cons, List.nodup_cons] at unique
    by_cases live : now < back.expireAt
    · simp only [evictExpiredFrom, if_pos live, List.dropWhile_cons, Live, decide_eq_true live]
      exact ⟨rfl, List.nodup_cons.mpr unique, mapped⟩
    · simp only [evictExpiredFrom, if_neg live, List.dropWhile_cons, Live, decide_eq_false live]
      exact ih _ unique.2 (Recency.deleteKey_perm mapped unique.1)

private theorem evictAllExpiredFrom_eq (now : ℤ) (before : List κ) {ll : List (Entry κ)}
    {entries : List κ}
    (unique : (before ++ ll.map Entry.challenge).Nodup)
    (mapped : entries.Perm (before ++ ll.map Entry.challenge)) :
    (evictAllExpiredFrom now ll entries).1 = ll.filter (Live now) ∧
      (evictAllExpiredFrom now ll entries).2.Perm
        (before ++ (ll.filter (Live now)).map Entry.challenge) := by
  induction ll generalizing entries before with
  | nil => exact ⟨rfl, mapped⟩
  | cons el rest ih =>
    by_cases live : now < el.expireAt
    · -- A live entry is stepped over; its key stays among those already passed.
      have shifted : before ++ (el :: rest).map Entry.challenge =
          (before ++ [el.challenge]) ++ rest.map Entry.challenge := by simp
      rw [shifted] at unique mapped
      obtain ⟨kept, left⟩ := ih _ unique mapped
      simp only [evictAllExpiredFrom, if_pos live, List.filter_cons, Live, decide_eq_true live,
        ↓reduceIte]
      refine ⟨by rw [kept], ?_⟩
      simpa using left
    · simp only [evictAllExpiredFrom, if_neg live, List.filter_cons, Live, decide_eq_false live]
      have moved := mapped.trans List.perm_middle
      have fresh := List.nodup_cons.mp (List.perm_middle.nodup_iff.mp unique)
      exact ih before fresh.2 (Recency.deleteKey_perm moved fresh.1)

/-- The full sweep keeps exactly the live entries. -/
theorem evictAllExpired_ll (now : ℤ) (agree : Coherent c) :
    (c.evictAllExpired now).ll = c.ll.filter (Live now) ∧ Coherent (c.evictAllExpired now) := by
  obtain ⟨kept, left⟩ := evictAllExpiredFrom_eq now [] agree.unique agree.mapped
  have ll : (c.evictAllExpired now).ll = c.ll.filter (Live now) := kept
  refine ⟨ll, ?_, ?_⟩
  · rw [ll]
    exact agree.unique.sublist (List.filter_sublist.map _)
  · rw [ll]
    exact left

private theorem evictOverflowFrom_trim (max : ℕ) (ll : List (Entry κ)) (entries : List κ) :
    evictOverflowFrom max ll entries = Recency.trim Entry.challenge max ll entries := by
  induction ll generalizing entries with
  | nil => rfl
  | cons back rest ih =>
    rw [evictOverflowFrom, ih]
    rfl

/-- The overflow loop drops from the back whatever is past the ceiling. -/
theorem evictOverflow_ll (agree : Coherent c) :
    c.evictOverflow.ll = c.ll.drop (c.ll.length - c.max) ∧ Coherent c.evictOverflow := by
  rw [coherent_iff]
  simp only [Cache.evictOverflow, evictOverflowFrom_trim]
  exact (coherent_iff.mp agree).trim c.max

/-! ## One use -/

/-- No use changes the ceiling, the lifetime or the mode. -/
theorem useOnce_settings (c : Cache κ) (now : ℤ) (challenge : κ) :
    (c.useOnce now challenge).2.max = c.max ∧ (c.useOnce now challenge).2.ttl = c.ttl ∧
      (c.useOnce now challenge).2.failClosed = c.failClosed := by
  unfold Cache.useOnce Cache.insertNew
  dsimp only
  repeat' split
  all_goals exact ⟨rfl, rfl, rfl⟩

private theorem coherent_moveToFront (agree : Coherent c) (held : e ∈ c.ll) {moved : Entry κ}
    (named : moved.challenge = e.challenge) : Coherent (c.moveToFront moved) :=
  coherent_iff.mpr ((coherent_iff.mp agree).toFront (agree.mem_entries.mpr ⟨e, held, rfl⟩) named)

/-- A challenge with an entry is refused while the entry lives and re-admitted
in place once it has expired; either way no other entry is touched. -/
theorem useOnce_known (agree : Coherent c) (held : e ∈ c.ll) (now : ℤ) :
    (c.useOnce now e.challenge = if Live now e then (false, c.moveToFront e)
      else (true, c.moveToFront ⟨e.challenge, now + c.ttl⟩)) ∧
    Coherent (c.useOnce now e.challenge).2 := by
  have mapped : e.challenge ∈ c.entries := agree.mem_entries.mpr ⟨e, held, rfl⟩
  have found : c.ll.find? (fun other => other.challenge = e.challenge) = some e :=
    (Recency.lookup_some_iff agree.unique).mpr ⟨held, rfl⟩
  have used : c.useOnce now e.challenge = if Live now e then (false, c.moveToFront e)
      else (true, c.moveToFront ⟨e.challenge, now + c.ttl⟩) := by
    simp only [Cache.useOnce, if_pos mapped, found, Live, decide_eq_true_eq]
  refine ⟨used, ?_⟩
  rw [used]
  split
  · exact coherent_moveToFront agree held rfl
  · exact coherent_moveToFront agree held rfl

/-- A use without an entry goes on to admission. -/
theorem useOnce_unknown (agree : Coherent c) (fresh : ∀ e ∈ c.ll, e.challenge ≠ challenge) :
    c.useOnce now challenge = c.insertNew now challenge := by
  have unmapped : challenge ∉ c.entries := fun mapped => by
    obtain ⟨e, held, named⟩ := agree.mem_entries.mp mapped
    exact fresh e held named
  simp only [Cache.useOnce, if_neg unmapped]

omit [DecidableEq κ] in
private theorem coherent_pushFront (agree : Coherent c) (fresh : ∀ e ∈ c.ll, e.challenge ≠ challenge)
    (expireAt : ℤ) : Coherent (c.pushFront ⟨challenge, expireAt⟩) := by
  have unmapped : challenge ∉ c.entries := by
    intro mapped
    obtain ⟨e, held, named⟩ := agree.mem_entries.mp mapped
    exact fresh e held named
  exact coherent_iff.mpr ((coherent_iff.mp agree).push unmapped rfl)

omit [DecidableEq κ] in
theorem mem_dropWhile_of_live {ll : List (Entry κ)} (held : e ∈ ll)
    (alive : Live now e = true) : e ∈ ll.dropWhile fun e => !Live now e := by
  induction ll with
  | nil => cases held
  | cons back rest ih =>
    rw [List.dropWhile_cons]
    split
    · rename_i expired
      rcases List.mem_cons.mp held with rfl | inside
      · simp [alive] at expired
      · exact ih inside
    · exact held

/-- Admission to an evicting cache always succeeds: the expired tail is dropped,
the new entry goes to the front, and the back gives way past the ceiling. -/
theorem admit_lru (agree : Coherent c) (lru : c.failClosed = false)
    (fresh : ∀ e ∈ c.ll, e.challenge ≠ challenge) (now : ℤ) :
    (c.insertNew now challenge).1 = true ∧
      (c.insertNew now challenge).2.ll =
        (c.ll.dropWhile (fun e => !Live now e) ++ [(⟨challenge, now + c.ttl⟩ : Entry κ)]).drop
          ((c.ll.dropWhile fun e => !Live now e).length + 1 - c.max) ∧
      Coherent (c.insertNew now challenge).2 := by
  obtain ⟨kept, swept⟩ := evictExpired_ll now agree
  have still : ∀ e ∈ (c.evictExpired now).ll, e.challenge ≠ challenge := fun e held =>
    fresh e ((List.dropWhile_suffix _).subset (kept ▸ held))
  obtain ⟨dropped, trimmed⟩ :=
    evictOverflow_ll (coherent_pushFront swept still (now + c.ttl))
  have admitted : c.insertNew now challenge =
      (true, ((c.evictExpired now).pushFront ⟨challenge, now + c.ttl⟩).evictOverflow) := by
    simp [Cache.insertNew, Cache.evictExpired, Cache.pushFront, lru]
  rw [admitted]
  refine ⟨rfl, ?_, trimmed⟩
  rw [dropped]
  simp only [Cache.pushFront, kept, List.length_append, List.length_cons, List.length_nil]
  rfl

/-- Admission to a fail-closed cache keeps every live entry, and refuses only
when live entries fill it. -/
theorem admit_failClosed (agree : Coherent c) (closed : c.failClosed = true)
    (fresh : ∀ e ∈ c.ll, e.challenge ≠ challenge) (now : ℤ) :
    Coherent (c.insertNew now challenge).2 ∧ ∃ kept : List (Entry κ), kept.Sublist c.ll ∧
      (∀ e ∈ c.ll, Live now e = true → e ∈ kept) ∧
      (c.insertNew now challenge).1 = decide (kept.length < c.max) ∧
      (c.insertNew now challenge).2.ll =
        (if kept.length < c.max then kept ++ [⟨challenge, now + c.ttl⟩] else kept) ∧
      (c.max ≤ kept.length → ∀ e ∈ kept, Live now e = true) := by
  obtain ⟨kept, swept⟩ := evictExpired_ll now agree
  have sublist : (c.evictExpired now).ll.Sublist c.ll := kept ▸ (List.dropWhile_suffix _).sublist
  have live : ∀ e ∈ c.ll, Live now e = true → e ∈ (c.evictExpired now).ll := fun e held alive =>
    kept ▸ mem_dropWhile_of_live held alive
  have still : ∀ e ∈ (c.evictExpired now).ll, e.challenge ≠ challenge := fun e held =>
    fresh e (sublist.subset held)
  have length := swept.length_entries
  by_cases room : (c.evictExpired now).ll.length < c.max
  · have admitted : c.insertNew now challenge =
        (true, (c.evictExpired now).pushFront ⟨challenge, now + c.ttl⟩) := by
      have unsaturated : ¬c.max ≤ (c.evictExpired now).entries.length := by
        rw [length]
        exact Nat.not_le.mpr room
      simp only [Cache.evictExpired] at unsaturated
      simp [Cache.insertNew, unsaturated, closed, Cache.evictExpired, Cache.pushFront]
    rw [admitted]
    refine ⟨coherent_pushFront swept still _, (c.evictExpired now).ll, sublist, live,
      (decide_eq_true room).symm, ?_, fun full => absurd room (Nat.not_lt.mpr full)⟩
    rw [if_pos room]
    rfl
  · obtain ⟨left, reswept⟩ := evictAllExpired_ll now swept
    -- At the ceiling the full sweep decides, and what it leaves is live.
    have saturated : c.max ≤ (c.evictExpired now).entries.length := by
      rw [length]
      exact Nat.not_lt.mp room
    have relength := reswept.length_entries
    have admitted : c.insertNew now challenge =
        if ((c.evictExpired now).evictAllExpired now).entries.length ≥ c.max then
          (false, (c.evictExpired now).evictAllExpired now)
        else (true, ((c.evictExpired now).evictAllExpired now).pushFront ⟨challenge, now + c.ttl⟩) := by
      simp only [Cache.evictExpired] at saturated
      simp [Cache.insertNew, saturated, closed, Cache.evictExpired, Cache.evictAllExpired,
        Cache.pushFront]
    have kept' : ∀ e ∈ c.ll, Live now e = true →
        e ∈ ((c.evictExpired now).evictAllExpired now).ll := fun e held alive => by
      rw [left]
      exact List.mem_filter.mpr ⟨live e held alive, alive⟩
    have alive' : ∀ e ∈ ((c.evictExpired now).evictAllExpired now).ll, Live now e = true := by
      intro e held
      rw [left] at held
      exact (List.mem_filter.mp held).2
    have sublist' : ((c.evictExpired now).evictAllExpired now).ll.Sublist c.ll := by
      rw [left]
      exact List.filter_sublist.trans sublist
    rw [admitted, relength]
    by_cases room' : ((c.evictExpired now).evictAllExpired now).ll.length < c.max
    · rw [if_neg (Nat.not_le.mpr room')]
      exact ⟨coherent_pushFront reswept (fun e held => fresh e (sublist'.subset held)) _,
        _, sublist', kept', (decide_eq_true room').symm, (if_pos room').symm, fun _ => alive'⟩
    · rw [if_pos (Nat.not_lt.mp room')]
      exact ⟨reswept, _, sublist', kept', (decide_eq_false room').symm, (if_neg room').symm,
        fun _ => alive'⟩

/-! ## The contract of a use -/

theorem useOnce_coherent (agree : Coherent c) (now : ℤ) (challenge : κ) :
    Coherent (c.useOnce now challenge).2 := by
  rcases entry_or_fresh c challenge with ⟨e, held, rfl⟩ | fresh
  · exact (useOnce_known agree held now).2
  · rw [useOnce_unknown agree fresh]
    cases mode : c.failClosed with
    | false => exact (admit_lru agree mode fresh now).2.2
    | true => exact (admit_failClosed agree mode fresh now).1

/-- A live entry refuses its challenge. -/
theorem useOnce_replayed (agree : Coherent c) (held : e ∈ c.ll) (alive : Live now e = true) :
    c.useOnce now e.challenge = (false, c.moveToFront e) := by
  rw [(useOnce_known agree held now).1, if_pos alive]

/-- A use that finds an entry keeps every live one. -/
private theorem useOnce_known_keeps {other : Entry κ} (agree : Coherent c) (stored : other ∈ c.ll)
    (held : e ∈ c.ll) (alive : Live now e = true) : e ∈ (c.useOnce now other.challenge).2.ll := by
  rw [(useOnce_known agree stored now).1]
  by_cases same : e.challenge = other.challenge
  · obtain rfl := agree.entry_unique held stored same
    rw [if_pos alive]
    simp [Cache.moveToFront]
  · split <;> simp [Cache.moveToFront, held, same]

/-- A challenge whose entry is readmitted had that entry expired and has a new one. -/
private theorem useOnce_readmitted (agree : Coherent c) (held : e ∈ c.ll)
    (admitted : (c.useOnce now e.challenge).1 = true) :
    (∀ other ∈ c.ll, other.challenge = e.challenge → Live now other = false) ∧
      (⟨e.challenge, now + c.ttl⟩ : Entry κ) ∈ (c.useOnce now e.challenge).2.ll := by
  cases alive : Live now e with
  | true =>
    rw [useOnce_replayed agree held alive] at admitted
    cases admitted
  | false =>
    refine ⟨fun other stored same => ?_, ?_⟩
    · rw [agree.entry_unique stored held same, alive]
    · rw [(useOnce_known agree held now).1, if_neg (by simp [alive])]
      simp [Cache.moveToFront]

/-- Whatever is used, a fail-closed cache keeps every live entry as it is. -/
theorem useOnce_keeps_live (agree : Coherent c) (closed : c.failClosed = true) (held : e ∈ c.ll)
    (alive : Live now e = true) (challenge : κ) : e ∈ (c.useOnce now challenge).2.ll := by
  rcases entry_or_fresh c challenge with ⟨other, stored, rfl⟩ | fresh
  · exact useOnce_known_keeps agree stored held alive
  · rw [useOnce_unknown agree fresh]
    obtain ⟨_, kept, _, live, _, ll, _⟩ := admit_failClosed agree closed fresh now
    rw [ll]
    split
    · exact List.mem_append_left _ (live e held alive)
    · exact live e held alive

/-- What a fail-closed cache admits had no live entry and has a new one. -/
theorem useOnce_admitted (agree : Coherent c) (closed : c.failClosed = true)
    (admitted : (c.useOnce now challenge).1 = true) :
    (∀ e ∈ c.ll, e.challenge = challenge → Live now e = false) ∧
      (⟨challenge, now + c.ttl⟩ : Entry κ) ∈ (c.useOnce now challenge).2.ll := by
  rcases entry_or_fresh c challenge with ⟨e, held, rfl⟩ | fresh
  · exact useOnce_readmitted agree held admitted
  · refine ⟨fun e held named => absurd named (fresh e held), ?_⟩
    rw [useOnce_unknown agree fresh] at admitted ⊢
    obtain ⟨_, kept, _, _, verdict, ll, _⟩ := admit_failClosed agree closed fresh now
    rw [verdict] at admitted
    rw [ll, if_pos (of_decide_eq_true admitted)]
    simp

/-! ## Evicting caches -/

/-- An evicting cache refuses only what has a live entry, and then only moves
that entry. -/
theorem useOnce_refused (agree : Coherent c) (lru : c.failClosed = false)
    (refused : (c.useOnce now challenge).1 = false) :
    ∃ e ∈ c.ll, e.challenge = challenge ∧ Live now e = true ∧
      (c.useOnce now challenge).2 = c.moveToFront e := by
  rcases entry_or_fresh c challenge with ⟨e, held, rfl⟩ | fresh
  · have used := (useOnce_known agree held now).1
    cases alive : Live now e with
    | true => exact ⟨e, held, rfl, alive, by rw [used, if_pos alive]⟩
    | false =>
      rw [used, if_neg (by simp [alive])] at refused
      cases refused
  · rw [useOnce_unknown agree fresh, (admit_lru agree lru fresh now).1] at refused
    cases refused

/-- Moving an entry to the front leaves the set of entries as it is. -/
theorem moveToFront_perm (agree : Coherent c) (held : e ∈ c.ll) :
    (c.moveToFront e).ll.Perm c.ll := by
  have moved := coherent_moveToFront agree held rfl
  apply (List.perm_ext_iff_of_nodup (moved.unique.of_map _) (agree.unique.of_map _)).mpr
  intro other
  simp only [Cache.moveToFront, List.mem_append, List.mem_filter, decide_eq_true_eq,
    List.mem_singleton]
  constructor
  · rintro (⟨stored, _⟩ | rfl)
    · exact stored
    · exact held
  · intro stored
    by_cases same : other.challenge = e.challenge
    · exact .inr (agree.entry_unique stored held same)
    · exact .inl ⟨stored, same⟩

/-- A use adds at most the one entry it admits. -/
theorem useOnce_origin (agree : Coherent c) (stored : e ∈ (c.useOnce now challenge).2.ll) :
    e ∈ c.ll ∨ e = ⟨challenge, now + c.ttl⟩ := by
  rcases entry_or_fresh c challenge with ⟨other, held, rfl⟩ | fresh
  · rw [(useOnce_known agree held now).1] at stored
    split at stored
    · exact .inl ((moveToFront_perm agree held).subset stored)
    · rcases List.mem_append.mp stored with earlier | last
      · exact .inl (List.mem_filter.mp earlier).1
      · exact .inr (List.mem_singleton.mp last)
  · rw [useOnce_unknown agree fresh] at stored
    cases mode : c.failClosed with
    | false =>
      rw [(admit_lru agree mode fresh now).2.1] at stored
      rcases List.mem_append.mp (List.mem_of_mem_drop stored) with earlier | last
      · exact .inl ((List.dropWhile_suffix _).subset earlier)
      · exact .inr (List.mem_singleton.mp last)
    | true =>
      obtain ⟨_, kept, sublist, _, _, ll, _⟩ := admit_failClosed agree mode fresh now
      rw [ll] at stored
      split at stored
      · rcases List.mem_append.mp stored with earlier | last
        · exact .inl (sublist.subset earlier)
        · exact .inr (List.mem_singleton.mp last)
      · exact .inl (sublist.subset stored)

/-- The order an evicting cache keeps when every refresh of a live entry comes
within `slack` of its admission: an entry outlives those used after it by no
more than that, none outlives the lifetime, and they fit. -/
structure Ranked (slack now : ℤ) (c : Cache κ) : Prop where
  ordered : c.ll.Pairwise fun back front => back.expireAt ≤ front.expireAt + slack
  bounded : ∀ e ∈ c.ll, e.expireAt ≤ now + c.ttl
  fits : c.ll.length ≤ c.max

omit [DecidableEq κ] in
theorem Ranked.later {slack later : ℤ} (ranked : Ranked slack now c) (after : now ≤ later) :
    Ranked slack later c :=
  ⟨ranked.ordered, fun e held => (ranked.bounded e held).trans (Int.add_le_add_right after _),
    ranked.fits⟩

private theorem ranked_moveToFront {slack : ℤ} (ranked : Ranked slack now c) (agree : Coherent c)
    (held : e ∈ c.ll) {moved : Entry κ} (named : moved.challenge = e.challenge)
    (recent : now + c.ttl ≤ moved.expireAt + slack) (within : moved.expireAt ≤ now + c.ttl) :
    Ranked slack now (c.moveToFront moved) := by
  constructor
  · refine List.pairwise_append.mpr ⟨ranked.ordered.sublist List.filter_sublist,
      List.pairwise_singleton _ _, ?_⟩
    intro back earlier front last
    obtain rfl := List.mem_singleton.mp last
    exact (ranked.bounded back (List.mem_filter.mp earlier).1).trans recent
  · intro other stored
    rcases List.mem_append.mp stored with earlier | last
    · exact ranked.bounded other (List.mem_filter.mp earlier).1
    · obtain rfl := List.mem_singleton.mp last
      exact within
  · rw [← (coherent_moveToFront agree held named).length_entries]
    change c.entries.length ≤ c.max
    rw [agree.length_entries]
    exact ranked.fits

/-- One use keeps the order. -/
theorem Ranked.useOnce {slack : ℤ} (ranked : Ranked slack now c) (nonneg : 0 ≤ slack)
    (agree : Coherent c) (lru : c.failClosed = false)
    (refreshed : ∀ e ∈ c.ll, e.challenge = challenge → Live now e = true →
      now + c.ttl ≤ e.expireAt + slack) :
    Ranked slack now (c.useOnce now challenge).2 := by
  rcases entry_or_fresh c challenge with ⟨e, held, rfl⟩ | fresh
  · rw [(useOnce_known agree held now).1]
    split
    · rename_i alive
      exact ranked_moveToFront ranked agree held rfl (refreshed e held rfl alive)
        (ranked.bounded e held)
    · exact ranked_moveToFront ranked agree held rfl (by dsimp only; omega) (le_refl _)
  · obtain ⟨_, sameTtl, _⟩ := useOnce_settings c now challenge
    obtain ⟨sameMax, _, _⟩ := useOnce_settings c now challenge
    rw [useOnce_unknown agree fresh] at sameTtl sameMax ⊢
    obtain ⟨_, ll, _⟩ := admit_lru agree lru fresh now
    have swept := List.dropWhile_suffix (l := c.ll) fun e => !Live now e
    have bounded : ∀ e ∈ c.ll.dropWhile (fun e => !Live now e) ++
        [(⟨challenge, now + c.ttl⟩ : Entry κ)], e.expireAt ≤ now + c.ttl := by
      intro e stored
      rcases List.mem_append.mp stored with earlier | last
      · exact ranked.bounded e (swept.subset earlier)
      · obtain rfl := List.mem_singleton.mp last
        exact le_refl _
    constructor
    · rw [ll]
      refine List.Pairwise.sublist (List.drop_sublist _ _) (List.pairwise_append.mpr
        ⟨ranked.ordered.sublist swept.sublist, List.pairwise_singleton _ _, ?_⟩)
      intro back earlier front last
      obtain rfl := List.mem_singleton.mp last
      have := ranked.bounded back (swept.subset earlier)
      dsimp only
      omega
    · rw [ll, sameTtl]
      exact fun e stored => bounded e (List.mem_of_mem_drop stored)
    · rw [ll, sameMax, List.length_drop, List.length_append, List.length_singleton]
      omega

/-- While live entries leave room, an ordered cache keeps every entry that has
more than the slack left. -/
theorem Ranked.keeps {slack : ℤ} (ranked : Ranked slack now c) (nonneg : 0 ≤ slack)
    (agree : Coherent c) (lru : c.failClosed = false) (room : c.ll.countP (Live now) < c.max)
    (held : e ∈ c.ll) (young : now + slack < e.expireAt) (challenge : κ) :
    e ∈ (c.useOnce now challenge).2.ll := by
  have alive : Live now e = true := by
    simp only [Live, decide_eq_true_eq]
    omega
  rcases entry_or_fresh c challenge with ⟨other, stored, rfl⟩ | fresh
  · exact useOnce_known_keeps agree stored held alive
  · rw [useOnce_unknown agree fresh, (admit_lru agree lru fresh now).2.1]
    have kept := mem_dropWhile_of_live held alive
    have swept := List.dropWhile_suffix (l := c.ll) fun e => !Live now e
    have short := swept.length_le.trans ranked.fits
    have ordered := ranked.ordered.sublist swept.sublist
    have living := (swept.sublist.countP_le (p := Live now)).trans_lt room
    generalize c.ll.dropWhile (fun e => !Live now e) = left at kept short ordered living
    by_cases full : left.length < c.max
    · rw [show left.length + 1 - c.max = 0 by omega, List.drop_zero]
      exact List.mem_append_left _ kept
    · rw [show left.length + 1 - c.max = 1 by omega]
      cases left with
      | nil => cases kept
      | cons back rest =>
        rcases List.mem_cons.mp kept with rfl | inside
        · -- Behind a young entry all are live, and live entries do not fill the cache.
          exfalso
          have all : (e :: rest).countP (Live now) = (e :: rest).length := by
            rw [List.countP_eq_length]
            intro other stored
            rcases List.mem_cons.mp stored with rfl | behind
            · exact alive
            · have := List.rel_of_pairwise_cons ordered behind
              simp only [Live, decide_eq_true_eq]
              omega
          omega
        · exact List.mem_append_left _ inside

/-- What an evicting cache admits had no live entry and has a new one. -/
theorem useOnce_entered (agree : Coherent c) (lru : c.failClosed = false) (roomy : 0 < c.max)
    (admitted : (c.useOnce now challenge).1 = true) :
    (∀ e ∈ c.ll, e.challenge = challenge → Live now e = false) ∧
      (⟨challenge, now + c.ttl⟩ : Entry κ) ∈ (c.useOnce now challenge).2.ll := by
  rcases entry_or_fresh c challenge with ⟨e, held, rfl⟩ | fresh
  · exact useOnce_readmitted agree held admitted
  · refine ⟨fun e held named => absurd named (fresh e held), ?_⟩
    rw [useOnce_unknown agree fresh, (admit_lru agree lru fresh now).2.1, List.drop_append_of_le_length]
    · exact List.mem_append_right _ (List.mem_singleton_self _)
    · omega

end AnselmGateway.NonceCacheSemantics
