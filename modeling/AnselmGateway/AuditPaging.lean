import AnselmGateway.AuditRing
import AnselmGateway.Foundation.Run

/-! A reader of the audit ring among its writers: it starts at the newest event, and asks
below the cursor it was given until that is zero. What it is still to read can be
overwritten, and nothing it is still to read can be added. -/
namespace AnselmGateway.AuditPaging
open Foundation AuditRing

/-- A ring with a reader: what it will ask below, what it was given, and whether it stopped. -/
structure Reader where
  ring : Ring
  cursor : ℤ
  delivered : List AuditEvent
  done : Bool

/-- A reader about to read its first page. -/
def opened (ring : Ring) : Reader := { ring := ring, cursor := 0, delivered := [], done := false }

inductive Action where
  | record (e : AuditEvent) (now : ℤ)
  | page (limit : ℤ)
  deriving DecidableEq

/-- A write, or a page of a reader that has not stopped. -/
def step (r : Reader) : Action → Reader
  | .record e now => { r with ring := r.ring.record e now }
  | .page limit =>
    if r.done then r
    else
      match r.ring.audit r.cursor limit with
      | (events, next) =>
        { r with delivered := r.delivered ++ events, cursor := next, done := next == 0 }

/-- A ring after some writes. -/
def written (capacity : ℤ) (writes : List (AuditEvent × ℤ)) : Ring :=
  runSteps (fun a write => a.record write.1 write.2) (newAuditRing capacity) writes

/-- The ring holds an event older than the last one delivered, or any before one was. -/
def Remains (r : Reader) : Prop :=
  ∃ ev ∈ r.ring.held, ∀ last ∈ r.delivered.getLast?, ev.seq < last.seq

/-- Newest first, each event once. -/
def Descending (events : List AuditEvent) : Prop := events.Pairwise fun a b => b.seq < a.seq

variable {a : Ring} {log walked events : List AuditEvent} {r : Reader} {first limit : ℕ} {cursor : ℤ}

/-! ## Events newest first -/

theorem Descending.take_or_older (descending : Descending events) (limit : ℕ) {ev : AuditEvent} (listed : ev ∈ events) :
    ev ∈ events.take limit ∨ ∀ shown ∈ events.take limit, ev.seq < shown.seq := by
  rw [Descending, ← List.take_append_drop limit events, List.pairwise_append] at descending
  rw [← List.take_append_drop limit events, List.mem_append] at listed
  exact listed.imp_right fun further shown inside => descending.2.2 shown inside ev further

theorem Descending.last_le (descending : Descending events) {last ev : AuditEvent}
    (ends : last ∈ events.getLast?) (listed : ev ∈ events) : last.seq ≤ ev.seq := by
  obtain ⟨earlier, rfl⟩ := List.getLast?_eq_some_iff.mp ends
  rw [Descending, List.pairwise_append] at descending
  rcases List.mem_append.mp listed with before | here
  · exact (descending.2.2 ev before last (List.mem_singleton_self last)).le
  · rw [List.mem_singleton.mp here]

theorem latest_descending (keeps : Keeps a log) (width : ℕ) : Descending (latest width log) := by
  have ascending : log.Pairwise fun a b => a.seq < b.seq := by
    rw [List.pairwise_iff_getElem]
    intro i j before behind order
    rw [keeps.numbered i before, keeps.numbered j behind]
    omega
  exact (List.pairwise_reverse.mpr ascending).sublist (List.take_sublist _ _)

theorem mem_eligible {ev : AuditEvent} :
    ev ∈ eligible cursor walked ↔ ev ∈ walked ∧ ev.seq ≠ 0 ∧ (cursor > 0 → ev.seq < cursor) := by
  rw [eligible, List.mem_filter]
  simp only [ne_eq, Bool.and_eq_true, decide_eq_true_eq, Bool.not_eq_true', decide_eq_false_iff_not]
  refine and_congr_right fun _ => and_congr_right fun _ => ?_
  omega

theorem seq_pos (keeps : Keeps a log) {width : ℕ} {ev : AuditEvent} (recent : ev ∈ latest width log) :
    0 < ev.seq := by
  obtain ⟨i, found, _⟩ := mem_latest.mp recent
  obtain ⟨inside, rfl⟩ := List.getElem?_eq_some_iff.mp found
  rw [keeps.numbered i inside]
  omega

/-! ## The reader's position -/

/-- Where a reader stands: everything that was in the log when it opened and is not before
its cursor was delivered to it or is overwritten. -/
structure Stands (r : Reader) (log : List AuditEvent) (first : ℕ) : Prop where
  keeps : Keeps r.ring log
  known : first ≤ log.length
  descending : Descending r.delivered
  cursor : r.done = false → r.cursor = cursorOf r.delivered 0
  positive : ∀ ev ∈ r.delivered, 0 < ev.seq
  covered : ∀ i (inside : i < log.length), i < first →
    r.done = true ∨ (r.delivered ≠ [] ∧ r.cursor ≤ i + 1) →
      log[i] ∈ r.delivered ∨ i + r.ring.buf.length < log.length

theorem stands_opened (keeps : Keeps a log) : Stands (opened a) log log.length where
  keeps := keeps
  known := Nat.le_refl _
  descending := List.Pairwise.nil
  cursor _ := rfl
  positive := nofun
  covered _ _ _ := by
    rintro (stopped | ⟨some_, _⟩)
    · cases stopped
    · exact absurd rfl some_

/-- A write adds what the reader is past already, and can only take what it has not read. -/
theorem Stands.record (stands : Stands r log first) (e : AuditEvent) (now : ℤ) :
    Stands (step r (.record e now)) (log ++ [stamped log e now]) first where
  keeps := keeps_record stands.keeps e now
  known := by
    have known := stands.known
    simp
    omega
  descending := stands.descending
  cursor := stands.cursor
  positive := stands.positive
  covered i inside old past := by
    have before : i < log.length := Nat.lt_of_lt_of_le old stands.known
    have width : (step r (.record e now)).ring.buf.length = r.ring.buf.length := List.length_set
    rw [List.getElem_append_left before, width, List.length_append]
    exact (stands.covered i before old past).imp_right fun lost => Nat.lt_add_right _ lost

/-! ## One page -/

/-- The number of rows a request of this limit is for. -/
def pageSize (limit : ℤ) : ℕ := if limit ≤ 0 then 50 else limit.toNat

theorem pageSize_pos (limit : ℤ) : 0 < pageSize limit := by
  unfold pageSize
  split <;> omega

/-- What a reader may be shown, and what a page shows it. -/
def ahead (r : Reader) (log : List AuditEvent) : List AuditEvent :=
  eligible r.cursor (latest r.ring.buf.length log)

def shown (r : Reader) (log : List AuditEvent) (limit : ℤ) : List AuditEvent :=
  (ahead r log).take (pageSize limit)

theorem cursorOf_ne (otherwise : ℤ) (some_ : events ≠ []) (positive : ∀ ev ∈ events, 0 < ev.seq) :
    ∃ last ∈ events.getLast?, cursorOf events otherwise = last.seq ∧ cursorOf events otherwise ≠ 0 := by
  have ends := List.getLast?_eq_some_getLast some_
  refine ⟨events.getLast some_, ends, ?_⟩
  have above := positive _ (List.getLast_mem some_)
  rw [cursorOf, ends]
  exact ⟨rfl, above.ne'⟩

theorem audit_eq (keeps : Keeps r.ring log) (limit : ℤ) :
    r.ring.audit r.cursor limit = (shown r log limit,
      if pageSize limit < (ahead r log).length then cursorOf (shown r log limit) 0 else 0) := by
  unfold Ring.audit Ring.page
  rw [keeps.walk, pageFrom_eq (Nat.zero_le _)]
  simp only [List.nil_append, List.length_nil, Nat.sub_zero, decide_eq_true_eq]
  rfl

theorem step_page (keeps : Keeps r.ring log) (going : r.done = false) (limit : ℤ) :
    step r (.page limit) =
      let next := if pageSize limit < (ahead r log).length then cursorOf (shown r log limit) 0 else 0
      { r with delivered := r.delivered ++ shown r log limit, cursor := next, done := next == 0 } := by
  rw [step, going, audit_eq keeps]
  rfl

section
variable (stands : Stands r log first) (going : r.done = false)

include stands in
theorem ahead_descending : Descending (ahead r log) :=
  (latest_descending stands.keeps _).sublist List.filter_sublist

include stands in
theorem ahead_pos {ev : AuditEvent} (listed : ev ∈ ahead r log) : 0 < ev.seq :=
  seq_pos stands.keeps (mem_eligible.mp listed).1

include stands going in
/-- What is ahead is older than all that was delivered. -/
theorem ahead_older {ev old : AuditEvent} (listed : ev ∈ ahead r log) (given : old ∈ r.delivered) :
    ev.seq < old.seq := by
  obtain ⟨last, ends, cursor, _⟩ := cursorOf_ne 0 (List.ne_nil_of_mem given) stands.positive
  have above := stands.positive last (List.mem_of_getLast? ends)
  rw [← stands.cursor going] at cursor
  have below := (mem_eligible.mp listed).2.2 (by omega)
  have order := stands.descending.last_le ends given
  omega

include stands going in
/-- What the ring holds is ahead, or not before the cursor of something delivered. -/
theorem ahead_or_past {ev : AuditEvent} (recent : ev ∈ latest r.ring.buf.length log) :
    ev ∈ ahead r log ∨ (r.delivered ≠ [] ∧ r.cursor ≤ ev.seq) := by
  have positive := seq_pos stands.keeps recent
  by_cases newer : r.cursor > 0 ∧ r.cursor ≤ ev.seq
  · refine Or.inr ⟨fun none_ => ?_, newer.2⟩
    have start := stands.cursor going
    rw [none_] at start
    simp only [cursorOf, List.getLast?_nil, Option.map_none, Option.getD_none] at start
    omega
  · exact Or.inl (mem_eligible.mpr ⟨recent, by omega, by omega⟩)

end

section
variable (stands : Stands r log first) (going : r.done = false)

include stands going in
theorem delivered_descending (limit : ℤ) : Descending (r.delivered ++ shown r log limit) := by
  refine List.pairwise_append.mpr ⟨stands.descending, ?_, fun old given ev listed => ?_⟩
  · exact (ahead_descending stands).sublist (List.take_sublist _ _)
  · exact ahead_older stands going (List.mem_of_mem_take listed) given

include stands in
theorem shown_pos {limit : ℤ} {ev : AuditEvent} (listed : ev ∈ shown r log limit) : 0 < ev.seq :=
  ahead_pos stands (List.mem_of_mem_take listed)

include stands in
/-- A page that is not the last one ends at its own last event. -/
theorem exists_last {limit : ℤ} (more : pageSize limit < (ahead r log).length) :
    ∃ last ∈ (r.delivered ++ shown r log limit).getLast?, last ∈ (shown r log limit).getLast? ∧
      cursorOf (shown r log limit) 0 = last.seq ∧ last.seq ≠ 0 := by
  have some_ : shown r log limit ≠ [] := by
    have size := pageSize_pos limit
    rw [ne_eq, ← List.length_eq_zero_iff, shown, List.length_take]
    omega
  obtain ⟨last, ends, cursor, positive⟩ := cursorOf_ne 0 some_ fun _ => shown_pos stands
  refine ⟨last, ?_, ends, cursor, cursor ▸ positive⟩
  rw [Option.mem_def] at ends ⊢
  rw [List.getLast?_append, ends]
  rfl

end

/-- What was there at the start is delivered, overwritten or still ahead. -/
theorem covered_or_ahead (stands : Stands r log first) (going : r.done = false) {i : ℕ} (inside : i < log.length)
    (old : i < first) :
    (log[i] ∈ r.delivered ∨ i + r.ring.buf.length < log.length) ∨ log[i] ∈ ahead r log := by
  by_cases lost : i + r.ring.buf.length < log.length
  · exact Or.inl (Or.inr lost)
  · have recent : log[i] ∈ latest r.ring.buf.length log :=
      mem_latest.mpr ⟨i, List.getElem?_eq_getElem inside, Nat.not_lt.mp lost⟩
    rcases ahead_or_past stands going recent with further | past
    · exact Or.inr further
    · rw [stands.keeps.numbered i inside] at past
      exact Or.inl (stands.covered i inside old (Or.inr past))

/-- A page is delivered in order, and what it leaves out is behind its cursor. -/
theorem Stands.page (stands : Stands r log first) (limit : ℤ) : Stands (step r (.page limit)) log first := by
  cases going : r.done with
  | true => rwa [step, going]
  | false =>
    rw [step_page stands.keeps going]
    dsimp only
    have positive : ∀ ev ∈ r.delivered ++ shown r log limit, 0 < ev.seq := fun ev listed =>
      (List.mem_append.mp listed).elim (stands.positive ev) (shown_pos stands)
    by_cases more : pageSize limit < (ahead r log).length
    · obtain ⟨last, ends, end_, cursor, nonzero⟩ := exists_last stands more
      rw [if_pos more, cursor]
      refine ⟨stands.keeps, stands.known, delivered_descending stands going limit, fun _ => ?_, positive,
        fun i inside old past => ?_⟩
      · rw [cursorOf, Option.mem_def.mp ends]
        rfl
      · rcases past with stopped | ⟨_, within⟩
        · exact absurd (eq_of_beq stopped) nonzero
        · rcases covered_or_ahead stands going inside old with covered | further
          · exact covered.imp_left (List.mem_append_left _)
          · rcases (ahead_descending stands).take_or_older (pageSize limit) further with here | older
            · exact Or.inl (List.mem_append_right _ here)
            · have behind := older last (List.mem_of_getLast? end_)
              rw [stands.keeps.numbered i inside] at behind
              exact absurd within (Int.not_le.mpr behind)
    · have whole : shown r log limit = ahead r log := List.take_of_length_le (Nat.not_lt.mp more)
      rw [if_neg more]
      refine ⟨stands.keeps, stands.known, delivered_descending stands going limit,
        fun open_ => absurd open_ (by simp), positive, fun i inside old _ => ?_⟩
      rcases covered_or_ahead stands going inside old with covered | further
      · exact covered.imp_left (List.mem_append_left _)
      · exact Or.inl (List.mem_append_right _ (whole ▸ further))

/-- A reader is given zero exactly when the ring holds nothing older than it was delivered. -/
theorem zero_iff (stands : Stands r log first) (going : r.done = false) (limit : ℤ) :
    (step r (.page limit)).cursor = 0 ↔ ¬ Remains (step r (.page limit)) := by
  rw [step_page stands.keeps going]
  dsimp only
  by_cases more : pageSize limit < (ahead r log).length
  · obtain ⟨last, ends, end_, cursor, nonzero⟩ := exists_last stands more
    rw [if_pos more, cursor]
    refine ⟨fun zero => absurd zero nonzero, fun none_ => absurd ?_ none_⟩
    -- The first event the page leaves out is older, and still in the ring.
    have left : (ahead r log)[pageSize limit] ∈ (ahead r log).drop (pageSize limit) := by
      rw [List.drop_eq_getElem_cons more]
      exact List.mem_cons_self
    have descending := ahead_descending stands
    rw [Descending, ← List.take_append_drop (pageSize limit) (ahead r log), List.pairwise_append] at descending
    refine ⟨_, stands.keeps.mem_held.mpr (mem_eligible.mp (List.mem_of_mem_drop left)).1, fun other other_ends => ?_⟩
    rw [Option.mem_unique other_ends ends]
    exact descending.2.2 last (List.mem_of_getLast? end_) _ left
  · have whole : shown r log limit = ahead r log := List.take_of_length_le (Nat.not_lt.mp more)
    rw [if_neg more]
    refine ⟨fun _ => ?_, fun _ => rfl⟩
    rintro ⟨ev, held, older⟩
    have descending := delivered_descending stands going limit
    have beyond : ∀ old ∈ r.delivered ++ shown r log limit, ev.seq < old.seq := by
      intro old given
      have ends := List.getLast?_eq_some_getLast (List.ne_nil_of_mem given)
      exact (older _ ends).trans_le (descending.last_le ends given)
    rcases ahead_or_past stands going (stands.keeps.mem_held.mp held) with further | ⟨some_, past⟩
    · exact lt_irrefl _ (beyond ev (List.mem_append_right _ (whole ▸ further)))
    · obtain ⟨last, ends, cursor, _⟩ := cursorOf_ne 0 some_ stands.positive
      have below := beyond last (List.mem_append_left _ (List.mem_of_getLast? ends))
      rw [stands.cursor going, cursor] at past
      omega

/-! ## A run -/

theorem exists_keeps (capacity : ℤ) (writes : List (AuditEvent × ℤ)) : ∃ log, Keeps (written capacity writes) log := by
  have recorded : ∀ (a : Ring) (write : AuditEvent × ℤ), (∃ log, Keeps a log) →
      ∃ log, Keeps (a.record write.1 write.2) log :=
    fun _ write ⟨_, keeps⟩ => ⟨_, keeps_record keeps write.1 write.2⟩
  exact runSteps_invariant recorded ⟨[], keeps_new capacity⟩

/-- A reader stands somewhere after any run, over a log that goes on from the one it opened. -/
theorem exists_stands (keeps : Keeps a log) (actions : List Action) :
    ∃ later, Stands (runSteps step (opened a) actions) (log ++ later) log.length := by
  have moved : ∀ (r : Reader) (action : Action), (∃ later, Stands r (log ++ later) log.length) →
      ∃ later, Stands (step r action) (log ++ later) log.length := by
    rintro r action ⟨later, stands⟩
    cases action with
    | record e now => exact ⟨_, List.append_assoc log later _ ▸ stands.record e now⟩
    | page limit => exact ⟨later, stands.page limit⟩
  exact runSteps_invariant moved ⟨[], by rw [List.append_nil]; exact stands_opened keeps⟩

/-- Once a reader has stopped it was given what was there at the start and is not overwritten. -/
theorem Stands.delivers (stands : Stands r log first) (stopped : r.done = true) {i : ℕ} (old : i < first)
    {ev : AuditEvent} (found : log[i]? = some ev) (held : ev ∈ r.ring.held) : ev ∈ r.delivered := by
  obtain ⟨inside, here⟩ := List.getElem?_eq_some_iff.mp found
  obtain ⟨j, there, recent⟩ := mem_latest.mp (stands.keeps.mem_held.mp held)
  obtain ⟨within, there⟩ := List.getElem?_eq_some_iff.mp there
  have same : i = j := by
    have first_ := stands.keeps.numbered i inside
    have second_ := stands.keeps.numbered j within
    rw [here] at first_
    rw [there] at second_
    omega
  rcases stands.covered i inside old (Or.inl stopped) with delivered | lost
  · exact here ▸ delivered
  · omega

/-- Whatever is written between the pages of a reader that starts at the newest event and
follows the cursor until it is zero: it is delivered events newest first and none twice;
once it has stopped it was delivered, once, every event that was in the ring at the start
and still is; and a page gives it zero exactly when the ring holds nothing older. -/
theorem paging_exact (capacity : ℤ) (writes : List (AuditEvent × ℤ)) (actions : List Action) :
    let start := opened (written capacity writes)
    let r := runSteps step start actions
    (r.delivered.Pairwise fun a b => b.seq < a.seq) ∧
    (r.done = true → ∀ ev ∈ start.ring.held, ev ∈ r.ring.held → r.delivered.count ev = 1) ∧
    (r.done = false → ∀ limit, (step r (.page limit)).cursor = 0 ↔ ¬ Remains (step r (.page limit))) := by
  obtain ⟨log, keeps⟩ := exists_keeps capacity writes
  obtain ⟨later, stands⟩ := exists_stands keeps actions
  refine ⟨stands.descending, fun stopped ev before held => ?_, fun going limit => zero_iff stands going limit⟩
  obtain ⟨i, found, _⟩ := mem_latest.mp (keeps.mem_held.mp before)
  obtain ⟨inside, _⟩ := List.getElem?_eq_some_iff.mp found
  have distinct : (runSteps step (opened (written capacity writes)) actions).delivered.Nodup :=
    stands.descending.imp fun newer => fun same => by
      rw [same] at newer
      exact lt_irrefl _ newer
  exact List.count_eq_one_of_mem distinct
    (stands.delivers stopped inside (by rw [List.getElem?_append_left inside, found]) held)

/-- Three slots, pages of one, and a write that takes the oldest event between the two pages
the reader then needs: the second event is delivered once. -/
theorem paging_exact_overtaken :
    let start := opened (written 3 [({ action := "ban" }, 1), ({ action := "unban" }, 2), ({ action := "export" }, 3)])
    let r := runSteps step start [.page 1, .record { action := "ban" } 4, .page 1]
    r.done = true ∧ r.delivered.map AuditEvent.seq = [3, 2] ∧
      r.delivered.count { seq := 2, at_ := 2, action := "unban" } = 1 :=
  ⟨by decide, by decide, (paging_exact 3 _ _).2.1 (by decide) _ (by decide) (by decide)⟩

end AnselmGateway.AuditPaging
