import AnselmGateway.Foundation.RingWindow

/-! The dashboard's audit ring of `internal/app/dashboard`: recent events in a fixed number
of slots, read newest first in pages below a sequence number. Sequence numbers are exact: no
process lives to fill their word. -/
namespace AnselmGateway.AuditRing
open Foundation

/-- `AuditEvent`; its defaults are those of a slot nothing was written to. -/
structure AuditEvent where
  seq : ℤ := 0
  at_ : ℤ := 0
  action : String := ""
  target : String := ""
  reason : String := ""
  outcome : String := ""
  actor : String := ""
  deriving DecidableEq, Repr

/-- `auditRing`. -/
structure Ring where
  buf : List AuditEvent
  next : ℕ
  full : Bool
  seq : ℤ
  deriving DecidableEq

/-- `newAuditRing`. -/
def newAuditRing (capacity : ℤ) : Ring where
  buf := List.replicate (if capacity ≤ 0 then 512 else capacity.toNat) {}
  next := 0
  full := false
  seq := 0

/-- `record`, at an instant. -/
def Ring.record (a : Ring) (e : AuditEvent) (now : ℤ) : Ring :=
  let seq := a.seq + 1
  let next := (a.next + 1) % a.buf.length
  { buf := a.buf.set a.next { e with at_ := now, seq := seq }
    next := next
    full := a.full || next == 0
    seq := seq }

/-- The loop of `page` over the events it walks, with the page and its cursor so far. -/
def pageFrom (beforeSeq : ℤ) (limit : ℕ) :
    List AuditEvent → List AuditEvent → ℤ → List AuditEvent × ℤ × Bool
  | [], out, nextSeq => (out, nextSeq, false)
  | ev :: rest, out, nextSeq =>
    if ev.seq = 0 then pageFrom beforeSeq limit rest out nextSeq
    else if beforeSeq > 0 ∧ ev.seq ≥ beforeSeq then pageFrom beforeSeq limit rest out nextSeq
    else if out.length = limit then (out, nextSeq, true)
    else pageFrom beforeSeq limit rest (out ++ [ev]) ev.seq

/-- The slots `page` walks, back from the last one written; an index below zero is raised
by the length until it is not. -/
def Ring.walk (a : Ring) : List AuditEvent :=
  let total := if a.full then a.buf.length else a.next
  (List.range total).filterMap fun (i : ℕ) => a.buf[RingWindow.slot a.buf.length (a.next - 1 - i)]?

/-- `page`. -/
def Ring.page (a : Ring) (beforeSeq limit : ℤ) : List AuditEvent × ℤ × Bool :=
  pageFrom beforeSeq (if limit ≤ 0 then 50 else limit.toNat) a.walk [] 0

/-- `Audit`. -/
def Ring.audit (a : Ring) (beforeSeq limit : ℤ) : List AuditEvent × ℤ :=
  match a.page beforeSeq limit with
  | (events, next, more) => (events, if more then next else 0)

/-- The events in the ring, in the order of its slots. -/
def Ring.held (a : Ring) : List AuditEvent := a.buf.filter fun ev => ev.seq ≠ 0

/-! ## A ring and what was written to it -/

/-- The event of a tick of a log, one tick for each event from zero on. -/
def eventAt (log : List AuditEvent) (tick : ℤ) : AuditEvent :=
  if tick < 0 then {} else log.getD tick.toNat {}

/-- A ring keeps the last events of a log, each in the slot of its position, and every event
carries its position. -/
structure Keeps (a : Ring) (log : List AuditEvent) : Prop where
  room : 0 < a.buf.length
  holds : RingWindow.Holds a.buf.length (log.length - 1) (eventAt log) a.buf
  next : a.next = log.length % a.buf.length
  full : a.full = decide (a.buf.length ≤ log.length)
  seq : a.seq = log.length
  numbered : ∀ i (inside : i < log.length), log[i].seq = i + 1

variable {a : Ring} {log : List AuditEvent}

theorem keeps_new (capacity : ℤ) : Keeps (newAuditRing capacity) [] := by
  have room : 0 < (newAuditRing capacity).buf.length := by
    simp only [newAuditRing, List.length_replicate]
    split <;> omega
  refine ⟨room, ⟨rfl, fun tick _ past => ?_⟩, rfl, ?_, rfl, nofun⟩
  · have inside := RingWindow.slot_lt room tick
    rw [List.getElem?_eq_getElem inside, eventAt, if_pos (by simp at past; omega)]
    simp [newAuditRing]
  · exact (decide_eq_false (Nat.not_le.mpr room)).symm

/-- An event as it is written behind a log. -/
def stamped (log : List AuditEvent) (e : AuditEvent) (now : ℤ) : AuditEvent :=
  { e with at_ := now, seq := log.length + 1 }

theorem eventAt_append (log : List AuditEvent) (ev : AuditEvent) :
    eventAt (log ++ [ev]) = fun (tick : ℤ) => if tick = log.length - 1 + 1 then ev else eventAt log tick := by
  funext tick
  unfold eventAt
  by_cases negative : tick < 0
  · rw [if_pos negative, if_neg (by omega), if_pos negative]
  · rw [if_neg negative, if_neg negative, List.getD_eq_getElem?_getD, List.getD_eq_getElem?_getD]
    by_cases newest : tick = log.length - 1 + 1
    · rw [if_pos newest, show tick.toNat = log.length by omega, List.getElem?_concat_length]
      rfl
    · rw [if_neg newest]
      rcases Nat.lt_or_ge tick.toNat log.length with before | beyond
      · rw [List.getElem?_append_left before]
      · rw [List.getElem?_eq_none (by simp; omega), List.getElem?_eq_none beyond]

theorem slot_position {width : ℕ} (position : ℕ) : RingWindow.slot width position = position % width := by
  rw [RingWindow.slot, ← Int.natCast_emod, Int.toNat_natCast]

/-- Writing adds to the log, with the position stamped on. -/
theorem keeps_record (keeps : Keeps a log) (e : AuditEvent) (now : ℤ) :
    Keeps (a.record e now) (log ++ [stamped log e now]) := by
  have length : (a.record e now).buf.length = a.buf.length := List.length_set
  have extended : (log ++ [stamped log e now]).length = log.length + 1 := by simp
  have following : (a.record e now).next = (log.length + 1) % a.buf.length := by
    change (a.next + 1) % a.buf.length = _
    rw [keeps.next, Nat.mod_add_mod]
  refine ⟨length ▸ keeps.room, ?_, ?_, ?_, ?_, ?_⟩
  · have pushed := keeps.holds.push keeps.room (stamped log e now)
    have place : RingWindow.slot a.buf.length (log.length - 1 + 1) = a.next := by
      rw [Int.sub_add_cancel, slot_position, keeps.next]
    rw [place, ← eventAt_append] at pushed
    rw [length, extended]
    have written : (a.record e now).buf = a.buf.set a.next (stamped log e now) := by
      unfold Ring.record stamped
      rw [keeps.seq]
    rw [written]
    simpa using pushed
  · rw [following, length, extended]
  · have wrapped : (a.record e now).full = (a.full || (a.record e now).next == 0) := rfl
    rw [wrapped, following, keeps.full, length, extended]
    rcases Nat.lt_trichotomy (log.length + 1) a.buf.length with few | exact_ | many
    · rw [Nat.mod_eq_of_lt few]
      simp
      omega
    · rw [exact_, Nat.mod_self]
      simp
    · have filled : a.buf.length ≤ log.length := by omega
      simp [filled]
      omega
  · change a.seq + 1 = _
    rw [keeps.seq, extended, Int.natCast_succ]
  · intro i inside
    rw [List.getElem_append]
    split
    · exact keeps.numbered i _
    · rw [extended] at inside
      simp [stamped]
      omega

/-! ## What a page walks -/

/-- The last `width` events of a log, newest first. -/
def latest (width : ℕ) (log : List AuditEvent) : List AuditEvent := log.reverse.take width

theorem filterMap_range {α : Type} (list : List α) (count : ℕ) :
    (List.range count).filterMap (fun i => list[i]?) = list.take count := by
  induction count with
  | zero => rfl
  | succ count ih =>
    rw [List.range_succ, List.filterMap_append, ih, List.take_add_one]
    cases here : list[count]? <;> simp [here]

/-- The walk is over the last events, newest first. -/
theorem Keeps.walk (keeps : Keeps a log) : a.walk = latest a.buf.length log := by
  have total : (if a.full then a.buf.length else a.next) = min a.buf.length log.length := by
    rw [keeps.full, keeps.next]
    rcases Nat.lt_or_ge log.length a.buf.length with few | filled
    · rw [decide_eq_false (Nat.not_le.mpr few), Nat.mod_eq_of_lt few]
      simp
      omega
    · rw [decide_eq_true filled]
      simpa using filled
  have short : latest a.buf.length log = log.reverse.take (min a.buf.length log.length) := by
    have same : log.reverse.length = log.length := List.length_reverse
    rw [latest, ← same, ← List.take_eq_take_min]
  rw [short, ← filterMap_range, Ring.walk, total]
  refine List.filterMap_congr fun i listed => ?_
  have inside := List.mem_range.mp listed
  have place : RingWindow.slot a.buf.length (a.next - 1 - i) =
      RingWindow.slot a.buf.length (log.length - 1 - i : ℤ) := by
    unfold RingWindow.slot
    rw [keeps.next, Int.natCast_emod]
    exact congrArg Int.toNat (((Int.mod_modEq _ _).sub_right 1).sub_right i)
  rw [place, keeps.holds.cell _ (by omega) (by omega), List.getElem?_reverse (by omega), eventAt,
    if_neg (by omega), List.getD_eq_getElem?_getD, show (log.length - 1 - i : ℤ).toNat = log.length - 1 - i by omega,
    List.getElem?_eq_getElem (by omega)]
  rfl

theorem mem_latest {width : ℕ} {ev : AuditEvent} :
    ev ∈ latest width log ↔ ∃ i, log[i]? = some ev ∧ log.length ≤ i + width := by
  rw [latest, List.take_reverse, List.mem_reverse, List.mem_iff_getElem?]
  constructor
  · rintro ⟨i, found⟩
    rw [List.getElem?_drop] at found
    exact ⟨_, found, by omega⟩
  · rintro ⟨i, found, late⟩
    refine ⟨i - (log.length - width), ?_⟩
    rwa [List.getElem?_drop, Nat.add_sub_cancel' (by omega)]

/-- The events in the ring are the last ones of the log. -/
theorem Keeps.mem_held (keeps : Keeps a log) {ev : AuditEvent} : ev ∈ a.held ↔ ev ∈ latest a.buf.length log := by
  rw [mem_latest, Ring.held, List.mem_filter]
  constructor
  · rintro ⟨stored, written⟩
    obtain ⟨index, found⟩ := List.mem_iff_getElem?.mp stored
    obtain ⟨inside, _⟩ := List.getElem?_eq_some_iff.mp found
    obtain ⟨tick, recent, past, rfl⟩ := RingWindow.exists_tick inside (log.length - 1)
    rw [keeps.holds.cell tick recent past, eventAt] at found
    split at found
    · -- A slot no event was written to.
      cases found
      simp at written
    · rw [List.getD_eq_getElem?_getD, List.getElem?_eq_getElem (by omega)] at found
      exact ⟨tick.toNat, by rw [List.getElem?_eq_getElem (by omega)]; exact found, by omega⟩
  · rintro ⟨i, found, late⟩
    obtain ⟨inside, rfl⟩ := List.getElem?_eq_some_iff.mp found
    have cell := keeps.holds.cell i (by omega) (by omega)
    rw [eventAt, if_neg (by omega), Int.toNat_natCast, List.getD_eq_getElem?_getD, found] at cell
    refine ⟨List.mem_of_getElem? cell, ?_⟩
    have numbered := keeps.numbered i inside
    simp only [ne_eq, decide_eq_true_eq]
    omega

/-! ## What a page is -/

/-- The events a page may show. -/
def eligible (beforeSeq : ℤ) (walked : List AuditEvent) : List AuditEvent :=
  walked.filter fun ev => decide (ev.seq ≠ 0) && !decide (beforeSeq > 0 ∧ ev.seq ≥ beforeSeq)

/-- The last of some events to be shown, as a cursor. -/
def cursorOf (shown : List AuditEvent) (otherwise : ℤ) : ℤ := (shown.getLast?.map AuditEvent.seq).getD otherwise

/-- A page is the first of the events it may show, and says whether there are further ones. -/
theorem pageFrom_eq {beforeSeq nextSeq : ℤ} {limit : ℕ} {walked out : List AuditEvent} (room : out.length ≤ limit) :
    pageFrom beforeSeq limit walked out nextSeq =
      (out ++ (eligible beforeSeq walked).take (limit - out.length),
        cursorOf ((eligible beforeSeq walked).take (limit - out.length)) nextSeq,
        decide (limit - out.length < (eligible beforeSeq walked).length)) := by
  induction walked generalizing out nextSeq with
  | nil => simp [pageFrom, eligible, cursorOf]
  | cons ev rest ih =>
    unfold pageFrom
    by_cases empty : ev.seq = 0
    · rw [if_pos empty, ih room]
      simp [eligible, empty]
    · rw [if_neg empty]
      by_cases newer : beforeSeq > 0 ∧ ev.seq ≥ beforeSeq
      · rw [if_pos newer, ih room]
        simp [eligible, newer]
      · have shown : eligible beforeSeq (ev :: rest) = ev :: eligible beforeSeq rest := by
          rw [eligible, List.filter_cons_of_pos]
          · rfl
          · rw [decide_eq_true empty, decide_eq_false newer]
            rfl
        rw [if_neg newer, shown]
        by_cases filled : out.length = limit
        · simp [filled, cursorOf]
        · obtain ⟨left, eq⟩ : ∃ left, limit - out.length = left + 1 := ⟨limit - out.length - 1, by omega⟩
          have after : limit - (out ++ [ev]).length = left := by simp; omega
          rw [if_neg filled, ih (by simp; omega), after, eq, List.take_succ_cons, List.length_cons]
          simp [cursorOf, List.getLast?_cons]

end AnselmGateway.AuditRing
