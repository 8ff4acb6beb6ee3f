import Mathlib.Data.List.Nodup
import Mathlib.Data.List.Perm.Subperm

/-! Paging by offset through an ordered collection that only grows. A newcomer can push an
element back, never forward, so a reader who counts what it has passed passes nothing over;
what it can do is meet an element twice, and no more often than there are newcomers. -/
namespace AnselmGateway.Foundation.OffsetPaging

section Rank
variable {α : Type} (before : α → α → Prop) [DecidableRel before]

/-- How many elements come before one. -/
def rank (list : List α) (x : α) : ℕ := list.countP fun y => before y x

variable {before} {list : List α} {x : α} {c : ℕ}

/-- In order, what is left behind an offset is what has that many before it. -/
theorem mem_drop_iff (ordered : list.Pairwise before) (asymm : ∀ a b, before a b → ¬before b a) :
    x ∈ list.drop c ↔ x ∈ list ∧ c ≤ rank before list x := by
  induction list generalizing c with
  | nil => simp
  | cons y rest ih =>
    obtain ⟨first, ordered⟩ := List.pairwise_cons.mp ordered
    cases c with
    | zero => simp
    | succ c =>
      rw [List.drop_succ_cons, ih ordered, List.mem_cons]
      by_cases inside : x ∈ rest
      · have counted : rank before (y :: rest) x = rank before rest x + 1 :=
          List.countP_cons_of_pos (decide_eq_true (first x inside))
        simp only [inside, true_and, or_true, counted, Nat.add_le_add_iff_right]
      · have foremost : x = y → rank before (y :: rest) x = 0 := by
          rintro rfl
          refine List.countP_eq_zero.mpr fun z member earlier => ?_
          have earlier := of_decide_eq_true earlier
          rcases List.mem_cons.mp member with rfl | behind
          · exact asymm z z earlier earlier
          · exact asymm z x earlier (first z behind)
        simp only [inside, false_and, or_false, false_iff, not_and, Nat.not_le]
        intro own
        rw [foremost own]
        exact Nat.succ_pos c

/-- Newcomers push back. -/
theorem rank_le_of_subperm {grown : List α} (grows : list.Subperm grown) :
    rank before list x ≤ rank before grown x := grows.countP_le _

end Rank

/-! ## A reader -/

/-- Where a reader stands, and what it has been shown. -/
structure Reader (α : Type) where
  cursor : ℕ
  delivered : List α
  done : Bool
  deriving DecidableEq

def Reader.start {α : Type} : Reader α := ⟨0, [], false⟩

variable {α : Type}

/-- A page: at most `limit` elements, one more being asked for to know if any remain. -/
def page (list : List α) (cursor limit : ℕ) : List α × ℕ × Bool :=
  let rows := (list.drop cursor).take (limit + 1)
  if rows.length > limit then (rows.take limit, cursor + limit, true) else (rows, 0, false)

/-- The reader takes a page, and follows its cursor until no page is left. -/
def Reader.turn (list : List α) (limit : ℕ) (r : Reader α) : Reader α :=
  if r.done then r
  else
    match page list r.cursor limit with
    | (rows, next, more) =>
      if more then ⟨next, r.delivered ++ rows, false⟩ else ⟨r.cursor, r.delivered ++ rows, true⟩

/-- A page is full and there is more behind it, or it is all that is left. -/
theorem page_eq (list : List α) (cursor limit : ℕ) : page list cursor limit =
    if cursor + limit < list.length then ((list.drop cursor).take limit, cursor + limit, true)
    else (list.drop cursor, 0, false) := by
  have counted : ((list.drop cursor).take (limit + 1)).length > limit ↔ cursor + limit < list.length := by
    rw [List.length_take, List.length_drop]
    omega
  unfold page
  simp only [counted]
  split
  · rw [List.take_take, Nat.min_eq_left (Nat.le_succ limit)]
  · rw [List.take_of_length_le]
    rw [List.length_drop]
    omega

theorem turn_cases (list : List α) (limit : ℕ) {r : Reader α} (reading : r.done = false) :
    (r.cursor + limit < list.length ∧
      r.turn list limit =
        ⟨r.cursor + limit, r.delivered ++ (list.drop r.cursor).take limit, false⟩) ∨
    r.turn list limit = ⟨r.cursor, r.delivered ++ list.drop r.cursor, true⟩ := by
  unfold Reader.turn
  simp only [reading, Bool.false_eq_true, if_false, page_eq]
  by_cases more : r.cursor + limit < list.length
  · left
    simp only [more, if_true, and_self]
  · right
    simp only [more, if_false, Bool.false_eq_true]

section Reading
variable (before : α → α → Prop) [DecidableRel before]

/-- A reader of a collection that has grown out of an old one: what was there is shown or
still ahead, and nothing has been shown beyond what there is. -/
structure Reading (old list : List α) (r : Reader α) : Prop where
  ahead : ∀ x ∈ old, x ∈ r.delivered ∨ (r.done = false ∧ x ∈ list ∧ r.cursor ≤ rank before list x)
  counted : r.done = false → r.delivered.length = r.cursor
  within : r.delivered.length ≤ list.length
  known : ∀ x ∈ r.delivered, x ∈ list
  grew : old.length ≤ list.length
  /-- As long as nothing has come, what has been shown is the front of what there is. -/
  rested : list.length = old.length → r.delivered <+: list

variable {before} {old list : List α} {r : Reader α}

theorem reading_start : Reading before list list .start where
  ahead _ member := .inr ⟨rfl, member, Nat.zero_le _⟩
  counted _ := rfl
  within := Nat.zero_le _
  known := nofun
  grew := Nat.le_refl _
  rested _ := List.nil_prefix

/-- Growth keeps a reader reading. -/
theorem Reading.grown {grown : List α} (reading : Reading before old list r)
    (grows : list.Sublist grown) : Reading before old grown r where
  ahead x member := (reading.ahead x member).imp_right fun ⟨open_, inside, behind⟩ =>
    ⟨open_, grows.subset inside, Nat.le_trans behind (rank_le_of_subperm grows.subperm)⟩
  counted := reading.counted
  within := Nat.le_trans reading.within grows.length_le
  known x shown := grows.subset (reading.known x shown)
  grew := Nat.le_trans reading.grew grows.length_le
  rested same := by
    have grew := reading.grew
    have short := grows.length_le
    have still : list = grown := grows.eq_of_length (by omega)
    rw [← still]
    exact reading.rested (by omega)

/-- A reader of what rests stands right behind what it has been shown. -/
theorem Reading.front (reading : Reading before old list r) (open_ : r.done = false)
    (same : list.length = old.length) : r.delivered = list.take r.cursor := by
  have front := List.prefix_iff_eq_take.mp (reading.rested same)
  rwa [reading.counted open_] at front

/-- So does a page. -/
theorem Reading.turn (reading : Reading before old list r) (ordered : list.Pairwise before)
    (asymm : ∀ a b, before a b → ¬before b a) (limit : ℕ) :
    Reading before old list (r.turn list limit) := by
  cases open_ : r.done with
  | true =>
    have same : r.turn list limit = r := by
      unfold Reader.turn
      rw [if_pos open_]
    rwa [same]
  | false =>
    have passed := reading.counted open_
    rcases turn_cases list limit open_ with ⟨room, turned⟩ | turned
    · rw [turned]
      refine ⟨fun x member => ?_, fun _ => ?_, ?_, fun x shown => ?_, reading.grew, fun same => ?_⟩
      · rcases reading.ahead x member with shown | ⟨_, inside, behind⟩
        · exact .inl (List.mem_append_left _ shown)
        · have left := (mem_drop_iff ordered asymm).mpr ⟨inside, behind⟩
          rw [← List.take_append_drop limit (list.drop r.cursor), List.drop_drop,
            List.mem_append] at left
          rcases left with here | later
          · exact .inl (List.mem_append_right _ here)
          · exact .inr ⟨rfl, (mem_drop_iff ordered asymm).mp later⟩
      · simp only [List.length_append, List.length_take, List.length_drop, passed]
        omega
      · simp only [List.length_append, List.length_take, List.length_drop, passed]
        omega
      · rcases List.mem_append.mp shown with before_ | here
        · exact reading.known x before_
        · exact List.mem_of_mem_drop (List.mem_of_mem_take here)
      · rw [reading.front open_ same, ← List.take_add]
        exact List.take_prefix _ _
    · rw [turned]
      refine ⟨fun x member => ?_, nofun, ?_, fun x shown => ?_, reading.grew, fun same => ?_⟩
      · rcases reading.ahead x member with shown | ⟨_, inside, behind⟩
        · exact .inl (List.mem_append_left _ shown)
        · exact .inl (List.mem_append_right _ ((mem_drop_iff ordered asymm).mpr ⟨inside, behind⟩))
      · have short := reading.within
        simp only [List.length_append, List.length_drop]
        omega
      · rcases List.mem_append.mp shown with before_ | here
        · exact reading.known x before_
        · exact List.mem_of_mem_drop here
      · simp only [reading.front open_ same, List.take_append_drop, List.prefix_rfl]

/-- A reader that is done has been shown everything that was there, and where nothing came
in between, nothing twice, and in its order. -/
theorem Reading.complete (reading : Reading before old list r) (done : r.done = true)
    (distinct : old.Nodup) :
    (∀ x ∈ old, x ∈ r.delivered) ∧
      (list.length = old.length → r.delivered.Perm old ∧ r.delivered = list) := by
  have shown : ∀ x ∈ old, x ∈ r.delivered := fun x member =>
    (reading.ahead x member).resolve_right fun ⟨open_, _⟩ => by
      rw [done] at open_
      cases open_
  refine ⟨shown, fun same => ?_⟩
  have inside : old.Subperm r.delivered := List.subperm_of_subset distinct shown
  have perm := inside.perm_of_length_le (by rw [← same]; exact reading.within)
  exact ⟨perm.symm, (reading.rested same).eq_of_length (by rw [same, perm.length_eq])⟩

end Reading

end AnselmGateway.Foundation.OffsetPaging
