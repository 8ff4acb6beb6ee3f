import Mathlib.Data.List.Sort
import Mathlib.Data.String.Basic
import AnselmGateway.AccessTrail
import AnselmGateway.Foundation.OffsetPaging
import AnselmGateway.IntakeDoors
import AnselmGateway.RuntimeConfig

/-! The dashboard's list of installs, newest first and page by page. The cursor is an
offset, so installs that register while an operator reads push the list along under it;
what the pages show together is worked out here for every such interleaving. -/
namespace AnselmGateway.InstallsList
open Foundation OffsetPaging InstallStore Dashboard AccessTrail

/-! ## Pages -/

/-- `InstallRow`, as a page shows it. -/
structure InstallView where
  id : String
  status : Status
  createdAt : ℤ
  lastSeenAt : Option ℤ
  todaySpendMicroUSD : ℤ
  deriving DecidableEq

/-- What a row is ordered by. -/
abbrev Place := ℤ × String

def place (row : String × InstallRow) : Place := (row.2.createdAt, row.1)

/-- `created_at DESC, id DESC`. -/
def Newer (a b : Place) : Prop := b.1 < a.1 ∨ (a.1 = b.1 ∧ b.2 < a.2)

instance : DecidableRel Newer := fun _ _ => inferInstanceAs (Decidable (_ ∨ _))

def inOrder (installs : Installs) : List (String × InstallRow) :=
  installs.table.rows.mergeSort fun a b => !decide (Newer (place b) (place a))

/-- A row with the day's spend joined to it. -/
def viewRow (day : String) (quota : QuotaStore.Database) (row : String × InstallRow) : InstallView where
  id := row.1
  status := row.2.status
  createdAt := row.2.createdAt
  lastSeenAt := row.2.lastSeenAt
  todaySpendMicroUSD :=
    (quota.installSpendDaily.read 0 (row.1, day)).spendPUSD.tdiv RuntimeConfig.picoUSDPerMicroUSD

/-- `ListInstalls`. -/
def listInstalls (day : String) (cursor limit : ℤ) (s : State) : List InstallView :=
  (((inOrder s.db.installs).drop cursor.toNat).take limit.toNat).map (viewRow day s.quota)

/-- `clampPagination`. -/
def clampPagination (cursor limit : ℤ) : ℤ × ℤ :=
  let cursor := if cursor < 0 then 0 else cursor
  let limit := if limit < 1 then 1 else limit
  let limit := if limit > 200 then 200 else limit
  (cursor, limit)

/-- `InstallsList`. -/
def installsList (day : String) (cursor limit : ℤ) (s : State) : List InstallView × ℤ × Bool :=
  let (cursor, limit) := clampPagination cursor limit
  let rows := listInstalls day cursor (limit + 1) s
  if rows.length > limit then (rows.take limit.toNat, cursor + limit, true) else (rows, 0, false)

/-- `atoiDefault`. -/
def atoiDefault (text : String) (def_ : ℤ) : ℤ :=
  if text = "" then def_ else (Upstream.atoi text).getD def_

/-- The handler of a page: its rows, and the cursor of the next one. -/
def installs (day cursor limit : String) (s : State) : List InstallView × String :=
  match installsList day (atoiDefault cursor 0) (atoiDefault limit 50) s with
  | (rows, next, more) => (rows, if more then toString next else "")

/-! ## A reader at the dashboard -/

/-- The cursor it was given last, what it has been shown, and whether that was all. -/
structure Browser where
  cursor : String
  shown : List InstallView
  done : Bool

inductive Turn where
  /-- It asks for the next page; one that fails it asks for again. -/
  | page (day limit : String) (fails : Bool)
  | event (event : Event)

variable (env : Install.Environment)

def turn (at_ : State × Browser) : Turn → State × Browser
  | .event event => (step env at_.1 event, at_.2)
  | .page day limit fails =>
    if at_.2.done || fails then at_
    else
      match installs day at_.2.cursor limit at_.1 with
      | (rows, next) => (at_.1, ⟨next, at_.2.shown ++ rows, next == ""⟩)

/-! ## The order -/

section Order

theorem newer_asymm (a b : Place) (ab : Newer a b) : ¬Newer b a := by
  rintro (older | ⟨same, less⟩)
  · rcases ab with newer | ⟨same, _⟩
    · omega
    · omega
  · rcases ab with newer | ⟨_, less'⟩
    · omega
    · exact lt_asymm less less'

theorem newer_or {a b : Place} (apart : a ≠ b) (notBefore : ¬Newer b a) : Newer a b := by
  unfold Newer at notBefore ⊢
  simp only [not_or, not_and] at notBefore
  rcases lt_trichotomy b.1 a.1 with older | same | newer
  · exact .inl older
  · right
    refine ⟨same.symm, ?_⟩
    rcases lt_trichotomy b.2 a.2 with less | same' | more
    · exact less
    · exact absurd (Prod.ext same.symm same'.symm) apart
    · exact absurd more (notBefore.2 same)
  · exact absurd newer notBefore.1

theorem newer_trans {a b c : Place} (ab : Newer a b) (bc : Newer b c) : Newer a c := by
  rcases ab with older | ⟨same, less⟩
  · rcases bc with older' | ⟨same', _⟩
    · exact .inl (lt_trans older' older)
    · exact .inl (same' ▸ older)
  · rcases bc with older' | ⟨same', less'⟩
    · exact .inl (same ▸ older')
    · exact .inr ⟨same.trans same', lt_trans less' less⟩

/-- The places of the installs, newest first. -/
def places (installs : Installs) : List Place := (inOrder installs).map place

theorem places_perm (installs : Installs) : (places installs).Perm (installs.table.rows.map place) :=
  (List.mergeSort_perm _ _).map place

theorem places_nodup (installs : Installs) : (places installs).Nodup := by
  refine (places_perm installs).nodup_iff.mpr (List.Nodup.of_map Prod.snd ?_)
  rw [List.map_map]
  exact installs.table.unique

theorem places_ordered (installs : Installs) : (places installs).Pairwise Newer := by
  have linked (a b : String × InstallRow) : (!decide (Newer (place b) (place a)) ||
      !decide (Newer (place a) (place b))) = true := by
    by_cases related : Newer (place b) (place a)
    · simp [newer_asymm _ _ related]
    · simp [related]
  have chained (a b c : String × InstallRow) (ab : (!decide (Newer (place b) (place a))) = true)
      (bc : (!decide (Newer (place c) (place b))) = true) :
      (!decide (Newer (place c) (place a))) = true := by
    simp only [Bool.not_eq_true', decide_eq_false_iff_not] at ab bc ⊢
    intro ca
    by_cases same : place a = place b
    · exact bc (same ▸ ca)
    · by_cases same' : place b = place c
      · exact ab (same' ▸ ca)
      · exact newer_asymm _ _ ca (newer_trans (newer_or same ab) (newer_or same' bc))
  have merged : (inOrder installs).Pairwise fun a b =>
      (!decide (Newer (place b) (place a))) = true :=
    List.pairwise_mergeSort chained linked _
  have apart : (places installs).Pairwise (· ≠ ·) := places_nodup installs
  have kept : (places installs).Pairwise fun a b => ¬Newer b a :=
    List.pairwise_map.mpr (merged.imp fun related => by simpa using related)
  exact (apart.and kept).imp fun ⟨differ, notBefore⟩ => newer_or differ notBefore

end Order

/-! ## What a page shows -/

section Pages
variable {s : State}

/-- What a reader has been shown, by place. -/
def InstallView.place (v : InstallView) : Place := (v.createdAt, v.id)

theorem clamp_bounds (cursor : ℕ) (limit : ℤ) :
    ∃ size : ℕ, 0 < size ∧ size ≤ 200 ∧ clampPagination cursor limit = (↑cursor, ↑size) := by
  unfold clampPagination
  refine ⟨(if (if limit < 1 then 1 else limit) > 200 then 200 else
    (if limit < 1 then 1 else limit)).toNat, ?_, ?_, ?_⟩
  · split <;> split <;> omega
  · split <;> split <;> omega
  · have first : ¬((cursor : ℤ) < 0) := by omega
    simp only [first, if_false, Prod.mk.injEq, true_and]
    split <;> split <;> omega

/-- The rows of a page and its next offset are those of the list of places. -/
theorem installsList_page (day : String) (cursor : ℕ) (limit : ℤ) : ∃ size : ℕ, 0 < size ∧
    ((installsList day cursor limit s).1.map InstallView.place,
        (installsList day cursor limit s).2.1, (installsList day cursor limit s).2.2) =
      ((page (places s.db.installs) cursor size).1,
        ((page (places s.db.installs) cursor size).2.1 : ℤ),
        (page (places s.db.installs) cursor size).2.2) := by
  obtain ⟨size, positive, _, clamped⟩ := clamp_bounds cursor limit
  refine ⟨size, positive, ?_⟩
  have shown (rows : List (String × InstallRow)) :
      (rows.map (viewRow day s.quota)).map InstallView.place = rows.map place := by
    rw [List.map_map]
    rfl
  have asked : listInstalls day cursor (size + 1) s =
      (((inOrder s.db.installs).drop cursor).take (size + 1)).map (viewRow day s.quota) := rfl
  unfold installsList page places
  simp only [clamped, asked, List.length_map, Int.toNat_natCast, Nat.cast_lt, gt_iff_lt,
    ← List.map_drop, ← List.map_take]
  split
  · simp only [shown, Nat.cast_add]
  · simp only [shown, Nat.cast_zero]

theorem length_places (installs : Installs) :
    (places installs).length = installs.table.rows.length := by
  rw [(places_perm installs).length_eq, List.length_map]

/-- A cursor that was given out is read back. -/
theorem atoiDefault_toString {n : ℕ} (small : n < 2 ^ 63) :
    atoiDefault (toString (n : ℤ)) 0 = n ∧ toString (n : ℤ) ≠ "" := by
  have exact_ : (Int64.ofInt n).toInt = n := Int64.toInt_ofInt_of_le (by omega) (by omega)
  have text : LeaseSigner.formatInt (Int64.ofInt n) = toString (n : ℤ) := by
    rw [LeaseSigner.formatInt, exact_]
  have reads : Upstream.atoi (toString (n : ℤ)) = some (n : ℤ) := by
    rw [← text, LeaseSigner.atoi_formatInt, exact_]
  have solid : toString (n : ℤ) ≠ "" := by
    intro empty
    rw [empty] at reads
    cases reads
  refine ⟨?_, solid⟩
  unfold atoiDefault
  rw [if_neg solid, reads]
  rfl

end Pages

/-! ## Reading -/

def Browser.start : Browser := ⟨"", [], false⟩

/-- A browser is a reader of the places. -/
structure Follows (b : Browser) (r : Reader Place) : Prop where
  shown : b.shown.map InstallView.place = r.delivered
  done : b.done = r.done
  cursor : b.done = false → atoiDefault b.cursor 0 = r.cursor

section Reading
variable {s : State} {b : Browser} {r : Reader Place}

/-- A page that comes moves the reader on, over as many places as it asks for. -/
theorem follows_page (follows : Follows b r) (day limit : String) (fails : Bool) :
    (turn env (s, b) (.page day limit fails)).1 = s ∧
      ∃ r', Follows (turn env (s, b) (.page day limit fails)).2 r' ∧
        ((b.done || fails) = true ∧ r' = r ∨
          ∃ size, 0 < size ∧ r' = r.turn (places s.db.installs) size) := by
  unfold turn
  dsimp only
  by_cases idle : (b.done || fails) = true
  · rw [if_pos idle]
    exact ⟨rfl, r, follows, .inl ⟨idle, rfl⟩⟩
  · rw [if_neg idle]
    refine ⟨rfl, ?_⟩
    simp only [Bool.or_eq_true, not_or, Bool.not_eq_true] at idle
    have reading : r.done = false := follows.done.symm.trans idle.1
    obtain ⟨size, positive, same⟩ := installsList_page (s := s) day r.cursor (atoiDefault limit 50)
    obtain ⟨rows, next, more⟩ : _ ∧ _ ∧ _ := by simpa only [Prod.mk.injEq] using same
    refine ⟨r.turn (places s.db.installs) size, ?_, .inr ⟨size, positive, rfl⟩⟩
    have bounded := s.db.installs.table.bounded
    rw [← length_places] at bounded
    unfold maxRowid at bounded
    unfold installs Reader.turn
    rw [follows.cursor idle.1]
    simp only [reading, Bool.false_eq_true, if_false]
    rw [page_eq] at rows next more ⊢
    generalize installsList day r.cursor (atoiDefault limit 50) s = answer at rows next more ⊢
    obtain ⟨views, following, further⟩ := answer
    dsimp only at rows next more ⊢
    by_cases ahead : r.cursor + size < (places s.db.installs).length
    · simp only [ahead, if_true] at rows next more ⊢
      subst more
      obtain ⟨reads, solid⟩ := atoiDefault_toString (n := r.cursor + size) (by omega)
      simp only [if_true, next]
      exact ⟨by rw [List.map_append, follows.shown, rows], by simpa using solid, fun _ => reads⟩
    · simp only [ahead, if_false] at rows next more ⊢
      subst more
      simp only [Bool.false_eq_true, if_false]
      exact ⟨by rw [List.map_append, follows.shown, rows], rfl, nofun⟩

/-- Installs are never given up, so their places only become more, and keep their order. -/
theorem places_grow {s' : State} (onward : Onward s s') :
    (places s.db.installs).Sublist (places s'.db.installs) := by
  have antisymm : Std.Antisymm Newer := ⟨fun a b ab ba => absurd ba (newer_asymm a b ab)⟩
  refine List.sublist_of_subperm_of_pairwise ?_ (places_ordered _) (places_ordered _)
  apply List.subperm_of_subset (places_nodup _)
  intro spot member
  obtain ⟨⟨id, row⟩, listed, rfl⟩ := List.mem_map.mp ((places_perm _).mem_iff.mp member)
  obtain ⟨row', held, _, _, born⟩ := onward.rows id row (Table.get?_eq_some.mpr listed)
  refine (places_perm _).mem_iff.mpr (List.mem_map.mpr ⟨(id, row'), Table.get?_eq_some.mp held, ?_⟩)
  exact Prod.ext born rfl

/-- A browser that began over one state stands over another. -/
structure Stands (start : State) (at_ : State × Browser) : Prop where
  onward : Onward start at_.1
  reading : ∃ r, Follows at_.2 r ∧
    Reading Newer (places start.db.installs) (places at_.1.db.installs) r

theorem stands_start (s : State) : Stands s (s, .start) :=
  ⟨.refl s, .start, ⟨rfl, rfl, fun _ => rfl⟩, reading_start⟩

theorem stands_turn {start : State} {at_ : State × Browser} (move : Turn) (stands : Stands start at_) :
    Stands start (turn env at_ move) := by
  obtain ⟨onward, r, follows, reading⟩ := stands
  cases move with
  | event event =>
    have next := onward_moves (moves_step (s := at_.1) env event)
    exact ⟨onward.trans next, r, follows, reading.grown (places_grow next)⟩
  | page day limit fails =>
    obtain ⟨same, r', follows', moved⟩ := follows_page env (s := at_.1) follows day limit fails
    refine ⟨same.symm ▸ onward, r', follows', ?_⟩
    rw [same]
    rcases moved with ⟨_, rfl⟩ | ⟨size, _, rfl⟩
    · exact reading
    · exact reading.turn (places_ordered _) newer_asymm size

/-- Page after page of a list that rests comes to its end. -/
theorem pages_end {old : List Place} (pages : List (String × String))
    (follows : Follows b r) (reading : Reading Newer old (places s.db.installs) r)
    (enough : b.done = true ∨ (places s.db.installs).length < r.cursor + pages.length) :
    (runSteps (turn env) (s, b) (pages.map fun p => .page p.1 p.2 false)).2.done = true := by
  induction pages generalizing b r with
  | nil =>
    rcases enough with done | beyond
    · exact done
    · by_contra reads
      have open_ : r.done = false := follows.done.symm.trans (by simpa using reads)
      have passed := reading.counted open_
      have within := reading.within
      rw [List.length_nil] at beyond
      omega
  | cons p rest ih =>
    rw [List.map_cons, runSteps_cons]
    obtain ⟨same, r', follows', moved⟩ := follows_page env (s := s) follows p.1 p.2 false
    have split_ : turn env (s, b) (.page p.1 p.2 false) =
        (s, (turn env (s, b) (.page p.1 p.2 false)).2) := Prod.ext same rfl
    rw [split_]
    rcases moved with ⟨idle, rfl⟩ | ⟨size, positive, rfl⟩
    · rw [Bool.or_false] at idle
      exact ih follows' reading (.inl (follows'.done.trans (follows.done.symm.trans idle)))
    · refine ih follows' (reading.turn (places_ordered _) newer_asymm size) ?_
      cases open_ : r.done with
      | true =>
        left
        rw [follows'.done, Reader.turn, if_pos open_, open_]
      | false =>
        rcases turn_cases (places s.db.installs) size open_ with ⟨room, turned⟩ | turned
        · right
          rcases enough with done | beyond
          · rw [follows.done, open_] at done
            cases done
          · rw [turned]
            rw [List.length_cons] at beyond
            simp only
            omega
        · left
          rw [follows'.done, turned]

end Reading

/-! ## The list as it is read -/

/-- What the pages of a reader that began over `start` have shown together. -/
structure Listed (start s : State) (b : Browser) : Prop where
  /-- A reader at its end has seen every install that was there when it began. -/
  complete : b.done = true → ∀ id row, start.db.installs.table.get? id = some row →
    ∃ v ∈ b.shown, v.id = id ∧ v.createdAt = row.createdAt
  /-- It has seen none that there is not, and one twice only for another that came. -/
  known : ∀ v ∈ b.shown, ∃ row, s.db.installs.table.get? v.id = some row
  bounded : b.shown.length ≤ s.db.installs.table.rows.length
  /-- Where nobody came it has seen each exactly once, newest first. -/
  once : b.done = true → s.db.installs.table.rows.length = start.db.installs.table.rows.length →
    (b.shown.map InstallView.id).Perm (start.db.installs.table.rows.map Prod.fst) ∧
      b.shown.Pairwise fun v w => Newer (v.createdAt, v.id) (w.createdAt, w.id)
  /-- And it does come to its end, once the list rests. -/
  ends : ∀ pages : List (String × String), s.db.installs.table.rows.length < pages.length →
    (runSteps (turn env) (s, b) (pages.map fun p => .page p.1 p.2 false)).2.done = true

/-- **The list of installs.** Whatever happens while an operator reads it page by page,
with whatever page sizes and failed pages, no install that was there is left out, and only
an install that registers meanwhile can make another show twice. -/
theorem installs_listed (start : State) (turns : List Turn) :
    Listed env start (runSteps (turn env) (start, .start) turns).1
      (runSteps (turn env) (start, .start) turns).2 := by
  obtain ⟨onward, r, follows, reading⟩ : Stands start (runSteps (turn env) (start, .start) turns) :=
    runSteps_invariant (fun _ move => stands_turn env move) (stands_start start)
  generalize runSteps (turn env) (start, .start) turns = at_ at onward follows reading ⊢
  obtain ⟨s, b⟩ := at_
  have spot {id : String} {row : InstallRow} (held : start.db.installs.table.get? id = some row) :
      (row.createdAt, id) ∈ places start.db.installs :=
    (places_perm _).mem_iff.mpr (List.mem_map.mpr ⟨(id, row), Table.get?_eq_some.mp held, rfl⟩)
  refine ⟨fun done id row held => ?_, fun v shown => ?_, ?_, fun done same => ?_, fun pages enough => ?_⟩
  · have seen := (reading.complete (follows.done.symm.trans done) (places_nodup _)).1 _ (spot held)
    rw [← follows.shown] at seen
    obtain ⟨v, shown, same⟩ := List.mem_map.mp seen
    exact ⟨v, shown, congrArg Prod.snd same, congrArg Prod.fst same⟩
  · have member : v.place ∈ r.delivered := follows.shown ▸ List.mem_map_of_mem shown
    obtain ⟨⟨id, row⟩, listed, same⟩ :=
      List.mem_map.mp ((places_perm _).mem_iff.mp (reading.known _ member))
    have own : id = v.id := congrArg Prod.snd same
    exact ⟨row, own ▸ Table.get?_eq_some.mpr listed⟩
  · have short := reading.within
    rwa [← follows.shown, List.length_map, length_places] at short
  · obtain ⟨perm, whole⟩ := (reading.complete (follows.done.symm.trans done) (places_nodup _)).2
      (by rw [length_places, length_places, same])
    rw [← follows.shown] at perm whole
    have ids := (perm.trans (places_perm _)).map Prod.snd
    rw [List.map_map, List.map_map] at ids
    have ordered := places_ordered s.db.installs
    rw [← whole, List.pairwise_map] at ordered
    exact ⟨ids, ordered⟩
  · apply pages_end env pages follows reading
    right
    rw [length_places]
    omega

end AnselmGateway.InstallsList
