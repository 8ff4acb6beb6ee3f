import Mathlib.Data.List.Basic

/-! Memory of one type: cells are only ever added, so what was there before keeps its
address, and what is written afterwards is written to what is new. -/
namespace AnselmGateway.Foundation

/-- A window of an array. -/
structure Slice where
  array : ℕ
  offset : ℕ
  length : ℕ
  deriving DecidableEq

namespace Arena
variable {before after : List (List α)} {s t : Slice} {items : List α}

/-- What a slice shows; an empty one shows nothing, wherever it points. -/
def view (arrays : List (List α)) (s : Slice) : Option (List α) :=
  if s.length = 0 then some []
  else (arrays[s.array]?).bind fun array =>
    if s.offset + s.length ≤ array.length then some ((array.drop s.offset).take s.length) else none

/-- A new array with these items. -/
def fresh (arrays : List (List α)) (items : List α) : Slice := ⟨arrays.length, 0, items.length⟩

/-- A copy of what a slice shows, in an array of its own. -/
def clone (arrays : List (List α)) (s : Slice) : Option (Slice × List (List α)) :=
  (view arrays s).map fun items => (fresh arrays items, arrays ++ [items])

/-- A write through a slice. -/
def store (arrays : List (List α)) (s : Slice) (i : ℕ) (item : α) : List (List α) :=
  arrays.modify s.array fun array => array.set (s.offset + i) item

/-- What a pointer leads to, if it is not nil. -/
def deref (cells : List α) : Option ℕ → Option (Option α)
  | none => some none
  | some pointer => (cells[pointer]?).map some

theorem view_length (shown : view before s = some items) : items.length = s.length := by
  unfold view at shown
  split at shown
  · rename_i empty
    cases shown
    exact empty.symm
  · obtain ⟨array, _, shown⟩ := Option.bind_eq_some_iff.mp shown
    split at shown
    · cases shown
      rw [List.length_take, List.length_drop]
      omega
    · cases shown

theorem getElem?_extend {cells cells' : List α} (grown : cells <+: cells') {i : ℕ} {cell : α}
    (here : cells[i]? = some cell) : cells'[i]? = some cell := by
  obtain ⟨more, rfl⟩ := grown
  obtain ⟨bound, _⟩ := List.getElem?_eq_some_iff.mp here
  rwa [List.getElem?_append_left bound]

/-- What a slice showed it still shows when arrays were added. -/
theorem view_extend (grown : before <+: after) (shown : view before s = some items) :
    view after s = some items := by
  unfold view at shown ⊢
  split
  · rename_i empty
    rwa [if_pos empty] at shown
  · rename_i some_
    rw [if_neg some_] at shown
    obtain ⟨array, here, shown⟩ := Option.bind_eq_some_iff.mp shown
    rw [getElem?_extend grown here]
    exact shown

theorem deref_extend {cells cells' : List α} (grown : cells <+: cells') {pointer : Option ℕ} {found : Option α}
    (led : deref cells pointer = some found) : deref cells' pointer = some found := by
  cases pointer with
  | none => exact led
  | some pointer =>
    obtain ⟨cell, here, rfl⟩ := Option.map_eq_some_iff.mp led
    exact Option.map_eq_some_iff.mpr ⟨cell, getElem?_extend grown here, rfl⟩

theorem view_fresh (arrays : List (List α)) (items : List α) :
    view (arrays ++ [items]) (fresh arrays items) = some items := by
  unfold view fresh
  dsimp only
  split
  · rename_i empty
    rw [List.length_eq_zero_iff.mp empty]
  · simp

/-- A write to a new array leaves the old ones. -/
theorem store_extend (grown : before <+: after) (new : before.length ≤ s.array) (i : ℕ) (item : α) :
    before <+: store after s i item := by
  have front := List.prefix_iff_eq_take.mp grown
  rw [store, List.prefix_iff_eq_take, List.take_modify, ← front, List.modify_eq_self new]

theorem view_store {i : ℕ} (shown : view before s = some items) (inside : i < s.length) (item : α) :
    view (store before s i item) s = some (items.set i item) := by
  have some_ : s.length ≠ 0 := by omega
  unfold view at shown ⊢
  rw [if_neg some_] at shown ⊢
  obtain ⟨array, here, shown⟩ := Option.bind_eq_some_iff.mp shown
  split at shown
  · rename_i bound
    cases shown
    rw [store, List.getElem?_modify_eq, here]
    simp only [Option.map_eq_map, Option.map_some, Option.bind_some, List.length_set]
    rw [if_pos bound, Option.some.injEq]
    apply List.ext_getElem?
    intro j
    rw [List.getElem?_take, List.getElem?_drop, List.getElem?_set, List.getElem?_set, List.getElem?_take,
      List.getElem?_drop, List.length_take, List.length_drop]
    by_cases same : i = j
    · subst same
      rw [if_pos inside, if_pos rfl, if_pos rfl, if_pos (by omega), if_pos (by omega)]
    · have apart : s.offset + i ≠ s.offset + j := by omega
      simp only [if_neg same, if_neg apart]
  · cases shown

theorem clone_some (shown : view before s = some items) :
    clone before s = some (fresh before items, before ++ [items]) := by
  rw [clone, shown, Option.map_some]

end Arena

/-! ## Loops that rewrite in place -/

theorem mapM_some_iff {f : α → Option β} {xs : List α} {ys : List β} :
    xs.mapM f = some ys ↔ xs.map f = ys.map some := by
  induction xs generalizing ys with
  | nil => cases ys <;> simp
  | cons x rest ih =>
    rw [List.mapM_cons]
    cases ys with
    | nil => simp [Option.bind_eq_some_iff]
    | cons y others =>
      rw [List.map_cons, List.map_cons, List.cons.injEq, ← ih]
      simp only [Option.bind_eq_bind, Option.bind_eq_some_iff, Option.pure_def, Option.some.injEq, List.cons.injEq]
      constructor
      · rintro ⟨y', first, others', onward, rfl, rfl⟩
        exact ⟨first, onward⟩
      · rintro ⟨first, onward⟩
        exact ⟨y, first, others, onward, rfl, rfl⟩

/-- The items before `k` are rewritten, the others not yet. -/
def rewrittenTo (f : α → α) (k : ℕ) (xs : List α) : List α := (xs.take k).map f ++ xs.drop k

theorem rewrittenTo_succ {f : α → α} {k : ℕ} {xs : List α} {x : α} (here : xs[k]? = some x) :
    (rewrittenTo f k xs)[k]? = some x ∧ (rewrittenTo f k xs).set k (f x) = rewrittenTo f (k + 1) xs := by
  obtain ⟨bound, is⟩ := List.getElem?_eq_some_iff.mp here
  have length : ((xs.take k).map f).length = k := by
    rw [List.length_map, List.length_take]
    omega
  have split_ : xs.drop k = x :: xs.drop (k + 1) := by rw [List.drop_eq_getElem_cons bound, is]
  unfold rewrittenTo
  rw [split_, List.take_add_one, here]
  constructor
  · rw [List.getElem?_append_right (by omega), length, Nat.sub_self]
    rfl
  · rw [List.set_append_right _ _ (by omega), length, Nat.sub_self]
    simp

/-- What each step keeps while it rewrites one item, the loop keeps while it rewrites all. -/
theorem rewrite_loop {kept : List α → σ → Prop} {f : α → α} {step : σ → ℕ → Option σ}
    (one : ∀ xs s i x, kept xs s → xs[i]? = some x → ∃ s', step s i = some s' ∧ kept (xs.set i (f x)) s')
    {xs : List α} {s : σ} (start : kept xs s) :
    ∃ s', (List.range xs.length).foldlM step s = some s' ∧ kept (xs.map f) s' := by
  have upTo : ∀ k ≤ xs.length, ∃ s', (List.range k).foldlM step s = some s' ∧ kept (rewrittenTo f k xs) s' := by
    intro k
    induction k with
    | zero => exact fun _ => ⟨s, rfl, start⟩
    | succ k ih =>
      intro bound
      obtain ⟨middle, ran, keeps⟩ := ih (by omega)
      have here : xs[k]? = some xs[k] := List.getElem?_eq_getElem _
      obtain ⟨still, next⟩ := rewrittenTo_succ (f := f) here
      obtain ⟨s', stepped, keeps'⟩ := one _ _ _ _ keeps still
      rw [next] at keeps'
      refine ⟨s', ?_, keeps'⟩
      rw [List.range_succ, List.foldlM_append, ran]
      simpa using stepped
  obtain ⟨s', ran, keeps⟩ := upTo xs.length (Nat.le_refl _)
  rw [rewrittenTo, List.take_length, List.drop_length, List.append_nil] at keeps
  exact ⟨s', ran, keeps⟩

end AnselmGateway.Foundation
