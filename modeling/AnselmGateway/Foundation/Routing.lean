import Mathlib.Data.List.Basic

/-! Dispatch by the words of a path. A table pairs patterns with what they lead to. A lookup
goes down the path once and prefers a literal to a wildcard where both go on; a wildcard
stands for any word but the one that closes a path. -/
namespace AnselmGateway.Foundation.Routing

inductive Segment (α : Type) where
  | literal (word : α)
  | wildcard
  deriving DecidableEq

abbrev Pattern (α : Type) := List (Segment α)

variable {α β : Type} [DecidableEq α] (closing : α)

/-- Whether a pattern fits a path. -/
def fits : Pattern α → List α → Bool
  | [], [] => true
  | .literal word :: pattern, found :: path => decide (word = found) && fits pattern path
  | .wildcard :: pattern, found :: path => !decide (found = closing) && fits pattern path
  | _, _ => false

/-- The words that the wildcards of a pattern stand for. -/
def captured : Pattern α → List α → List α
  | .literal _ :: pattern, _ :: path => captured pattern path
  | .wildcard :: pattern, found :: path => found :: captured pattern path
  | _, _ => []

/-- The entries that go on behind a segment. -/
def below (first : Segment α) (table : List (Pattern α × β)) : List (Pattern α × β) :=
  table.filterMap fun entry =>
    match entry.1 with
    | [] => none
    | segment :: rest => if segment = first then some (rest, entry.2) else none

def lookup : List (Pattern α × β) → List α → Option β
  | table, [] => (table.find? fun entry => entry.1.isEmpty).map fun entry => entry.2
  | table, word :: path =>
    (lookup (below (.literal word) table) path).or
      (if word = closing then none else lookup (below .wildcard table) path)

variable {closing}

theorem mem_below {first : Segment α} {table : List (Pattern α × β)} {pattern : Pattern α} {target : β} :
    (pattern, target) ∈ below first table ↔ (first :: pattern, target) ∈ table := by
  simp only [below, List.mem_filterMap]
  constructor
  · rintro ⟨⟨_ | ⟨segment, rest⟩, other⟩, member, kept⟩
    · cases kept
    · dsimp only at kept
      split at kept
      · rename_i same
        cases kept
        exact same ▸ member
      · cases kept
  · intro member
    exact ⟨_, member, if_pos rfl⟩

/-- What is found is found under a pattern that fits. -/
theorem lookup_fits {path : List α} {table : List (Pattern α × β)} {target : β}
    (found : lookup closing table path = some target) :
    ∃ pattern, (pattern, target) ∈ table ∧ fits closing pattern path = true := by
  induction path generalizing table with
  | nil =>
    obtain ⟨⟨pattern, other⟩, held, rfl⟩ := Option.map_eq_some_iff.mp found
    have empty := List.find?_some held
    cases pattern with
    | nil => exact ⟨[], List.mem_of_find?_eq_some held, rfl⟩
    | cons _ _ => cases empty
  | cons word path ih =>
    rcases Option.or_eq_some_iff.mp found with direct | ⟨_, wild⟩
    · obtain ⟨pattern, member, fit⟩ := ih direct
      refine ⟨.literal word :: pattern, mem_below.mp member, ?_⟩
      simpa only [fits, decide_true, Bool.true_and] using fit
    · split at wild
      · cases wild
      · rename_i open_
        obtain ⟨pattern, member, fit⟩ := ih wild
        refine ⟨.wildcard :: pattern, mem_below.mp member, ?_⟩
        simp only [fits, open_, decide_false, Bool.not_false, Bool.true_and]
        exact fit

/-- Where a pattern fits, something is found. -/
theorem lookup_isSome {path : List α} {table : List (Pattern α × β)} {pattern : Pattern α} {target : β}
    (member : (pattern, target) ∈ table) (fit : fits closing pattern path = true) :
    (lookup closing table path).isSome = true := by
  induction path generalizing table pattern with
  | nil =>
    cases pattern with
    | nil =>
      rw [lookup, Option.isSome_map, List.find?_isSome]
      exact ⟨_, member, rfl⟩
    | cons segment _ => cases segment <;> cases fit
  | cons word path ih =>
    rw [lookup, Option.isSome_or, Bool.or_eq_true]
    cases pattern with
    | nil => cases fit
    | cons segment pattern =>
      cases segment with
      | literal here =>
        simp only [fits, Bool.and_eq_true, decide_eq_true_eq] at fit
        obtain ⟨rfl, fit⟩ := fit
        exact .inl (ih (mem_below.mpr member) fit)
      | wildcard =>
        simp only [fits, Bool.and_eq_true, Bool.not_eq_true', decide_eq_false_iff_not] at fit
        rw [if_neg fit.1]
        exact .inr (ih (mem_below.mpr member) fit.2)

/-! ## Patterns that are apart -/

/-- The patterns have different lengths, or different literals in one place. -/
def apart : Pattern α → Pattern α → Bool
  | [], [] => false
  | .literal word :: p, .literal other :: q => !decide (word = other) || apart p q
  | _ :: p, _ :: q => apart p q
  | _, _ => true

/-- No path fits two patterns that are apart. -/
theorem fits_apart {p q : Pattern α} {path : List α} (apart_ : apart p q = true)
    (left : fits closing p path = true) : fits closing q path = false := by
  induction path generalizing p q with
  | nil =>
    cases p with
    | nil => cases q with
      | nil => cases apart_
      | cons segment _ => cases segment <;> rfl
    | cons segment _ => cases segment <;> cases left
  | cons word path ih =>
    cases p with
    | nil => cases left
    | cons segment p => cases q with
      | nil => rfl
      | cons other q =>
        cases segment <;> cases other <;>
          simp only [fits, apart, Bool.and_eq_true, Bool.or_eq_true, Bool.not_eq_true',
            decide_eq_true_eq, decide_eq_false_iff_not, Bool.and_eq_false_imp] at apart_ left ⊢
        · rintro rfl
          exact ih (apart_.resolve_left fun different => different left.1) left.2
        · exact fun _ => ih apart_ left.2
        · exact fun _ => ih apart_ left.2
        · exact fun _ => ih apart_ left.2

/-- Where entries with different targets are apart, a lookup finds exactly what fits. -/
theorem lookup_eq_some_iff {path : List α} {table : List (Pattern α × β)} {target : β}
    (separate : ∀ entry ∈ table, ∀ other ∈ table,
      apart entry.1 other.1 = true ∨ entry.2 = other.2) :
    lookup closing table path = some target ↔
      ∃ pattern, (pattern, target) ∈ table ∧ fits closing pattern path = true := by
  refine ⟨lookup_fits, fun ⟨pattern, member, fit⟩ => ?_⟩
  obtain ⟨other, found⟩ := Option.isSome_iff_exists.mp (lookup_isSome member fit)
  obtain ⟨pattern', member', fit'⟩ := lookup_fits found
  rcases separate _ member _ member' with apart_ | same
  · rw [fits_apart apart_ fit] at fit'
    cases fit'
  · rw [found]
    exact congrArg some same.symm

end AnselmGateway.Foundation.Routing
